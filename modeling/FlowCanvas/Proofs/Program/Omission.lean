import FlowCanvas.Number.Basic
import FlowCanvas.Proofs.Graph.Issue
import FlowCanvas.Proofs.Program.Pruning

/-!
# What a program leaves out

The compiler notes an omission for the recorded entry point that no run enters at, for each edge out
of a branch that is no choice, and for each live edge that dangles. It resolves ids through the last
node that has them, the checks of a graph ask whether there is any, and both look at the first edge
where several would do. The main result says that they never disagree: whatever is noted as left out
has an issue that says why (`omissions_reported`). Nothing is asked of the graph, so ids may occur
twice.
-/

namespace FlowCanvas

universe u

namespace Graph

variable {α : Type u}

/-- The edges out of branches that are noted as left out, in order. -/
def skippedChoices (g : Graph α) : List (Edge α) :=
  g.chosenEdges.filter fun e => (choice? g.nodes g.edges e).isNone

/-- The dangling edges that are noted as left out, in order. -/
def skippedTransitions (g : Graph α) : List (Edge α) := g.liveEdges.filter g.dangles

theorem omissions_eq (g : Graph α) :
    g.omissions = g.omittedEntry ++ g.skippedChoices.map (fun e => .choice e.id) ++
      g.skippedTransitions.map fun e => .transition e.id e.source e.target :=
  rfl

/-! ### Why nothing is found -/

theorem choice?_eq_none_iff {nodes : List (Node α)} {edges : List (Edge α)} {e : Edge α} :
    choice? nodes edges e = none ↔ latest? nodes e.source = none ∨
      feeder? nodes edges e.source = none ∨ latest? nodes e.target = none := by
  rw [choice?]
  cases latest? nodes e.source <;> cases feeder? nodes edges e.source <;>
    cases latest? nodes e.target <;> simp

section

variable {g : Graph α}

theorem reports_of_dangles {e : Edge α} (he : e ∈ g.edges) (h : g.dangles e = true) :
    g.Reports "dangling_edge" e.id :=
  reports_danglingEdge he (by rwa [dangles_eq, Bool.not_eq_true'] at h)

/-- A branch is not fed if no edge enters it, or if the first one that does comes from nowhere. -/
theorem reports_of_unfed {n : Node α} (hn : n ∈ g.nodes) (hrole : n.role = .dispatch)
    (h : feeder? g.nodes g.edges n.id = none) :
    g.Reports "unresolved_dispatch" n.id ∨
      ∃ f, g.firstInto? n.id = some f ∧ g.Reports "dangling_edge" f.id := by
  cases hf : g.firstInto? n.id with
  | none =>
    refine .inl (reports_unresolvedDispatch hn hrole fun e he htarget => ?_)
    exact List.find?_eq_none.mp hf e he (by simp [htarget])
  | some f =>
    have nowhere : latest? g.nodes f.source = none := Option.bind_eq_none_iff.mp h f hf
    exact .inr ⟨f, rfl,
      reports_of_dangles (List.mem_of_find?_eq_some hf) (dangles_iff.mpr (.inl nowhere))⟩

theorem reports_of_skippedChoice {e : Edge α} (h : e ∈ g.skippedChoices) :
    g.Reports "dangling_edge" e.id ∨ g.Reports "unresolved_dispatch" e.source ∨
      ∃ f, g.firstInto? e.source = some f ∧ g.Reports "dangling_edge" f.id := by
  obtain ⟨hchosen, hnone⟩ := List.mem_filter.mp h
  obtain ⟨n, hn, hrole⟩ := exists_source_of_mem_chosenEdges hchosen
  rcases choice?_eq_none_iff.mp (Option.isNone_iff_eq_none.mp hnone) with hs | hfeeder | ht
  · rw [hn] at hs
    cases hs
  · rw [← id_of_latest? hn] at hfeeder ⊢
    exact .inr (reports_of_unfed (mem_of_latest? hn) hrole hfeeder)
  · have he : e ∈ g.edges := (mem_chosenEdges_iff.mp hchosen).1
    exact .inl (reports_of_dangles he (dangles_iff.mpr (.inr ht)))

theorem reports_of_skippedTransition {e : Edge α} (h : e ∈ g.skippedTransitions) :
    g.Reports "dangling_edge" e.id := by
  obtain ⟨hlive, hdangles⟩ := List.mem_filter.mp h
  exact reports_of_dangles (List.mem_filter.mp hlive).1 hdangles

/-- A run enters nowhere if there is no START, if no edge leaves it, or if the first one that does
leads nowhere. -/
theorem reports_of_no_entry (h : g.entry? = none) :
    g.Reports "missing_start" "" ∨ ∃ s, g.start? = some s ∧
      (g.Reports "no_entry_edge" s.id ∨
        ∃ f, g.firstFrom? s.id = some f ∧ g.Reports "dangling_edge" f.id) := by
  cases hs : g.start? with
  | none => exact .inl (reports_missingStart hs)
  | some s =>
    refine .inr ⟨s, rfl, ?_⟩
    cases hf : g.firstFrom? s.id with
    | none => exact .inl (reports_noEntryEdge hs hf)
    | some f =>
      have nowhere : g.node? f.target = none :=
        Option.bind_eq_none_iff.mp (Option.bind_eq_none_iff.mp h s hs) f hf
      have absent : g.has f.target = false := by
        rw [← node?_isSome, nowhere, Option.isSome_none]
      refine .inr ⟨f, rfl, reports_danglingEdge (List.mem_of_find?_eq_some hf) ?_⟩
      rw [isAnchored, absent, Bool.and_false]

end

/-- **Whatever is noted as left out of a program has an issue that says why.** -/
theorem omissions_reported (g : Graph α) :
    g.omissions = g.omittedEntry ++ g.skippedChoices.map (fun e => .choice e.id) ++
        g.skippedTransitions.map (fun e => .transition e.id e.source e.target) ∧
      (g.omittedEntry ≠ [] → g.Reports "missing_start" "" ∨ ∃ s, g.start? = some s ∧
        (g.Reports "no_entry_edge" s.id ∨
          ∃ f, g.firstFrom? s.id = some f ∧ g.Reports "dangling_edge" f.id)) ∧
      (∀ e ∈ g.skippedChoices, g.Reports "dangling_edge" e.id ∨
        g.Reports "unresolved_dispatch" e.source ∨
          ∃ f, g.firstInto? e.source = some f ∧ g.Reports "dangling_edge" f.id) ∧
      ∀ e ∈ g.skippedTransitions, g.Reports "dangling_edge" e.id := by
  refine ⟨g.omissions_eq, fun hentry => ?_, fun e he => reports_of_skippedChoice he,
    fun e he => reports_of_skippedTransition he⟩
  -- the recorded entry point is only noted where a run has no entry
  have unentered : (g.entry?.isNone && g.entryPoint.isSet) = true := by
    by_contra hset
    exact hentry (if_neg hset)
  exact reports_of_no_entry (Option.isNone_iff_eq_none.mp (Bool.and_eq_true_iff.mp unentered).1)

/-- A graph that says where a run enters, but whose first edge out of START leads nowhere. Two nodes
and two edges share an id, and one of its branches is fed from nowhere and the other one not at
all. -/
def scattered : Graph Number where
  nodes := [⟨"start-1", .start, "START", "start", .null, Point.origin⟩,
    ⟨"node-1", .action, "Agent", "agent", .null, Point.origin⟩,
    ⟨"node-1", .branch, "Conditional Edge", "choose", .null, Point.origin⟩,
    ⟨"branch-1", .branch, "Conditional Edge", "loose", .null, Point.origin⟩,
    ⟨"tool-1", .tool, "Tool", "look", .null, Point.origin⟩]
  edges := [⟨"e1", "start-1", "ghost", none, false⟩, ⟨"e2", "ghost", "node-1", none, false⟩,
    ⟨"e3", "node-1", "tool-1", none, false⟩, ⟨"e3", "branch-1", "tool-1", none, false⟩,
    ⟨"e4", "tool-1", "ghost", none, false⟩]
  entryPoint := .string "agent"
  name := defaultGraphName

theorem omissions_reported_scattered :
    scattered.omittedEntry ≠ [] ∧
      (scattered.Reports "missing_start" "" ∨ ∃ s, scattered.start? = some s ∧
        (scattered.Reports "no_entry_edge" s.id ∨
          ∃ f, scattered.firstFrom? s.id = some f ∧ scattered.Reports "dangling_edge" f.id)) ∧
      scattered.skippedChoices.map Edge.source = ["node-1", "branch-1"] ∧
      (∀ e ∈ scattered.skippedChoices, scattered.Reports "dangling_edge" e.id ∨
        scattered.Reports "unresolved_dispatch" e.source ∨
          ∃ f, scattered.firstInto? e.source = some f ∧ scattered.Reports "dangling_edge" f.id) ∧
      scattered.skippedTransitions.map Edge.id = ["e2", "e4"] ∧
      ∀ e ∈ scattered.skippedTransitions, scattered.Reports "dangling_edge" e.id := by
  obtain ⟨-, hentry, hchoices, htransitions⟩ := omissions_reported scattered
  have noted : scattered.omittedEntry ≠ [] := by decide
  exact ⟨noted, hentry noted, by decide, hchoices, by decide, htransitions⟩

end Graph

end FlowCanvas
