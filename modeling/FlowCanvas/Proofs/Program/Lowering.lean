import FlowCanvas.Proofs.Program.Coverage
import FlowCanvas.Proofs.Program.Grouping
import FlowCanvas.Proofs.Program.Legible

/-!
# What becomes of an edge

An edge is of one of six kinds, by what its ends are: it touches a remark, leaves START, dangles, is
a choice of a branch, feeds a branch, or is plain. The tests are made in this order, and the first
one that an edge meets is its kind. A program makes use of edges in several passes, each with a test
of its own, over ids that may belong to no node. The main result says that together they sort all
edges, with none lost and none taken twice (`edges_lowered`): the transitions are the plain edges,
and the choices are handed on together with those edges out of branches that dangle, which add
nothing.
-/

namespace FlowCanvas

universe u v w

/-- The kinds of edges. -/
inductive EdgeKind where
  /-- it touches a remark -/
  | remark
  /-- it leaves START -/
  | entry
  /-- it has an end that does not exist -/
  | dangling
  /-- it leaves a branch -/
  | choice
  /-- it enters a branch -/
  | feed
  /-- it is none of these -/
  | plain
  deriving DecidableEq, Repr

namespace EdgeKind

/-- The kinds that are tested before a kind. -/
def before : EdgeKind → List EdgeKind
  | remark => []
  | entry => [remark]
  | dangling => [remark, entry]
  | choice => [remark, entry, dangling]
  | feed => [remark, entry, dangling, choice]
  | plain => [remark, entry, dangling, choice, feed]

/-- Of two kinds one is tested first. -/
theorem eq_or_mem_before (j k : EdgeKind) : j = k ∨ j ∈ k.before ∨ k ∈ j.before := by
  cases j <;> cases k <;> decide

end EdgeKind

/-- Lists are made one after the other from entries that all yield something. -/
theorem forall₂_filterMap_of_some {β : Type v} {γ : Type w} {f : β → Option γ} {r : β → γ → Prop} :
    ∀ {l : List β}, (∀ b ∈ l, ∃ c, f b = some c ∧ r b c) → List.Forall₂ r l (l.filterMap f)
  | [], _ => .nil
  | b :: l, h => by
    obtain ⟨⟨c, hc, hr⟩, hrest⟩ := List.forall_mem_cons.mp h
    rw [List.filterMap_cons_some hc]
    exact .cons hr (forall₂_filterMap_of_some hrest)

namespace Graph

variable {α : Type u}

/-! ### The kind of an edge -/

/-- The test of a kind. -/
def Meets (g : Graph α) (e : Edge α) : EdgeKind → Prop
  | .remark => ∃ n ∈ g.nodes, n.role = .remark ∧ (n.id = e.source ∨ n.id = e.target)
  | .entry => ∃ n ∈ g.nodes, n.category = .start ∧ n.id = e.source
  | .dangling => (∀ n ∈ g.nodes, n.id ≠ e.source) ∨ ∀ n ∈ g.nodes, n.id ≠ e.target
  | .choice => ∃ n ∈ g.nodes, n.role = .dispatch ∧ n.id = e.source
  | .feed => ∃ n ∈ g.nodes, n.role = .dispatch ∧ n.id = e.target
  | .plain => True

instance (g : Graph α) (e : Edge α) : DecidablePred (g.Meets e)
  | .remark => inferInstanceAs
      (Decidable (∃ n ∈ g.nodes, n.role = .remark ∧ (n.id = e.source ∨ n.id = e.target)))
  | .entry => inferInstanceAs (Decidable (∃ n ∈ g.nodes, n.category = .start ∧ n.id = e.source))
  | .dangling => inferInstanceAs
      (Decidable ((∀ n ∈ g.nodes, n.id ≠ e.source) ∨ ∀ n ∈ g.nodes, n.id ≠ e.target))
  | .choice => inferInstanceAs (Decidable (∃ n ∈ g.nodes, n.role = .dispatch ∧ n.id = e.source))
  | .feed => inferInstanceAs (Decidable (∃ n ∈ g.nodes, n.role = .dispatch ∧ n.id = e.target))
  | .plain => isTrue trivial

/-- That an edge is of a kind: it meets the test, and none of those before it. -/
def IsKind (g : Graph α) (e : Edge α) (k : EdgeKind) : Prop :=
  g.Meets e k ∧ ∀ j ∈ k.before, ¬ g.Meets e j

instance (g : Graph α) (e : Edge α) : DecidablePred (g.IsKind e) :=
  fun k => inferInstanceAs (Decidable (g.Meets e k ∧ ∀ j ∈ k.before, ¬ g.Meets e j))

/-- That a transition leads from the one end of an edge to the other one. -/
def Joins (g : Graph α) (e : Edge α) (t : Transition) : Prop :=
  ∃ m n, g.node? e.source = some m ∧ g.node? e.target = some n ∧ t = ⟨m.nameInCode, n.nameInCode⟩

variable {g : Graph α} {e : Edge α}

theorem IsKind.eq {j k : EdgeKind} (hj : g.IsKind e j) (hk : g.IsKind e k) : j = k := by
  rcases j.eq_or_mem_before k with same | hbefore | hbefore
  · exact same
  · exact absurd hj.1 (hk.2 j hbefore)
  · exact absurd hk.1 (hj.2 k hbefore)

/-- **Each edge is of exactly one kind.** -/
theorem existsUnique_isKind (g : Graph α) (e : Edge α) : ∃! k, g.IsKind e k := by
  suffices first : ∃ k, g.IsKind e k by
    obtain ⟨k, hk⟩ := first
    exact ⟨k, hk, fun j hj => hj.eq hk⟩
  by_cases h₁ : g.Meets e .remark
  · exact ⟨.remark, h₁, by simp [EdgeKind.before]⟩
  by_cases h₂ : g.Meets e .entry
  · exact ⟨.entry, h₂, by simp [EdgeKind.before, h₁]⟩
  by_cases h₃ : g.Meets e .dangling
  · exact ⟨.dangling, h₃, by simp [EdgeKind.before, h₁, h₂]⟩
  by_cases h₄ : g.Meets e .choice
  · exact ⟨.choice, h₄, by simp [EdgeKind.before, h₁, h₂, h₃]⟩
  by_cases h₅ : g.Meets e .feed
  · exact ⟨.feed, h₅, by simp [EdgeKind.before, h₁, h₂, h₃, h₄]⟩
  exact ⟨.plain, trivial, by simp [EdgeKind.before, h₁, h₂, h₃, h₄, h₅]⟩

/-! ### The tests that a program makes -/

section Distinct

variable (hids : (g.nodes.map Node.id).Nodup)
include hids

theorem latest?_eq_some_iff {id : String} {n : Node α} :
    latest? g.nodes id = some n ↔ n ∈ g.nodes ∧ n.id = id := by
  rw [latest?_eq_node? hids]
  constructor
  · exact fun h => ⟨mem_of_node? h, id_of_node? h⟩
  · rintro ⟨hn, rfl⟩
    exact node?_of_mem hids hn

theorem role?_eq_some_iff {id : String} {r : Role} :
    g.role? id = some r ↔ ∃ n ∈ g.nodes, n.role = r ∧ n.id = id := by
  rw [role?, Option.map_eq_some_iff]
  refine exists_congr fun n => ?_
  rw [latest?_eq_some_iff hids, and_assoc, and_comm (a := n.id = id)]

theorem isStart_iff_meets : g.isStart e.source = true ↔ g.Meets e .entry := by
  rw [isStart, Option.any_eq_true]
  refine exists_congr fun n => ?_
  rw [latest?_eq_some_iff hids, decide_eq_true_eq, and_assoc, and_comm (a := n.id = e.source)]

theorem isLive_iff_meets :
    g.isLive e = true ↔ ¬ g.Meets e .remark ∧ ¬ g.Meets e .entry := by
  have touches : g.Meets e .remark ↔
      g.role? e.source = some .remark ∨ g.role? e.target = some .remark := by
    rw [role?_eq_some_iff hids, role?_eq_some_iff hids, ← exists_or]
    refine exists_congr fun n => ?_
    tauto
  rw [touches, ← isStart_iff_meets hids]
  simp [isLive, and_assoc]

theorem dangles_iff_meets : g.dangles e = true ↔ g.Meets e .dangling := by
  have absent (id : String) : latest? g.nodes id = none ↔ ∀ n ∈ g.nodes, n.id ≠ id := by
    rw [Option.eq_none_iff_forall_ne_some]
    simp only [ne_eq, latest?_eq_some_iff hids, not_and]
  rw [dangles_iff, absent, absent]
  rfl

/-! ### What each pass takes -/

/-- A plain edge has a transition. -/
theorem exists_transition?_of_plain (h : g.IsKind e .plain) :
    ∃ t, g.transition? e = some t ∧ g.Joins e t := by
  have anchored : g.isAnchored e = true := by
    have still := mt (dangles_iff_meets hids).mp (h.2 .dangling (by decide))
    simpa [dangles_eq] using still
  obtain ⟨m, n, hm, hn⟩ := exists_ends_of_isAnchored anchored
  have leaves : m.role ≠ .dispatch := fun hrole =>
    h.2 .choice (by decide) ⟨m, mem_of_latest? hm, hrole, id_of_latest? hm⟩
  have enters : n.role ≠ .dispatch := fun hrole =>
    h.2 .feed (by decide) ⟨n, mem_of_latest? hn, hrole, id_of_latest? hn⟩
  refine ⟨⟨m.nameInCode, n.nameInCode⟩,
    transition?_eq_some_iff.mpr ⟨m, n, hm, hn, leaves, enters, rfl⟩, m, n, ?_, ?_, rfl⟩
  · rwa [← latest?_eq_node? hids]
  · rwa [← latest?_eq_node? hids]

/-- No other live edge has one. -/
theorem isKind_plain_of_transition? (live : g.isLive e = true) {t : Transition}
    (h : g.transition? e = some t) : g.IsKind e .plain := by
  obtain ⟨untouched, inner⟩ := (isLive_iff_meets hids).mp live
  obtain ⟨m, n, hm, hn, leaves, enters, -⟩ := transition?_eq_some_iff.mp h
  have anchored : ¬ g.Meets e .dangling := by
    rw [← dangles_iff_meets hids, dangles_iff, hm, hn]
    simp
  have noChoice : ¬ g.Meets e .choice := by
    change ¬ ∃ b ∈ g.nodes, b.role = .dispatch ∧ b.id = e.source
    rw [← role?_eq_some_iff hids, role?_of_latest? hm]
    simpa using leaves
  have noFeed : ¬ g.Meets e .feed := by
    change ¬ ∃ b ∈ g.nodes, b.role = .dispatch ∧ b.id = e.target
    rw [← role?_eq_some_iff hids, role?_of_latest? hn]
    simpa using enters
  exact ⟨trivial, by simp [EdgeKind.before, untouched, inner, anchored, noChoice, noFeed]⟩

/-- The transitions are those of the plain edges. -/
theorem transitions_eq_plain :
    g.program.transitions =
      (g.edges.filter fun e => g.IsKind e .plain).filterMap g.transition? := by
  change (g.edges.filter g.isLive).filterMap g.transition? = _
  rw [List.filterMap_filter, List.filterMap_filter]
  refine List.filterMap_congr fun e _ => ?_
  by_cases plain : g.IsKind e .plain
  · have live : g.isLive e = true := (isLive_iff_meets hids).mpr
      ⟨plain.2 .remark (by decide), plain.2 .entry (by decide)⟩
    rw [if_pos live, if_pos (decide_eq_true plain)]
  · have none : g.isLive e = true → g.transition? e = none := fun live =>
      Option.eq_none_iff_forall_ne_some.mpr fun t h =>
        plain (isKind_plain_of_transition? hids live h)
    simp only [decide_eq_true_eq, if_neg plain]
    split
    · next live => exact none live
    · rfl

/-- The edges that are handed on to be grouped are the choices and the dangling edges out of
branches. -/
theorem chosenEdges_eq_choices :
    g.chosenEdges = g.edges.filter fun e =>
      g.IsKind e .choice ∨ g.IsKind e .dangling ∧ g.Meets e .choice := by
  rw [chosenEdges, liveEdges, List.filter_filter]
  refine List.filter_congr fun e _ => ?_
  have leaves : g.role? e.source = some .dispatch ↔ g.Meets e .choice := role?_eq_some_iff hids
  have live := isLive_iff_meets hids (e := e)
  rw [Bool.eq_iff_iff, Bool.and_eq_true, decide_eq_true_eq, decide_eq_true_eq, leaves, live]
  simp only [IsKind, EdgeKind.before, List.forall_mem_cons, List.not_mem_nil, false_imp_iff,
    implies_true, and_true]
  -- what leaves a branch is a choice, unless the test before stops it
  by_cases dangling : g.Meets e .dangling
  · simp [dangling, and_comm]
  · simp [dangling]

/-- Those that dangle are no choices, so they make no difference to the blocks. -/
theorem dispatches_eq_choices :
    g.program.dispatches =
      dispatches g.nodes g.edges (g.edges.filter fun e => g.IsKind e .choice) := by
  have taken : g.chosenEdges.filterMap (choice? g.nodes g.edges) =
      (g.edges.filter fun e => g.IsKind e .choice).filterMap (choice? g.nodes g.edges) := by
    rw [chosenEdges_eq_choices hids, List.filterMap_filter, List.filterMap_filter]
    refine List.filterMap_congr fun e _ => ?_
    by_cases choice : g.IsKind e .choice
    · simp [choice]
    · -- without a target there is nothing to choose
      have none : g.IsKind e .dangling → choice? g.nodes g.edges e = none := fun dangling => by
        rw [choice?_eq, arm?_of_dangles ((dangles_iff_meets hids).mpr dangling.1), Option.bind_none]
      by_cases dangling : g.IsKind e .dangling
      · simp [none dangling]
      · simp [choice, dangling]
  exact congrArg (List.foldl _ []) taken

end Distinct

/-- **Edges are sorted by their kinds.** The text is the statements after the header. Each edge is
of exactly one kind. The transitions are the plain edges, one for each, in the order of the edges
and between the names of their ends. The edges that are handed on to be grouped into blocks are the
choices and the dangling edges out of branches, and the blocks are those of the choices alone. The
steps are the executable nodes, in the order of the nodes. -/
theorem edges_lowered (g : Graph α) (hids : (g.nodes.map Node.id).Nodup) :
    let statements := g.program.statements
    g.source =
      "\n".intercalate (headerLines g.name ++ statements.flatMap (Statement.lines g.name)) ∧
    (∀ e ∈ g.edges, ∃! k, g.IsKind e k) ∧
    List.Forall₂ g.Joins (g.edges.filter fun e => g.IsKind e .plain)
      (statements.filterMap Statement.transition?) ∧
    (g.chosenEdges = g.edges.filter fun e =>
      g.IsKind e .choice ∨ g.IsKind e .dangling ∧ g.Meets e .choice) ∧
    g.program.dispatches =
      dispatches g.nodes g.edges (g.edges.filter fun e => g.IsKind e .choice) ∧
    statements.filterMap Statement.registration? =
      (g.nodes.filter fun n => n.role = .executable).map Node.registration := by
  intro statements
  refine ⟨congrArg _ g.program.lines_eq, fun e _ => g.existsUnique_isKind e, ?_,
    chosenEdges_eq_choices hids, dispatches_eq_choices hids, g.program.filterMap_registration?⟩
  rw [g.program.filterMap_transition?, transitions_eq_plain hids]
  refine forall₂_filterMap_of_some fun e he => ?_
  exact exists_transition?_of_plain hids (of_decide_eq_true (List.mem_filter.mp he).2)

/-- A graph with edges of all kinds, with two that dangle where they leave START and a branch, and
with two plain edges between the same nodes. -/
def assorted : Graph Number where
  nodes := [⟨"start-1", .start, "START", "start", .null, Point.origin⟩,
    ⟨"action-1", .action, "Agent", "agent", .null, Point.origin⟩,
    ⟨"branch-1", .branch, "Conditional Edge", "choose", .null, Point.origin⟩,
    ⟨"tool-1", .tool, "Tool", "look", .null, Point.origin⟩,
    ⟨"text-1", .remark, "Text", "note", .null, Point.origin⟩]
  edges := [⟨"e1", "start-1", "ghost", none, false⟩, ⟨"e2", "branch-1", "text-1", none, false⟩,
    ⟨"e3", "tool-1", "action-1", none, false⟩, ⟨"e4", "branch-1", "ghost", none, false⟩,
    ⟨"e5", "action-1", "branch-1", none, false⟩, ⟨"e6", "branch-1", "branch-1", none, false⟩,
    ⟨"e7", "ghost", "branch-1", none, false⟩, ⟨"e8", "tool-1", "action-1", none, false⟩]
  entryPoint := .null
  name := defaultGraphName

theorem edges_lowered_assorted :
    (assorted.nodes.map Node.id).Nodup ∧
      assorted.source = "\n".intercalate (headerLines assorted.name ++
        ["my_graph.add_node(\"agent\", \"agent_func\")",
          "my_graph.add_node(\"look\", \"look_func\")",
          "",
          "my_graph.add_conditional_edges(",
          "    \"agent\",",
          "    conditional_function_1,",
          "    \x7b",
          "        \"choose\": \"choose\",",
          "    \x7d,",
          ")",
          "my_graph.add_edge(\"look\", \"agent\")",
          "my_graph.add_edge(\"look\", \"agent\")"]) ∧
      (assorted.edges.filter fun e => assorted.IsKind e .plain).map Edge.id = ["e3", "e8"] ∧
      List.Forall₂ assorted.Joins (assorted.edges.filter fun e => assorted.IsKind e .plain)
        (assorted.program.statements.filterMap Statement.transition?) ∧
      assorted.chosenEdges.map Edge.id = ["e4", "e6"] ∧
      (assorted.edges.filter fun e => assorted.IsKind e .choice).map Edge.id = ["e6"] := by
  have hids : (assorted.nodes.map Node.id).Nodup := by decide
  obtain ⟨text, -, plain, handed, -⟩ := edges_lowered assorted hids
  refine ⟨hids, text.trans (congrArg _ (by decide)), by decide, plain, ?_, by decide⟩
  rw [handed]
  decide

end Graph

end FlowCanvas
