import FlowCanvas.Proofs.Graph.Issue
import FlowCanvas.Proofs.Program.Branch
import FlowCanvas.Proofs.Program.Remark

/-!
# What a program shows of the edges

Every edge that touches no remark has a statement of its kind to stand for it: the entry for one out
of START, a block for one into or out of a branch, a transition for any other. If no issue is
reported, two kinds of edges may still be missing from the program: one out of START that does not
lead to the entry, and one into a branch that leads nowhere. The main result says that there are no
others (`isShown_iff`).
-/

namespace FlowCanvas

universe u

variable {α : Type u}

/-- That a program has a statement for an edge from one node to another. -/
structure Program.Shows (p : Program) (s t : Node α) : Prop where
  /-- an edge out of START is the entry -/
  entry : s.category = .start → .enter t.nameInCode ∈ p.statements
  /-- an edge into a branch feeds a block -/
  feeder : s.category ≠ .start → t.role = .dispatch →
    ∃ number d, .choose number d ∈ p.statements ∧ d.branch = t.id ∧ d.feeder = s.nameInCode
  /-- an edge out of a branch is one of the choices in its block -/
  target : s.role = .dispatch →
    ∃ number d, .choose number d ∈ p.statements ∧ d.branch = s.id ∧ t.nameInCode ∈ d.targets
  /-- any other edge is a transition -/
  transition : s.category ≠ .start → s.role ≠ .dispatch → t.role ≠ .dispatch →
    .move ⟨s.nameInCode, t.nameInCode⟩ ∈ p.statements

namespace Graph

/-- That the program of a graph has a statement for an edge. -/
def IsShown (g : Graph α) (e : Edge α) : Prop :=
  ∃ s t, latest? g.nodes e.source = some s ∧ latest? g.nodes e.target = some t ∧
    g.program.Shows s t

/-- That an edge is not passed over for want of a use. -/
structure Counts (g : Graph α) (e : Edge α) : Prop where
  /-- if it leaves START, it leads to the name of the entry -/
  start : g.isStart e.source = true →
    (g.node? e.target).map Node.nameInCode = g.entry?.map Node.nameInCode
  /-- if it enters a branch, the branch leads somewhere -/
  branch : g.isStart e.source = false → g.role? e.target = some .dispatch → g.HasChoice e.target

section

variable {g : Graph α}

/-! ### The nodes at the ends of an edge -/

theorem exists_ends_of_isAnchored {e : Edge α} (h : g.isAnchored e = true) :
    ∃ s t, latest? g.nodes e.source = some s ∧ latest? g.nodes e.target = some t := by
  obtain ⟨hsource, htarget⟩ := Bool.and_eq_true_iff.mp h
  obtain ⟨s, hs⟩ := Option.isSome_iff_exists.mp ((latest?_isSome g.nodes e.source).trans hsource)
  obtain ⟨t, ht⟩ := Option.isSome_iff_exists.mp ((latest?_isSome g.nodes e.target).trans htarget)
  exact ⟨s, t, hs, ht⟩

/-! ### What no issue means for branches -/

/-- The one edge that enters a branch is the first one. -/
theorem firstInto?_of_quiet (hquiet : g.dispatchIssues = []) {n : Node α} (hn : n ∈ g.nodes)
    (hrole : n.role = .dispatch) :
    ∃ first, g.firstInto? n.id = some first ∧ ∀ e ∈ g.edges, e.target = n.id → e = first := by
  obtain ⟨first, hone⟩ := dispatchIssues_eq_nil_iff.mp hquiet n hn hrole
  refine ⟨first, ?_, fun e he htarget => ?_⟩
  · rw [firstInto?, ← List.head?_filter, hone, List.head?_cons]
  · have hmem : e ∈ g.edges.filter fun e => e.target == n.id :=
      List.mem_filter.mpr ⟨he, by simp [htarget]⟩
    rw [hone] at hmem
    exact List.mem_singleton.mp hmem

theorem feederName?_of_quiet (hquiet : g.dispatchIssues = []) {e : Edge α} (he : e ∈ g.edges)
    {s t : Node α} (hs : latest? g.nodes e.source = some s)
    (ht : latest? g.nodes e.target = some t) (hrole : t.role = .dispatch) :
    g.feederName? t.id = some s.nameInCode := by
  obtain ⟨first, hfirst, hsame⟩ := firstInto?_of_quiet hquiet (mem_of_latest? ht) hrole
  obtain rfl := hsame e he (id_of_latest? ht).symm
  rw [feederName?_eq, hfirst, Option.bind_some, hs, Option.map_some]

theorem exists_feederName?_of_quiet (hanchored : ∀ e ∈ g.edges, g.isAnchored e = true)
    (hquiet : g.dispatchIssues = []) {n : Node α} (hn : n ∈ g.nodes) (hrole : n.role = .dispatch) :
    ∃ name, g.feederName? n.id = some name := by
  obtain ⟨first, hfirst, -⟩ := firstInto?_of_quiet hquiet hn hrole
  obtain ⟨s, -, hs, -⟩ := exists_ends_of_isAnchored
    (hanchored first (List.mem_of_find?_eq_some hfirst))
  exact ⟨s.nameInCode, by rw [feederName?_eq, hfirst, Option.bind_some, hs, Option.map_some]⟩

/-! ### Shown edges -/

/-- An edge that has a statement is not passed over. -/
theorem counts_of_isShown (hids : (g.nodes.map Node.id).Nodup) {e : Edge α} (h : g.IsShown e) :
    g.Counts e := by
  obtain ⟨s, t, hs, ht, shows⟩ := h
  refine ⟨fun leavesStart => ?_, fun inner entersBranch => ?_⟩
  · have enters := Program.enter_mem_statements.mp
      (shows.entry ((isStart_of_latest? hs).mp leavesStart))
    rw [← latest?_eq_node? hids, ht, Option.map_some]
    exact enters.symm
  · have notStart : s.category ≠ .start := by
      intro hstart
      rw [(isStart_of_latest? hs).mpr hstart] at inner
      cases inner
    have isBranch : t.role = .dispatch := by
      rw [role?_of_latest? ht] at entersBranch
      exact Option.some.inj entersBranch
    obtain ⟨number, d, hd, hid, -⟩ := shows.feeder notStart isBranch
    have hchoice := hasChoice_of_mem_dispatches
      (Program.exists_choose_mem_statements.mp ⟨number, hd⟩)
    rwa [hid, id_of_latest? ht] at hchoice

/-- **If no issue is reported, an edge that touches no remark has a statement in the program exactly
if it does not leave START for another node than the entry, nor enter a branch that leads
nowhere.** -/
theorem isShown_iff (hids : (g.nodes.map Node.id).Nodup) (h : g.issues = []) :
    ∀ e ∈ g.edges, g.role? e.source ≠ some .remark → g.role? e.target ≠ some .remark →
      (g.IsShown e ↔ g.Counts e) := by
  intro e he hsource htarget
  refine ⟨counts_of_isShown hids, fun counts => ?_⟩
  obtain ⟨hanchored, hquiet⟩ := quiet_of_issues_eq_nil h
  obtain ⟨s, t, hs, ht⟩ := exists_ends_of_isAnchored (hanchored e he)
  have inner (notStart : s.category ≠ .start) : g.isStart e.source = false :=
    Bool.eq_false_iff.mpr fun hstart => notStart ((isStart_of_latest? hs).mp hstart)
  refine ⟨s, t, hs, ht, ⟨fun isStart => ?_, fun notStart isBranch => ?_, fun isBranch => ?_,
    fun notStart leaves enters => ?_⟩⟩
  · -- the edge leads to the entry
    have hentry := counts.start ((isStart_of_latest? hs).mpr isStart)
    rw [← latest?_eq_node? hids, ht, Option.map_some] at hentry
    exact Program.enter_mem_statements.mpr hentry.symm
  · -- the branch has a choice, and this edge is the only one that enters it
    have hchoice := counts.branch (inner notStart) (by rw [role?_of_latest? ht, isBranch])
    rw [← id_of_latest? ht] at hchoice
    exact choose_of_feeder hchoice (feederName?_of_quiet hquiet he hs ht isBranch)
  · -- some edge enters the branch, so it is fed
    have hchosen : e ∈ g.chosenEdges :=
      mem_chosenEdges_iff.mpr ⟨he, by rw [role?_of_latest? hs, isBranch], htarget⟩
    obtain ⟨name, hname⟩ :=
      exists_feederName?_of_quiet hanchored hquiet (mem_of_latest? hs) isBranch
    rw [id_of_latest? hs] at hname ⊢
    exact choose_of_target hchosen hname ht
  · have live : e ∈ g.liveEdges :=
      mem_liveEdges_iff.mpr ⟨he, hsource, htarget, inner notStart⟩
    refine Program.move_mem_statements.mpr (List.mem_filterMap.mpr ⟨e, live, ?_⟩)
    exact transition?_eq_some_iff.mpr ⟨s, t, hs, ht, leaves, enters, rfl⟩

end

/-! A graph of which all is shown, and one of which two edges are not. -/

/-- A graph whose branch lies between two steps, with a remark that START leads to as well. -/
def routed : Graph Number where
  nodes := [⟨"start-1", .start, "START", "start", .null, Point.origin⟩,
    ⟨"text-1", .remark, "Text", "note", .null, Point.origin⟩,
    ⟨"action-1", .action, "Agent", "agent", .null, Point.origin⟩,
    ⟨"branch-1", .branch, "Conditional Edge", "choose", .null, Point.origin⟩,
    ⟨"tool-1", .tool, "Tool", "look", .null, Point.origin⟩,
    ⟨"end-1", .stop, "END", "end", .null, Point.origin⟩]
  edges := [⟨"e1", "start-1", "action-1", none, false⟩, ⟨"e2", "start-1", "text-1", none, false⟩,
    ⟨"e3", "action-1", "branch-1", none, false⟩, ⟨"e4", "branch-1", "tool-1", none, false⟩,
    ⟨"e5", "branch-1", "end-1", none, false⟩, ⟨"e6", "tool-1", "action-1", none, false⟩]
  entryPoint := .null
  name := defaultGraphName

theorem isShown_routed :
    (routed.nodes.map Node.id).Nodup ∧ routed.issues = [] ∧
      ∀ e ∈ routed.edges, routed.role? e.source ≠ some .remark →
        routed.role? e.target ≠ some .remark → routed.Counts e ∧ routed.IsShown e := by
  have hids : (routed.nodes.map Node.id).Nodup := by decide
  have quiet : routed.issues = [] := by decide +kernel
  have start : ∀ e ∈ routed.edges, routed.role? e.target ≠ some .remark →
      routed.isStart e.source = true →
        (routed.node? e.target).map Node.nameInCode = routed.entry?.map Node.nameInCode := by
    decide
  have branch : ∀ e ∈ routed.edges, routed.isStart e.source = false →
      routed.role? e.target = some .dispatch → routed.HasChoice e.target := by
    decide
  refine ⟨hids, quiet, fun e he hsource htarget => ?_⟩
  have counts : routed.Counts e := ⟨start e he htarget, branch e he⟩
  exact ⟨counts, (isShown_iff hids quiet e he hsource htarget).mpr counts⟩

/-- A graph whose START leads to two steps, one of which leads to a branch that leads nowhere. -/
def fanned : Graph Number where
  nodes := [⟨"start-1", .start, "START", "start", .null, Point.origin⟩,
    ⟨"action-1", .action, "Agent", "agent", .null, Point.origin⟩,
    ⟨"tool-1", .tool, "Tool", "look", .null, Point.origin⟩,
    ⟨"branch-1", .branch, "Conditional Edge", "choose", .null, Point.origin⟩]
  edges := [⟨"e1", "start-1", "action-1", none, false⟩, ⟨"e2", "start-1", "tool-1", none, false⟩,
    ⟨"e3", "action-1", "branch-1", none, false⟩]
  entryPoint := .null
  name := defaultGraphName

/-- No issue is reported, and yet two edges have no statement: no run enters at the tool, and the
branch has no block. -/
theorem not_isShown_fanned :
    (fanned.nodes.map Node.id).Nodup ∧ fanned.issues = [] ∧
      (∀ e ∈ fanned.edges, fanned.role? e.source ≠ some .remark ∧
        fanned.role? e.target ≠ some .remark) ∧
      ∀ e ∈ fanned.edges, e.id ≠ "e1" → ¬ fanned.IsShown e := by
  have hids : (fanned.nodes.map Node.id).Nodup := by decide
  have passedOver : ∀ e ∈ fanned.edges, e.id ≠ "e1" →
      ¬ ((fanned.isStart e.source = true →
          (fanned.node? e.target).map Node.nameInCode = fanned.entry?.map Node.nameInCode) ∧
        (fanned.isStart e.source = false →
          fanned.role? e.target = some .dispatch → fanned.HasChoice e.target)) := by
    decide
  refine ⟨hids, by decide +kernel, by decide, fun e he hid shown => ?_⟩
  have counts := counts_of_isShown hids shown
  exact passedOver e he hid ⟨counts.start, counts.branch⟩

end Graph

end FlowCanvas
