import FlowCanvas.Number.Basic
import FlowCanvas.Proofs.Program.Frame
import FlowCanvas.Proofs.Program.Sequence

/-!
# Branches

A branch is no step: what leads to it is to be led on to its targets. No statement registers it, and
no transition touches it. Its name can still come up in three places, since each of them takes a
name from the other end of an edge, whatever node that is: the entry, the feeder of another branch,
and the targets of another branch. The main result says when none of them does
(`names_branch_iff`).
-/

namespace FlowCanvas

universe u

namespace Graph

variable {α : Type u}

/-- That no branch stands where its name would come up. -/
structure PassesThrough (g : Graph α) : Prop where
  /-- START does not lead to a branch -/
  entry : g.entry?.map Node.role ≠ some .dispatch
  /-- a branch with a choice is not fed by a branch -/
  feeder : ∀ e ∈ g.chosenEdges, g.has e.target = true →
    (feeder? g.nodes g.edges e.source).map Node.role ≠ some .dispatch
  /-- a branch that leads to a branch is not fed -/
  target : ∀ e ∈ g.edges, g.role? e.source = some .dispatch → g.role? e.target = some .dispatch →
    g.feederName? e.source = none

section Names

variable {g : Graph α}

/-! ### The blocks of a branch -/

theorem choose_of_feeder {id name : String} (hid : g.HasChoice id)
    (hname : g.feederName? id = some name) :
    ∃ number d, .choose number d ∈ g.program.statements ∧ d.branch = id ∧ d.feeder = name := by
  obtain ⟨d, hd, hbranch, hfeeder⟩ := exists_mem_dispatches hid hname
  obtain ⟨number, hs⟩ := Program.exists_choose_mem_statements.mpr hd
  exact ⟨number, d, hs, hbranch, hfeeder⟩

theorem choose_of_target {e : Edge α} (he : e ∈ g.chosenEdges) {name : String}
    (hname : g.feederName? e.source = some name) {t : Node α}
    (ht : latest? g.nodes e.target = some t) :
    ∃ number d, .choose number d ∈ g.program.statements ∧ d.branch = e.source ∧
      t.nameInCode ∈ d.targets := by
  have hhas : g.has e.target = true := has_iff.mpr ⟨t, mem_of_latest? ht, id_of_latest? ht⟩
  obtain ⟨d, hd, hbranch, -⟩ := exists_mem_dispatches ⟨e, he, rfl, hhas⟩ hname
  obtain ⟨number, hs⟩ := Program.exists_choose_mem_statements.mpr hd
  exact ⟨number, d, hs, hbranch,
    (mem_targets_iff hd).mpr ⟨e, he, hbranch.symm, by rw [ht, Option.map_some]⟩⟩

/-! ### What statements name -/

/-- If each branch is led on to its targets, whatever a statement names is some other node. -/
theorem exists_of_mem_names (hg : g.PassesThrough) {s : Statement} (hs : s ∈ g.program.statements)
    {name : String} (hname : name ∈ s.names) :
    ∃ n ∈ g.nodes, n.role ≠ .dispatch ∧ n.nameInCode = name := by
  cases s with
  | register r =>
    obtain ⟨n, hn, rfl⟩ := List.mem_map.mp (Program.register_mem_statements.mp hs)
    obtain ⟨hmem, hrole⟩ := List.mem_filter.mp hn
    have step : n.role = .executable := by simpa using hrole
    exact ⟨n, hmem, by simp [step], (List.mem_singleton.mp hname).symm⟩
  | enter entry =>
    obtain ⟨n, hn, rfl⟩ := Option.map_eq_some_iff.mp (Program.enter_mem_statements.mp hs)
    have hrole := hg.entry
    rw [hn, Option.map_some] at hrole
    exact ⟨n, mem_nodes_of_entry hn, fun h => hrole (congrArg some h),
      (List.mem_singleton.mp hname).symm⟩
  | choose number d =>
    have hd : d ∈ g.program.dispatches := Program.exists_choose_mem_statements.mp ⟨number, hs⟩
    rcases List.mem_cons.mp hname with rfl | htarget
    · -- the feeder of a block
      obtain ⟨e, he, hsource, hhas⟩ := hasChoice_of_mem_dispatches hd
      obtain ⟨n, hn, hfeeder⟩ := Option.map_eq_some_iff.mp (feederName?_of_mem hd)
      have hrole := hg.feeder e he hhas
      rw [hsource, hn, Option.map_some] at hrole
      exact ⟨n, mem_of_feeder? hn, fun h => hrole (congrArg some h), hfeeder⟩
    · -- a target of a block, whose branch is fed
      obtain ⟨e, he, hsource, ht⟩ := (mem_targets_iff hd).mp htarget
      obtain ⟨n, hn, rfl⟩ := Option.map_eq_some_iff.mp ht
      obtain ⟨hmem, hbranch, -⟩ := mem_chosenEdges_iff.mp he
      refine ⟨n, mem_of_latest? hn, fun hrole => ?_, rfl⟩
      have unfed := hg.target e hmem hbranch (by rw [role?, hn, Option.map_some, hrole])
      rw [hsource, feederName?_of_mem hd] at unfed
      cases unfed
  | move t =>
    obtain ⟨e, -, he⟩ := List.mem_filterMap.mp (Program.move_mem_statements.mp hs)
    obtain ⟨m, n, hm, hn, hsource, htarget, rfl⟩ := transition?_eq_some_iff.mp he
    rcases List.mem_pair.mp hname with rfl | rfl
    · exact ⟨m, mem_of_latest? hm, hsource, rfl⟩
    · exact ⟨n, mem_of_latest? hn, htarget, rfl⟩

/-! Each of the three places is one that names a node. -/

theorem exists_names_of_entry {n : Node α} (hn : g.entry? = some n) :
    ∃ s ∈ g.program.statements, n.nameInCode ∈ s.names :=
  ⟨.enter n.nameInCode,
    Program.enter_mem_statements.mpr (Option.map_eq_some_iff.mpr ⟨n, hn, rfl⟩),
    List.mem_cons_self⟩

theorem exists_names_of_feeder {id : String} (hid : g.HasChoice id) {n : Node α}
    (hn : feeder? g.nodes g.edges id = some n) :
    ∃ s ∈ g.program.statements, n.nameInCode ∈ s.names := by
  have hname : g.feederName? id = some n.nameInCode := by rw [feederName?, hn, Option.map_some]
  obtain ⟨number, d, hs, -, hfeeder⟩ := choose_of_feeder hid hname
  exact ⟨_, hs, hfeeder ▸ List.mem_cons_self⟩

theorem exists_names_of_target {e : Edge α} (he : e ∈ g.chosenEdges) {name : String}
    (hfed : g.feederName? e.source = some name) {n : Node α}
    (hn : latest? g.nodes e.target = some n) :
    ∃ s ∈ g.program.statements, n.nameInCode ∈ s.names := by
  obtain ⟨number, d, hs, -, htarget⟩ := choose_of_target he hfed hn
  exact ⟨_, hs, List.mem_cons_of_mem _ htarget⟩

/-- **No statement names a branch exactly if no branch stands where its name would come up.** -/
theorem names_branch_iff (hnames : (g.nodes.map Node.identifier).Nodup)
    (hset : ∀ n ∈ g.nodes, n.identifier ≠ "") :
    (∀ b ∈ g.nodes, b.role = .dispatch → ∀ s ∈ g.program.statements, b.nameInCode ∉ s.names) ↔
      g.PassesThrough := by
  constructor
  · intro unnamed
    refine ⟨fun hentry => ?_, fun e he hhas hfeeder => ?_, fun e he hsource htarget => ?_⟩
    · obtain ⟨n, hn, hrole⟩ := Option.map_eq_some_iff.mp hentry
      obtain ⟨s, hs, hname⟩ := exists_names_of_entry hn
      exact unnamed n (mem_nodes_of_entry hn) hrole s hs hname
    · obtain ⟨n, hn, hrole⟩ := Option.map_eq_some_iff.mp hfeeder
      obtain ⟨s, hs, hname⟩ := exists_names_of_feeder ⟨e, he, rfl, hhas⟩ hn
      exact unnamed n (mem_of_feeder? hn) hrole s hs hname
    · obtain ⟨n, hn, hrole⟩ := Option.map_eq_some_iff.mp htarget
      have hchosen : e ∈ g.chosenEdges :=
        mem_chosenEdges_iff.mpr ⟨he, hsource, by rw [htarget]; decide⟩
      cases hfed : g.feederName? e.source with
      | none => rfl
      | some name =>
        obtain ⟨s, hs, hname⟩ := exists_names_of_target hchosen hfed hn
        exact absurd hname (unnamed n (mem_of_latest? hn) hrole s hs)
  · intro hg b hb hrole s hs hname
    obtain ⟨n, hn, hother, hsame⟩ := exists_of_mem_names hg hs hname
    have hidentifier : n.identifier = b.identifier := by
      simpa [Node.nameInCode, hset n hn, hset b hb] using hsame
    exact hother (List.inj_on_of_nodup_map hnames hn hb hidentifier ▸ hrole)

end Names

/-! A branch between two steps, and a branch behind another one. -/

/-- A graph with a branch between two steps, and one that nothing feeds in front of it. -/
def relayed : Graph Number where
  nodes := [⟨"start-1", .start, "START", "start", .null, Point.origin⟩,
    ⟨"action-1", .action, "Agent", "agent", .null, Point.origin⟩,
    ⟨"branch-1", .branch, "Conditional Edge", "choose", .null, Point.origin⟩,
    ⟨"branch-2", .branch, "Conditional Edge", "loose", .null, Point.origin⟩,
    ⟨"tool-1", .tool, "Tool", "look", .null, Point.origin⟩,
    ⟨"end-1", .stop, "END", "end", .null, Point.origin⟩]
  edges := [⟨"e1", "start-1", "action-1", none, false⟩, ⟨"e2", "action-1", "branch-1", none, false⟩,
    ⟨"e3", "branch-1", "tool-1", none, false⟩, ⟨"e4", "branch-1", "end-1", none, false⟩,
    ⟨"e5", "branch-2", "branch-1", none, false⟩]
  entryPoint := .null
  name := defaultGraphName

theorem names_branch_relayed :
    (relayed.nodes.map Node.identifier).Nodup ∧ (∀ n ∈ relayed.nodes, n.identifier ≠ "") ∧
      relayed.PassesThrough ∧
      ∀ b ∈ relayed.nodes, b.role = .dispatch → ∀ s ∈ relayed.program.statements,
        b.nameInCode ∉ s.names := by
  have hnames : (relayed.nodes.map Node.identifier).Nodup := by decide
  have hset : ∀ n ∈ relayed.nodes, n.identifier ≠ "" := by decide
  have passes : relayed.PassesThrough := ⟨by decide, by decide, by decide⟩
  exact ⟨hnames, hset, passes, (names_branch_iff hnames hset).mpr passes⟩

/-- A graph whose START leads to a branch, which leads to another one. -/
def chained : Graph Number where
  nodes := [⟨"start-1", .start, "START", "start", .null, Point.origin⟩,
    ⟨"branch-1", .branch, "Conditional Edge", "choose", .null, Point.origin⟩,
    ⟨"branch-2", .branch, "Conditional Edge", "choose_1", .null, Point.origin⟩,
    ⟨"tool-1", .tool, "Tool", "look", .null, Point.origin⟩]
  edges := [⟨"e1", "start-1", "branch-1", none, false⟩,
    ⟨"e2", "branch-1", "branch-2", none, false⟩, ⟨"e3", "branch-2", "tool-1", none, false⟩]
  entryPoint := .null
  name := defaultGraphName

/-- A run enters at the first branch, which leads to the second one and feeds it. -/
theorem names_branch_chained :
    (chained.nodes.map Node.id).Nodup ∧ (chained.nodes.map Node.identifier).Nodup ∧
      (∀ n ∈ chained.nodes, n.identifier ≠ "") ∧
      ¬ ∀ b ∈ chained.nodes, b.role = .dispatch → ∀ s ∈ chained.program.statements,
        b.nameInCode ∉ s.names := by
  decide +kernel

end Graph

end FlowCanvas
