import FlowCanvas.Number.Basic
import FlowCanvas.Proofs.Program.Remark
import FlowCanvas.Proofs.Program.Sequence

/-!
# Choices grouped by branch

An edge out of a branch to a node that is there and no remark is a choice. The choices of a graph
are taken one after the other, whichever branch they belong to, and the blocks of the program grow
with them: a block for each branch, in the order of the first choice of each, with the names that
the choices of this branch lead to, in the order of their first use (`foldl_addChoice_eq`). Who
feeds a branch is looked up apart from that, in all edges, and a branch that nobody feeds has no
block. The main result says all this of the program of a graph (`blocks_grouped`).
-/

namespace FlowCanvas

universe u v

/-! ### First occurrences -/

section FirstOccurrences

variable {β : Type v} [DecidableEq β]

/-- One entry more counts if it has not been met before. -/
theorem eraseDups_concat (l : List β) (a : β) :
    (l ++ [a]).eraseDups = if a ∈ l then l.eraseDups else l.eraseDups ++ [a] := by
  rw [List.eraseDups_append]
  by_cases h : a ∈ l <;> simp [List.removeAll, h, List.eraseDups_cons]

theorem nodup_eraseDups (l : List β) : l.eraseDups.Nodup := by
  induction l using List.reverseRecOn with
  | nil => exact List.nodup_nil
  | append_singleton l a ih =>
    rw [eraseDups_concat]
    split
    · exact ih
    · next new =>
      rw [← List.concat_eq_append]
      exact ih.concat (mt List.mem_eraseDups.mp new)

end FirstOccurrences

namespace Statement

/-- The block of a statement, with its number. -/
def numbered? : Statement → Option (Dispatch × Nat)
  | choose number d => some (d, number)
  | _ => none

end Statement

/-- Blocks are numbered in order, from one on. -/
theorem Program.filterMap_numbered? (p : Program) :
    p.statements.filterMap Statement.numbered? = p.dispatches.zipIdx 1 := by
  cases p.entry <;> simp [statements, Statement.numbered?, Function.comp_def]

namespace Graph

variable {α : Type u}

/-! ### Choices -/

/-- The names that a branch leads to among some choices, each once, in order of first use. -/
def namesBehind (choices : List (String × String)) (branch : String) : List String :=
  ((choices.filter fun c => c.1 == branch).map Prod.snd).eraseDups

theorem namesBehind_concat (choices : List (String × String)) (branch name id : String) :
    namesBehind (choices ++ [(branch, name)]) id =
      if branch = id ∧ name ∉ namesBehind choices id then namesBehind choices id ++ [name]
      else namesBehind choices id := by
  unfold namesBehind
  rw [List.filter_append, List.map_append]
  by_cases same : branch = id
  · simp only [same, List.filter_cons, beq_self_eq_true, if_true, List.filter_nil,
      List.map_singleton, eraseDups_concat, List.mem_eraseDups, true_and, ite_not]
  · simp [same]

theorem namesBehind_eq_nil {choices : List (String × String)} {branch : String}
    (h : branch ∉ choices.map Prod.fst) : namesBehind choices branch = [] := by
  have none : (choices.filter fun c => c.1 == branch) = [] := by
    rw [List.filter_eq_nil_iff]
    intro c hc same
    exact h (List.mem_map.mpr ⟨c, hc, eq_of_beq same⟩)
  rw [namesBehind, none]
  rfl

/-- **Choices grouped by branch**: adding one choice after the other makes a block for each branch,
in order of first occurrence, with the names that the branch leads to. -/
theorem foldl_addChoice_eq (choices : List (String × String)) :
    choices.foldl (fun blocks c => addChoice blocks c.1 "" c.2) [] =
      (choices.map Prod.fst).eraseDups.map fun id => ⟨id, "", namesBehind choices id⟩ := by
  induction choices using List.reverseRecOn with
  | nil => rfl
  | append_singleton choices c ih =>
    obtain ⟨branch, name⟩ := c
    rw [List.foldl_append, List.foldl_cons, List.foldl_nil, ih, List.map_append,
      List.map_singleton, eraseDups_concat, addChoice]
    have known : (((choices.map Prod.fst).eraseDups.map fun id =>
        (⟨id, "", namesBehind choices id⟩ : Dispatch)).any fun b => b.branch == branch) = true ↔
          branch ∈ choices.map Prod.fst := by
      simp only [List.any_map, List.any_eq_true, Function.comp_apply, beq_iff_eq,
        List.mem_eraseDups, exists_eq_right]
    by_cases met : branch ∈ choices.map Prod.fst
    · rw [if_pos (known.mpr met), if_pos met, List.map_map]
      refine List.map_congr_left fun id _ => ?_
      simp only [Function.comp_apply, namesBehind_concat, eq_comm (a := id)]
      split <;> rfl
    · -- the first choice of its branch, which makes a block and is nothing to the others
      rw [if_neg (mt known.mp met), if_neg met, List.map_append]
      congr 1
      · refine List.map_congr_left fun id hid => ?_
        have other : ¬ (branch = id ∧ name ∉ namesBehind choices id) := by
          rintro ⟨rfl, -⟩
          exact met (List.mem_eraseDups.mp hid)
        rw [namesBehind_concat, if_neg other]
      · simp [namesBehind_concat, namesBehind_eq_nil met]

/-- The choice of an edge: the branch that it leaves, and the name of the node that it enters. The
edge is none if it leaves no branch, or enters no node that is there or a remark. -/
def choiceOf? (g : Graph α) (e : Edge α) : Option (String × String) :=
  if (g.node? e.source).any fun n => n.role = .dispatch then
    ((g.node? e.target).filter fun n => n.role ≠ .remark).map fun n => (e.source, n.nameInCode)
  else none

/-- The choices of a graph, in the order of its edges. -/
def choices (g : Graph α) : List (String × String) := g.edges.filterMap g.choiceOf?

/-- The node that the first of all edges into a branch leaves, if it is there. -/
def firstFeeder? (g : Graph α) (id : String) : Option (Node α) :=
  (g.firstInto? id).bind fun e => g.node? e.source

theorem choiceOf?_eq_some_iff {g : Graph α} {e : Edge α} {c : String × String} :
    g.choiceOf? e = some c ↔ e.source = c.1 ∧
      (∃ b, g.node? e.source = some b ∧ b.role = .dispatch) ∧
      ∃ t, g.node? e.target = some t ∧ t.role ≠ .remark ∧ t.nameInCode = c.2 := by
  unfold choiceOf?
  obtain ⟨branch, name⟩ := c
  cases g.node? e.source with
  | none => simp
  | some b =>
    cases g.node? e.target with
    | none => simp
    | some t =>
      by_cases hb : b.role = .dispatch <;> by_cases ht : t.role = .remark <;>
        simp [hb, ht, Option.filter]

theorem mem_branches_choices {g : Graph α} {id : String} :
    id ∈ g.choices.map Prod.fst ↔ (∃ b, g.node? id = some b ∧ b.role = .dispatch) ∧
      ∃ e ∈ g.edges, e.source = id ∧ ∃ t, g.node? e.target = some t ∧ t.role ≠ .remark := by
  simp only [choices, List.mem_map, List.mem_filterMap, choiceOf?_eq_some_iff]
  constructor
  · rintro ⟨⟨branch, name⟩, ⟨e, he, hsource, hbranch, t, ht, hrole, -⟩, rfl⟩
    exact ⟨hsource ▸ hbranch, e, he, hsource, t, ht, hrole⟩
  · rintro ⟨hbranch, e, he, rfl, t, ht, hrole⟩
    exact ⟨(e.source, t.nameInCode), ⟨e, he, rfl, hbranch, t, ht, hrole, rfl⟩, rfl⟩

theorem firstFeeder?_isSome {g : Graph α} {id : String} :
    (g.firstFeeder? id).isSome = true ↔
      ∃ e n, g.firstInto? id = some e ∧ g.node? e.source = some n := by
  simp only [firstFeeder?, Option.isSome_iff_exists, Option.bind_eq_some_iff]
  exact exists_comm

theorem chosenEdges_eq (g : Graph α) :
    g.chosenEdges = g.edges.filter fun e =>
      g.role? e.source = some .dispatch && g.role? e.target ≠ some .remark := by
  rw [chosenEdges, liveEdges, List.filter_filter]
  refine List.filter_congr fun e _ => ?_
  by_cases hsource : g.role? e.source = some .dispatch
  · have inner : g.isStart e.source = false :=
      isStart_eq_false_of_role? (by rw [hsource]; decide)
    simp [isLive, hsource, inner]
  · simp [hsource]

section Distinct

variable {g : Graph α} (hids : (g.nodes.map Node.id).Nodup)
include hids

theorem outline_eq_grouped :
    outline g.nodes g.chosenEdges =
      (g.choices.map Prod.fst).eraseDups.map fun id => ⟨id, "", namesBehind g.choices id⟩ := by
  -- the edges that the pass makes something of are the choices, in the same order
  have taken : (g.chosenEdges.filterMap (arm? g.nodes)).map
      (fun a => (a.1.id, a.2.nameInCode)) = g.choices := by
    rw [chosenEdges_eq, List.filterMap_filter, List.map_filterMap, choices]
    refine List.filterMap_congr fun e _ => ?_
    simp only [role?, arm?, choiceOf?, latest?_eq_node? hids]
    cases hs : g.node? e.source with
    | none => simp
    | some b =>
      cases g.node? e.target with
      | none => simp
      | some t =>
        by_cases hb : b.role = .dispatch <;> by_cases ht : t.role = .remark <;>
          simp [hb, ht, Option.filter, id_of_node? hs]
  rw [← foldl_addChoice_eq, ← taken, List.foldl_map]
  rfl

theorem feederName?_eq_firstFeeder? (id : String) :
    g.feederName? id = (g.firstFeeder? id).map Node.nameInCode := by
  rw [feederName?_eq, firstFeeder?, Option.map_bind]
  exact Option.bind_congr fun e _ => by rw [latest?_eq_node? hids, Function.comp_apply]

/-- The blocks of a program are those of the branches that have choices and are fed. -/
theorem dispatches_grouped :
    g.program.dispatches = (g.choices.map Prod.fst).eraseDups.filterMap fun id =>
      (g.firstFeeder? id).map fun n => ⟨id, n.nameInCode, namesBehind g.choices id⟩ := by
  rw [program_dispatches, outline_eq_grouped hids, List.filterMap_map]
  refine List.filterMap_congr fun id _ => ?_
  rw [Function.comp_apply, Dispatch.fed, feederName?_eq_firstFeeder? hids, Option.map_map]
  rfl

theorem branches_grouped :
    g.program.dispatches.map Dispatch.branch =
      (g.choices.map Prod.fst).eraseDups.filter fun id => (g.firstFeeder? id).isSome := by
  rw [dispatches_grouped hids, List.map_filterMap, ← List.filterMap_eq_filter]
  refine List.filterMap_congr fun id _ => ?_
  cases h : g.firstFeeder? id <;> simp [Option.guard, h]

end Distinct

/-- **The blocks of a program.** The text is the statements after the header, and the blocks among
them are numbered from one on. There is one for each branch with a choice into which the first of
all edges comes from a node that is there, in the order of the first choice of each, and no other.
It stands under the name of this node, and its targets are the names of the nodes that the choices
of the branch lead to, each once, in the order of the first choice of each. -/
theorem blocks_grouped (g : Graph α) (hids : (g.nodes.map Node.id).Nodup) :
    let blocks := g.program.dispatches
    g.source = "\n".intercalate
      (headerLines g.name ++ g.program.statements.flatMap (Statement.lines g.name)) ∧
    g.program.statements.filterMap Statement.numbered? = blocks.zipIdx 1 ∧
    (∀ id, id ∈ blocks.map Dispatch.branch ↔
      (∃ b, g.node? id = some b ∧ b.role = .dispatch) ∧
      (∃ e ∈ g.edges, e.source = id ∧ ∃ t, g.node? e.target = some t ∧ t.role ≠ .remark) ∧
      ∃ e n, g.firstInto? id = some e ∧ g.node? e.source = some n) ∧
    (blocks.map Dispatch.branch).Nodup ∧
    blocks.map Dispatch.branch =
      (g.choices.map Prod.fst).eraseDups.filter (fun id => (g.firstFeeder? id).isSome) ∧
    ∀ d ∈ blocks,
      (∃ e n, g.firstInto? d.branch = some e ∧ g.node? e.source = some n ∧
        d.feeder = n.nameInCode) ∧
      d.targets.Nodup ∧
      d.targets = ((g.choices.filter fun c => c.1 == d.branch).map Prod.snd).eraseDups := by
  intro blocks
  have branches : blocks.map Dispatch.branch = _ := branches_grouped hids
  refine ⟨congrArg _ g.program.lines_eq, g.program.filterMap_numbered?, fun id => ?_, ?_, branches,
    fun d hd => ?_⟩
  · rw [branches, List.mem_filter, List.mem_eraseDups, mem_branches_choices, firstFeeder?_isSome,
      and_assoc]
  · rw [branches]
    exact (nodup_eraseDups _).filter _
  · have grouped : blocks = _ := dispatches_grouped hids
    rw [grouped] at hd
    obtain ⟨id, -, hfed⟩ := List.mem_filterMap.mp hd
    obtain ⟨n, hn, rfl⟩ := Option.map_eq_some_iff.mp hfed
    obtain ⟨e, he, hsource⟩ := Option.bind_eq_some_iff.mp hn
    exact ⟨⟨e, n, he, hsource, rfl⟩, nodup_eraseDups _, rfl⟩

/-- A graph with two branches whose choices alternate, one of which leads back to its branch, and
with a third branch that nothing feeds. -/
def interleaved : Graph Number where
  nodes := [⟨"start-1", .start, "START", "start", .null, Point.origin⟩,
    ⟨"action-1", .action, "Agent", "agent", .null, Point.origin⟩,
    ⟨"branch-1", .branch, "Conditional Edge", "choose", .null, Point.origin⟩,
    ⟨"branch-2", .branch, "Conditional Edge", "pick", .null, Point.origin⟩,
    ⟨"branch-3", .branch, "Conditional Edge", "loose", .null, Point.origin⟩,
    ⟨"tool-1", .tool, "Tool", "look", .null, Point.origin⟩,
    ⟨"text-1", .remark, "Text", "note", .null, Point.origin⟩,
    ⟨"end-1", .stop, "END", "end", .null, Point.origin⟩]
  edges := [⟨"e1", "start-1", "action-1", none, false⟩, ⟨"e2", "tool-1", "branch-1", none, false⟩,
    ⟨"e3", "branch-3", "end-1", none, false⟩, ⟨"e4", "branch-2", "tool-1", none, false⟩,
    ⟨"e5", "branch-1", "text-1", none, false⟩, ⟨"e6", "branch-1", "end-1", none, false⟩,
    ⟨"e7", "branch-2", "ghost", none, false⟩, ⟨"e8", "branch-2", "end-1", none, false⟩,
    ⟨"e9", "branch-1", "branch-1", none, false⟩, ⟨"e10", "branch-2", "tool-1", none, false⟩,
    ⟨"e11", "action-1", "branch-2", none, false⟩]
  entryPoint := .null
  name := defaultGraphName

theorem blocks_grouped_interleaved :
    (interleaved.nodes.map Node.id).Nodup ∧
      interleaved.source = "\n".intercalate (headerLines interleaved.name ++
        ["my_graph.add_node(\"agent\", \"agent_func\")",
          "my_graph.add_node(\"look\", \"look_func\")",
          "my_graph.set_entry_point(\"agent\")",
          "",
          "my_graph.add_conditional_edges(",
          "    \"agent\",",
          "    conditional_function_1,",
          "    \x7b",
          "        \"look\": \"look\",",
          "        \"end\": \"end\",",
          "    \x7d,",
          ")",
          "",
          "my_graph.add_conditional_edges(",
          "    \"look\",",
          "    conditional_function_2,",
          "    \x7b",
          "        \"end\": \"end\",",
          "        \"choose\": \"choose\",",
          "    \x7d,",
          ")"]) ∧
      interleaved.program.statements.filterMap Statement.numbered? =
        [(⟨"branch-2", "agent", ["look", "end"]⟩, 1),
          (⟨"branch-1", "look", ["end", "choose"]⟩, 2)] ∧
      "branch-3" ∉ interleaved.program.dispatches.map Dispatch.branch := by
  have hids : (interleaved.nodes.map Node.id).Nodup := by decide
  obtain ⟨text, numbered, blocks, -⟩ := blocks_grouped interleaved hids
  refine ⟨hids, text.trans (congrArg _ (by decide)), numbered.trans (by decide), ?_⟩
  rw [blocks]
  rintro ⟨-, -, e, n, entering, -⟩
  exact absurd (Option.isSome_iff_exists.mpr ⟨e, entering⟩) (by decide)

end Graph

end FlowCanvas
