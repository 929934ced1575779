import FlowCanvas.Number.Basic
import FlowCanvas.Proofs.Graph.Issue
import Mathlib.Logic.Relation

/-!
# What START leads to

A walk follows edges whose two ends exist, any number of them and any of them any number of times
(`Graph.Reaches`). What is computed is a list that grows by all that one link more leads to, for a
fixed number of rounds. It holds nothing but what walks lead to, because it never gets past what all
links keep to (`Graph.of_mem_spread`). And it holds all of that: a round that finds nothing is the
last one that matters, and every other round finds the target of a link, so there are enough rounds
if there are as many as links (`Graph.isClosed_spread`).

So what is computed is what walks lead to (`Graph.mem_reachable_iff`), and the nodes that are
reported as out of reach are those that no walk leads to from START (`Graph.unreachable_reported`).
-/

namespace FlowCanvas

universe u

namespace Graph

/-! ### Rounds -/

/-- That no link leads out of a list of vertices. -/
def IsClosed (links : List Link) (seen : List String) : Prop :=
  ∀ l ∈ links, l.source ∈ seen → l.target ∈ seen

/-- The links whose targets have not been found. -/
def unseen (links : List Link) (seen : List String) : List Link :=
  links.filter fun l => !seen.contains l.target

variable {links : List Link} {seen : List String}

theorem mem_expand_iff {id : String} :
    id ∈ expand links seen ↔ id ∈ seen ∨ ∃ l ∈ links, l.source ∈ seen ∧ l.target = id := by
  simp only [expand, List.mem_append, List.mem_eraseDups, List.mem_map, List.mem_filter,
    Bool.and_eq_true, Bool.not_eq_true', List.contains_eq_mem, decide_eq_true_eq,
    decide_eq_false_iff_not]
  constructor
  · rintro (old | ⟨l, ⟨hl, source, -⟩, target⟩)
    · exact .inl old
    · exact .inr ⟨l, hl, source, target⟩
  · rintro (old | ⟨l, hl, source, rfl⟩)
    · exact .inl old
    · by_cases old : l.target ∈ seen
      · exact .inl old
      · exact .inr ⟨l, ⟨hl, source, old⟩, rfl⟩

theorem subset_spread (links : List Link) (steps : Nat) (seen : List String) :
    seen ⊆ spread links steps seen := by
  induction steps generalizing seen with
  | zero => exact List.Subset.refl seen
  | succ steps ih => exact fun id hid => ih _ (mem_expand_iff.mpr (.inl hid))

/-- **Nothing is found beyond what links lead to**: what holds at the beginning and is kept along
every link holds of all that is found. -/
theorem of_mem_spread {P : String → Prop} (along : ∀ l ∈ links, P l.source → P l.target)
    {steps : Nat} (start : ∀ id ∈ seen, P id) : ∀ id ∈ spread links steps seen, P id := by
  induction steps generalizing seen with
  | zero => exact start
  | succ steps ih =>
    refine ih fun id hid => ?_
    obtain old | ⟨l, hl, source, rfl⟩ := mem_expand_iff.mp hid
    · exact start id old
    · exact along l hl (start _ source)

/-- A round from a closed list finds nothing. -/
theorem IsClosed.expand_eq (closed : IsClosed links seen) : expand links seen = seen := by
  have none : links.filter (fun l => seen.contains l.source && !seen.contains l.target) = [] := by
    refine List.filter_eq_nil_iff.mpr fun l hl => ?_
    simpa using closed l hl
  rw [expand, none]
  exact List.append_nil seen

theorem IsClosed.spread (closed : IsClosed links seen) (steps : Nat) :
    IsClosed links (Graph.spread links steps seen) := by
  induction steps with
  | zero => exact closed
  | succ steps ih =>
    rw [Graph.spread, closed.expand_eq]
    exact ih

theorem unseen_expand : unseen links (expand links seen) =
    (unseen links seen).filter fun l => !(expand links seen).contains l.target := by
  rw [unseen, unseen, List.filter_filter]
  refine List.filter_congr fun l _ => ?_
  have kept : l.target ∈ seen → l.target ∈ expand links seen :=
    fun old => mem_expand_iff.mpr (.inl old)
  by_cases old : l.target ∈ seen
  · simp [old, kept old]
  · simp [old]

/-- A round from any other list finds the target of a link. -/
theorem length_unseen_expand_lt (leaves : ¬ IsClosed links seen) :
    (unseen links (expand links seen)).length < (unseen links seen).length := by
  obtain ⟨l, hl, source, new⟩ : ∃ l ∈ links, l.source ∈ seen ∧ l.target ∉ seen := by
    simpa [IsClosed] using leaves
  have found : l.target ∈ expand links seen := mem_expand_iff.mpr (.inr ⟨l, hl, source, rfl⟩)
  rw [unseen_expand, List.length_filter_lt_length_iff_exists]
  exact ⟨l, List.mem_filter.mpr ⟨hl, by simpa using new⟩, by simpa using found⟩

/-- **Enough rounds leave nothing out**: as many as there are links whose targets have not been
found. -/
theorem isClosed_spread {steps : Nat} (enough : (unseen links seen).length ≤ steps) :
    IsClosed links (Graph.spread links steps seen) := by
  induction steps generalizing seen with
  | zero =>
    have none : ∀ l ∈ links, l.target ∈ seen := by
      simpa [unseen] using enough
    exact fun l hl _ => none l hl
  | succ steps ih =>
    by_cases closed : IsClosed links seen
    · exact closed.spread (steps + 1)
    · have shrinks := length_unseen_expand_lt closed
      exact ih (by omega)

/-! ### Walks -/

variable {α : Type u} {g : Graph α}

/-- That an edge whose ends exist goes from one id to another. -/
def Linked (g : Graph α) (a b : String) : Prop :=
  ∃ e ∈ g.edges, g.isAnchored e = true ∧ e.source = a ∧ e.target = b

/-- That a walk along edges whose ends exist goes from one id to another. -/
def Reaches (g : Graph α) : String → String → Prop := Relation.ReflTransGen g.Linked

theorem linked_iff {a b : String} :
    g.Linked a b ↔ ∃ l ∈ g.links, l.source = a ∧ l.target = b := by
  simp only [Linked, links, List.mem_eraseDups, List.mem_map, List.mem_filter]
  constructor
  · rintro ⟨e, he, anchored, source, target⟩
    exact ⟨_, ⟨e, ⟨he, anchored⟩, rfl⟩, source, target⟩
  · rintro ⟨_, ⟨e, ⟨he, anchored⟩, rfl⟩, source, target⟩
    exact ⟨e, he, anchored, source, target⟩

/-- **What is computed is what walks lead to.** -/
theorem mem_reachable_iff {a b : String} : b ∈ g.reachable a ↔ g.Reaches a b := by
  constructor
  · -- a walk that ends where a link starts goes on along the link
    refine of_mem_spread (P := g.Reaches a) (fun l hl walk => ?_) (fun id hid => ?_) b
    · exact walk.tail (linked_iff.mpr ⟨l, hl, rfl, rfl⟩)
    · obtain rfl := List.mem_singleton.mp hid
      exact .refl
  · intro walk
    have closed : IsClosed g.links (g.reachable a) :=
      isClosed_spread (List.length_filter_le _ _)
    induction walk with
    | refl => exact subset_spread g.links g.links.length [a] (List.mem_singleton_self a)
    | tail _ step ih =>
      obtain ⟨l, hl, rfl, rfl⟩ := linked_iff.mp step
      exact closed l hl ih

/-! ### Reports -/

/-- No other check reports issues of this kind. -/
theorem filter_issues_unreachable (g : Graph α) :
    g.issues.filter (fun i => i.kind == "unreachable") = g.unreachableIssues := by
  have without {l : List Issue} (other : ∀ i ∈ l, i.kind ≠ "unreachable") :
      l.filter (fun i => i.kind == "unreachable") = [] := by
    simpa [List.filter_eq_nil_iff] using other
  have dangling := without fun i (hi : i ∈ g.danglingIssues) => by
    rw [kind_of_mem_danglingIssues hi]
    decide
  have dispatch := without fun i (hi : i ∈ g.dispatchIssues) => by
    obtain h | h := kind_of_mem_dispatchIssues hi <;> rw [h] <;> decide
  have entry := without fun i (hi : i ∈ g.entryIssues) => by
    obtain h | h := kind_of_mem_entryIssues hi <;> rw [h] <;> decide
  have duplicate := without fun i (hi : i ∈ g.duplicateIssues) => by
    rw [kind_of_mem_duplicateIssues hi]
    decide
  have unreachable : g.unreachableIssues.filter (fun i => i.kind == "unreachable") =
      g.unreachableIssues :=
    List.filter_eq_self.mpr fun i hi => beq_iff_eq.mpr (kind_of_mem_unreachableIssues hi)
  simp only [issues, List.filter_append, dangling, dispatch, entry, duplicate, unreachable,
    List.nil_append, List.append_nil]

/-- **A node is reported as unreachable exactly if no walk leads to it from START**, unless it is a
remark or that START itself. It is reported once, and the reports are in the order of the nodes. If
there is no START, nothing is reported as unreachable. -/
theorem unreachable_reported (g : Graph α) (hids : (g.nodes.map Node.id).Nodup) :
    let reported := g.issues.filter fun i => i.kind == "unreachable"
    (∀ start, g.start? = some start →
      ∃ strays : List (Node α), strays.Sublist g.nodes ∧
        (∀ n ∈ g.nodes,
          n ∈ strays ↔ n.role ≠ .remark ∧ n ≠ start ∧ ¬ g.Reaches start.id n.id) ∧
        reported = strays.map (fun n => .unreachable n.id n.identifier) ∧
        (reported.map Issue.subject).Nodup) ∧
      ((∀ n ∈ g.nodes, n.category ≠ .start) → reported = []) := by
  simp only [filter_issues_unreachable]
  constructor
  · intro start hstart
    let strays := g.nodes.filter fun n =>
      !(g.reachable start.id).contains n.id && n.role ≠ .remark
    have sub : strays.Sublist g.nodes := List.filter_sublist
    have reported : g.unreachableIssues = strays.map fun n => .unreachable n.id n.identifier := by
      rw [unreachableIssues, hstart]
    refine ⟨strays, sub, fun n hn => ?_, reported, ?_⟩
    · have out : n ∈ strays ↔ ¬ g.Reaches start.id n.id ∧ n.role ≠ .remark := by
        rw [← mem_reachable_iff, List.mem_filter]
        simp [hn]
      rw [out]
      constructor
      · rintro ⟨far, role⟩
        refine ⟨role, ?_, far⟩
        rintro rfl
        exact far .refl
      · rintro ⟨role, -, far⟩
        exact ⟨far, role⟩
    · rw [reported, List.map_map]
      exact hids.sublist (sub.map Node.id)
  · intro absent
    have hstart : g.start? = none := by
      simpa [start?, first?] using absent
    rw [unreachableIssues, hstart]

/-- A graph in which START leads to a cycle and a loop. Two nodes lead to each other and into that
cycle, but nothing leads to them: of two edges by way of a missing node both dangle. -/
def detached : Graph Number where
  nodes := [⟨"tool-1", .tool, "Tool", "look", .null, Point.origin⟩,
    ⟨"start-1", .start, "START", "start", .null, Point.origin⟩,
    ⟨"action-1", .action, "Agent", "agent", .null, Point.origin⟩,
    ⟨"text-1", .remark, "Text", "text", .null, Point.origin⟩,
    ⟨"branch-1", .branch, "Conditional Edge", "choose", .null, Point.origin⟩,
    ⟨"action-2", .action, "Agent", "agent_1", .null, Point.origin⟩]
  edges := [⟨"e1", "start-1", "branch-1", none, false⟩, ⟨"e2", "branch-1", "action-1", none, false⟩,
    ⟨"e3", "action-1", "branch-1", none, false⟩, ⟨"e4", "action-1", "action-1", none, false⟩,
    ⟨"e5", "tool-1", "action-2", none, false⟩, ⟨"e6", "action-2", "tool-1", none, false⟩,
    ⟨"e7", "action-2", "action-1", none, false⟩, ⟨"e8", "start-1", "ghost", none, false⟩,
    ⟨"e9", "ghost", "tool-1", none, false⟩]
  entryPoint := .null
  name := defaultGraphName

/-- A walk by way of a missing node is none, so the tool is reported. The step behind the branch is
not reported, so a walk leads to it. -/
theorem unreachable_reported_detached :
    (detached.nodes.map Node.id).Nodup ∧
      (detached.issues.filter fun i => i.kind == "unreachable") =
        [.unreachable "tool-1" "look", .unreachable "action-2" "agent_1"] ∧
      ¬ detached.Reaches "start-1" "tool-1" ∧ detached.Reaches "start-1" "action-1" := by
  have hids : (detached.nodes.map Node.id).Nodup := by decide
  have computed : (detached.issues.filter fun i => i.kind == "unreachable") =
      [.unreachable "tool-1" "look", .unreachable "action-2" "agent_1"] := by decide
  obtain ⟨strays, sub, stray_iff, reported, -⟩ := (unreachable_reported detached hids).1 _ rfl
  rw [computed] at reported
  refine ⟨hids, computed, ?_, ?_⟩
  · obtain ⟨n, hn, same⟩ : ∃ n ∈ strays, Issue.unreachable n.id n.identifier =
        .unreachable "tool-1" "look" := List.mem_map.mp (reported ▸ List.mem_cons_self)
    obtain ⟨-, -, far⟩ := (stray_iff n (sub.subset hn)).mp hn
    obtain ⟨hid, -⟩ := Issue.unreachable.inj same
    rwa [hid] at far
  · let n : Node Number := ⟨"action-1", .action, "Agent", "agent", .null, Point.origin⟩
    have hn : n ∈ detached.nodes := .tail _ (.tail _ (.head _))
    have other : n ≠ ⟨"start-1", .start, "START", "start", .null, Point.origin⟩ :=
      fun same => absurd (congrArg Node.id same) (by decide)
    have quiet : n ∉ strays := by
      intro stray
      have listed : Issue.unreachable n.id n.identifier ∈
          [Issue.unreachable "tool-1" "look", .unreachable "action-2" "agent_1"] :=
        reported ▸ List.mem_map_of_mem stray
      exact absurd listed (by decide)
    by_contra far
    exact quiet ((stray_iff n hn).mpr ⟨by decide, other, far⟩)

end Graph

end FlowCanvas
