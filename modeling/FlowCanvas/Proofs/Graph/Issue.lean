import FlowCanvas.Graph.Issue
import FlowCanvas.Proofs.Graph.Edit

/-!
# What issues say

The checks of edges, branches and identifiers are quiet exactly if the graph has the property that
they look for (`danglingIssues_eq_nil_iff` and its kin). No check reports issues of another kind
than its own, and what is found is reported under the id of the edge or the node that it is found
at (`Graph.Reports`).
-/

namespace FlowCanvas

universe u

namespace Graph

variable {α : Type u} {g : Graph α}

/-! ### Quiet checks -/

theorem missingEnds_eq_nil_iff {e : Edge α} : g.missingEnds e = [] ↔ g.isAnchored e = true := by
  simp [missingEnds, isAnchored]

theorem danglingIssues_eq_nil_iff :
    g.danglingIssues = [] ↔ ∀ e ∈ g.edges, g.isAnchored e = true := by
  rw [danglingIssues, List.filterMap_eq_nil_iff]
  refine forall₂_congr fun e _ => ?_
  rw [← missingEnds_eq_nil_iff]
  by_cases h : g.missingEnds e = [] <;> simp [h]

/-- The check of a branch is quiet if just one edge enters it. -/
theorem dispatchIssue?_eq_none_iff {n : Node α} :
    g.dispatchIssue? n = none ↔ ∃ e, (g.edges.filter fun e => e.target == n.id) = [e] := by
  rw [dispatchIssue?]
  split
  · next h => simp [h]
  · next e h => simp [h]
  · next first rest hmore h =>
    simp only [reduceCtorEq, false_iff, not_exists]
    intro e hone
    rw [h] at hone
    obtain ⟨-, rfl⟩ := List.cons.inj hone
    exact hmore rfl

theorem dispatchIssues_eq_nil_iff :
    g.dispatchIssues = [] ↔ ∀ n ∈ g.nodes, n.role = .dispatch →
      ∃ e, (g.edges.filter fun e => e.target == n.id) = [e] := by
  rw [dispatchIssues, List.filterMap_eq_nil_iff]
  simp only [List.mem_filter, decide_eq_true_eq, and_imp, dispatchIssue?_eq_none_iff]

theorem duplicateIssues_eq_nil_iff :
    g.duplicateIssues = [] ↔ (g.nodes.map Node.identifier).Nodup := by
  rw [duplicateIssues, List.filterMap_eq_nil_iff, List.nodup_iff_count_le_one]
  constructor
  · intro h i
    by_contra hmore
    have hmem : i ∈ (g.nodes.map Node.identifier).eraseDups :=
      List.mem_eraseDups.mpr (List.count_pos_iff.mp (by omega))
    have hquiet := h i hmem
    rw [if_pos (Nat.lt_of_not_le hmore)] at hquiet
    cases hquiet
  · intro h i _
    exact if_neg (Nat.not_lt.mpr (h i))

/-- If nothing is reported, no edge dangles and just one edge enters each branch. -/
theorem quiet_of_issues_eq_nil (h : g.issues = []) :
    (∀ e ∈ g.edges, g.isAnchored e = true) ∧ g.dispatchIssues = [] := by
  simp only [issues, List.append_eq_nil_iff] at h
  obtain ⟨⟨⟨⟨hdangling, hdispatch⟩, -⟩, -⟩, -⟩ := h
  exact ⟨danglingIssues_eq_nil_iff.mp hdangling, hdispatch⟩

/-! ### Kinds of issues -/

theorem kind_of_mem_danglingIssues {i : Issue} (h : i ∈ g.danglingIssues) :
    i.kind = "dangling_edge" := by
  obtain ⟨e, -, he⟩ := List.mem_filterMap.mp h
  simp only at he
  split at he
  · cases he
  · cases he
    rfl

theorem kind_of_mem_dispatchIssues {i : Issue} (h : i ∈ g.dispatchIssues) :
    i.kind = "unresolved_dispatch" ∨ i.kind = "ambiguous_dispatch" := by
  obtain ⟨n, -, hn⟩ := List.mem_filterMap.mp h
  rw [dispatchIssue?] at hn
  split at hn
  · cases hn
    exact .inl rfl
  · cases hn
  · cases hn
    exact .inr rfl

theorem kind_of_mem_entryIssues {i : Issue} (h : i ∈ g.entryIssues) :
    i.kind = "missing_start" ∨ i.kind = "no_entry_edge" := by
  rw [entryIssues] at h
  split at h
  · rw [List.mem_singleton.mp h]
    exact .inl rfl
  · split at h
    · rw [List.mem_singleton.mp h]
      exact .inr rfl
    · exact absurd h List.not_mem_nil

theorem kind_of_mem_unreachableIssues {i : Issue} (h : i ∈ g.unreachableIssues) :
    i.kind = "unreachable" := by
  rw [unreachableIssues] at h
  split at h
  · exact absurd h List.not_mem_nil
  · obtain ⟨n, -, rfl⟩ := List.mem_map.mp h
    rfl

theorem kind_of_mem_duplicateIssues {i : Issue} (h : i ∈ g.duplicateIssues) :
    i.kind = "duplicate_identifier" := by
  obtain ⟨identifier, -, hi⟩ := List.mem_filterMap.mp h
  simp only at hi
  split at hi
  · cases hi
    rfl
  · cases hi

/-! ### Reports -/

/-- That an issue of a kind is reported for a node or an edge, or for the graph as a whole. -/
def Reports (g : Graph α) (kind subject : String) : Prop :=
  ∃ i ∈ g.issues, i.kind = kind ∧ i.subject = subject

theorem mem_issues_iff {i : Issue} :
    i ∈ g.issues ↔ i ∈ g.danglingIssues ∨ i ∈ g.dispatchIssues ∨ i ∈ g.entryIssues ∨
      i ∈ g.unreachableIssues ∨ i ∈ g.duplicateIssues := by
  simp only [issues, List.mem_append, or_assoc]

theorem reports_danglingEdge {e : Edge α} (he : e ∈ g.edges) (h : g.isAnchored e = false) :
    g.Reports "dangling_edge" e.id := by
  have hmissing : g.missingEnds e ≠ [] := by
    rw [Ne, missingEnds_eq_nil_iff, h]
    decide
  have hissue : .danglingEdge e.id (g.missingEnds e) ∈ g.danglingIssues :=
    List.mem_filterMap.mpr ⟨e, he, if_neg hmissing⟩
  exact ⟨_, mem_issues_iff.mpr (.inl hissue), rfl, rfl⟩

theorem reports_unresolvedDispatch {n : Node α} (hn : n ∈ g.nodes) (hrole : n.role = .dispatch)
    (h : ∀ e ∈ g.edges, e.target ≠ n.id) : g.Reports "unresolved_dispatch" n.id := by
  have hnone : (g.edges.filter fun e => e.target == n.id) = [] :=
    List.filter_eq_nil_iff.mpr fun e he => by simpa using h e he
  have hissue : .unresolvedDispatch n.id n.identifier ∈ g.dispatchIssues :=
    List.mem_filterMap.mpr
      ⟨n, List.mem_filter.mpr ⟨hn, by simp [hrole]⟩, by rw [dispatchIssue?, hnone]⟩
  exact ⟨_, mem_issues_iff.mpr (.inr (.inl hissue)), rfl, rfl⟩

theorem reports_missingStart (h : g.start? = none) : g.Reports "missing_start" "" := by
  have hissue : .missingStart ∈ g.entryIssues := by
    rw [entryIssues, h]
    exact List.mem_cons_self
  exact ⟨_, mem_issues_iff.mpr (.inr (.inr (.inl hissue))), rfl, rfl⟩

theorem reports_noEntryEdge {s : Node α} (hs : g.start? = some s)
    (h : g.firstFrom? s.id = none) : g.Reports "no_entry_edge" s.id := by
  have hissue : .noEntryEdge s.id ∈ g.entryIssues := by
    rw [entryIssues, hs]
    simp [h]
  exact ⟨_, mem_issues_iff.mpr (.inr (.inr (.inl hissue))), rfl, rfl⟩

end Graph

end FlowCanvas
