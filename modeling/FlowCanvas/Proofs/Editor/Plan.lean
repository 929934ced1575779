import FlowCanvas.Editor.Plan
import FlowCanvas.Proofs.Graph.Edit
import FlowCanvas.Proofs.Result

/-!
# What plans come to

Each plan has one lemma that says all of an accepted one: the guards that it has passed, and the
plan itself, with the new graph, the words to announce it by and the answer. No later proof opens a
plan. For the one plan that is refused only where an edge is missing there is the converse as well.
-/

namespace FlowCanvas

universe u

namespace Graph

variable {α : Type u} {g : Graph α}

/-! ### What edits ask for -/

/-- A node that is looked up has the id that it is looked up by. -/
theorem requireNode_eq_ok {id : String} {n : Node α} (h : g.requireNode id = .ok n) :
    n.id = id ∧ g.node? n.id = some n := by
  unfold requireNode at h
  split at h
  · next m hm =>
    obtain rfl := Except.ok.inj h
    obtain rfl := id_of_node? hm
    exact ⟨rfl, hm⟩
  · cases h

theorem requireEdge_eq_ok {id : String} {e : Edge α} (h : g.requireEdge id = .ok e) :
    e.id = id ∧ g.edge? e.id = some e := by
  unfold requireEdge at h
  split at h
  · next d hd =>
    obtain rfl := Except.ok.inj h
    obtain rfl := id_of_edge? hd
    exact ⟨rfl, hd⟩
  · cases h

theorem requireLabel_eq_ok {node text label : String} (h : requireLabel node text = .ok label) :
    label ≠ "" := by
  unfold requireLabel at h
  simp only at h
  split at h
  · cases h
  · next hne => exact Except.ok.inj h ▸ hne

/-! ### Edits of nodes -/

theorem planRename_eq_ok {id text : String} {p : Plan α (Node α)}
    (h : g.planRename id text = .ok p) :
    ∃ n label, n.id = id ∧ g.node? n.id = some n ∧ n.category.isTerminal = false ∧
      requireLabel id text = .ok label ∧
      let renamed :=
        { n with label := label, identifier := Identifier.ofLabel label g.nodes (some n.id) none }
      p = ⟨some ⟨g.setNode renamed, "rename_node", some id⟩, renamed⟩ := by
  obtain ⟨n, hn, h⟩ := Result.exists_of_bind_eq_ok h
  obtain ⟨rfl, hfound⟩ := requireNode_eq_ok hn
  split at h
  · cases h
  · next hterminal =>
    obtain ⟨label, hlabel, rfl⟩ := Result.exists_of_map_eq_ok h
    exact ⟨n, label, rfl, hfound, by simpa using hterminal, hlabel, rfl⟩

theorem planRemoveNodes_eq_ok {ids : List String} {p : Plan α Unit}
    (h : g.planRemoveNodes ids = .ok p) :
    (∀ id ∈ ids, g.has id = true) ∧
      p = ⟨some ⟨g.removeNodes ids, "remove_nodes", some (",".intercalate ids)⟩, ()⟩ := by
  obtain ⟨ns, hns, rfl⟩ := Result.exists_of_map_eq_ok h
  refine ⟨fun id hid => ?_, rfl⟩
  obtain ⟨n, hn⟩ := Result.exists_of_mapM_eq_ok hns id hid
  obtain ⟨rfl, hfound⟩ := requireNode_eq_ok hn
  exact has_of_node? hfound

/-! ### Edits of edges -/

theorem planRemoveEdges_eq_ok {ids : List String} {p : Plan α Unit}
    (h : g.planRemoveEdges ids = .ok p) :
    (∀ id ∈ ids, ∃ e ∈ g.edges, e.id = id) ∧
      p = ⟨some ⟨g.removeEdges ids, "remove_edges", some (",".intercalate ids)⟩, ()⟩ := by
  obtain ⟨es, hes, rfl⟩ := Result.exists_of_map_eq_ok h
  refine ⟨fun id hid => ?_, rfl⟩
  obtain ⟨e, he⟩ := Result.exists_of_mapM_eq_ok hes id hid
  obtain ⟨hid, hfound⟩ := requireEdge_eq_ok he
  exact ⟨e, mem_of_edge? hfound, hid⟩

theorem planPin_eq_ok {id : String} {point : Point α} {p : Plan α (Edge α)}
    (h : g.planPin id point = .ok p) :
    ∃ e, e.id = id ∧ g.edge? e.id = some e ∧
      let pinned := { e with control := some point, pinned := true }
      p = ⟨some ⟨g.setEdge pinned, "commit_control_point", some id⟩, pinned⟩ := by
  obtain ⟨e, he, rfl⟩ := Result.exists_of_map_eq_ok h
  obtain ⟨hid, hfound⟩ := requireEdge_eq_ok he
  exact ⟨e, hid, hfound, rfl⟩

theorem planPin_eq_error {id : String} {point : Point α} {r : Rejection}
    (h : g.planPin id point = .error r) : g.edge? id = none ∧ r = .unknownEdge id := by
  unfold planPin requireEdge at h
  split at h
  · cases h
  · next gone =>
    cases h
    exact ⟨gone, rfl⟩

theorem planPin_of_none {id : String} (h : g.edge? id = none) (point : Point α) :
    g.planPin id point = .error (.unknownEdge id) := by
  rw [planPin, requireEdge, h]
  rfl

variable [Scalar α]

theorem planAdd_eq_ok {c : Category} {id : String} {position : Option (Point α)}
    {text : Option String} {p : Plan α (Node α)} (h : g.planAdd c id position text = .ok p) :
    ∃ label, newLabel c id text = .ok label ∧
      let n := g.newNode c id label position
      p = ⟨some ⟨g.addNode n, "add_node", some id⟩, n⟩ := by
  obtain ⟨label, hlabel, rfl⟩ := Result.exists_of_map_eq_ok h
  exact ⟨label, hlabel, rfl⟩

theorem planMove_eq_ok {id : String} {position : Point α} {p : Plan α (Node α)}
    (h : g.planMove id position = .ok p) :
    ∃ n, n.id = id ∧ g.node? n.id = some n ∧
      let moved := { n with position := position }
      p = ⟨some ⟨(g.setNode moved).recenter (some [n.id]), "move_node", some id⟩, moved⟩ := by
  obtain ⟨n, hn, rfl⟩ := Result.exists_of_map_eq_ok h
  obtain ⟨rfl, hfound⟩ := requireNode_eq_ok hn
  exact ⟨n, rfl, hfound, rfl⟩

/-- Drawing an edge: the one that is there is the answer, or a new one is drawn. -/
theorem planConnect_eq_ok {source target : String} {p : Plan α (Edge α)}
    (h : g.planConnect source target = .ok p) :
    ∃ s t, s.id = source ∧ t.id = target ∧ g.node? s.id = some s ∧ g.node? t.id = some t ∧
      s.category ≠ .stop ∧ t.category ≠ .start ∧
      ((∃ present rest, g.between s.id t.id = present :: rest ∧ p = ⟨none, present⟩) ∨
        (g.between s.id t.id = [] ∧
          let e := newEdge s.id t.id
          let drawn := (g.addEdge e).recenter (some [s.id, t.id])
          p = ⟨some ⟨drawn, "connect", some e.id⟩, (drawn.edge? e.id).getD e⟩)) := by
  obtain ⟨s, hs, h⟩ := Result.exists_of_bind_eq_ok h
  obtain ⟨t, ht, h⟩ := Result.exists_of_bind_eq_ok h
  obtain ⟨rfl, hsource⟩ := requireNode_eq_ok hs
  obtain ⟨rfl, htarget⟩ := requireNode_eq_ok ht
  split at h
  · cases h
  next hstop =>
  split at h
  · cases h
  next hstart =>
  refine ⟨s, t, rfl, rfl, hsource, htarget, hstop, hstart, ?_⟩
  split at h
  · next present rest found => exact .inl ⟨present, rest, found, (Except.ok.inj h).symm⟩
  · next none => exact .inr ⟨none, (Except.ok.inj h).symm⟩

end Graph

end FlowCanvas
