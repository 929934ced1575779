import FlowCanvas.Proofs.Plane.Exact
import FlowCanvas.Proofs.Session.Wiring

/-!
# Control points in the middle

A graph is centered if each edge that is not pinned has its control point half way between its
anchors (`Graph.Centered`). The anchors are where the nodes are now, so this is about all edges at
any time, while only an edge that is drawn and those of a node that is moved have their control
points brought back. For these, bringing back is enough in exact arithmetic
(`Graph.recentered_control`); all other edits leave the positions of the ends alone, or take the
edge away with its ends (`Graph.Centered.edited`).
-/

namespace FlowCanvas

universe u

namespace Graph

variable {α : Type u} [Scalar α] {g h : Graph α}

/-! ### Anchors -/

/-- Where the first node with an id stands. -/
def place? (g : Graph α) (id : String) : Option (Point α) := (g.node? id).map Node.position

/-- The anchors of an edge are told by the places of its ends. -/
theorem anchors?_eq (g : Graph α) (e : Edge α) :
    g.anchors? e = (g.place? e.source).bind fun s => (g.place? e.target).map fun t =>
      ⟨(Box.ofCorner s).centerBottom,
        if e.isLoop then (Box.ofCorner s).centerBottom else (Box.ofCorner t).centerTop⟩ := by
  unfold anchors? place?
  rcases g.node? e.source with - | s
  · rfl
  · rcases g.node? e.target with - | t <;> rfl

theorem anchors?_congr {e : Edge α} (source : h.place? e.source = g.place? e.source)
    (target : h.place? e.target = g.place? e.target) : h.anchors? e = g.anchors? e := by
  rw [anchors?_eq, anchors?_eq, source, target]

theorem anchors?_of_ends {e f : Edge α} (source : f.source = e.source)
    (target : f.target = e.target) : g.anchors? f = g.anchors? e := by
  rw [anchors?, anchors?, Edge.isLoop, Edge.isLoop, source, target]

omit [Scalar α] in
theorem place?_of_nodes_eq (nodes : h.nodes = g.nodes) (id : String) :
    h.place? id = g.place? id := by
  rw [place?, place?, node?, node?, nodes]

theorem anchors?_of_nodes_eq (nodes : h.nodes = g.nodes) (e : Edge α) :
    h.anchors? e = g.anchors? e :=
  anchors?_congr (place?_of_nodes_eq nodes _) (place?_of_nodes_eq nodes _)

/-- An edge between nodes that are there has anchors. -/
theorem exists_anchors? {e : Edge α} (source : g.has e.source = true)
    (target : g.has e.target = true) : ∃ a, g.anchors? e = some a := by
  obtain ⟨s, hs⟩ := exists_node? source
  obtain ⟨t, ht⟩ := exists_node? target
  unfold anchors?
  rw [hs, ht]
  exact ⟨_, rfl⟩

/-! ### Centered edges -/

/-- An edge has its control point half way between its anchors in a graph, unless it is pinned. -/
def IsCentered (g : Graph α) (e : Edge α) : Prop :=
  e.pinned = false → ∃ a, g.anchors? e = some a ∧ e.control = some a.middle

/-- All edges that are not pinned have their control points half way between their anchors. -/
def Centered (g : Graph α) : Prop := ∀ e ∈ g.edges, g.IsCentered e

theorem IsCentered.congr {e : Edge α} (he : g.IsCentered e) (same : h.anchors? e = g.anchors? e) :
    h.IsCentered e := by
  intro free
  rw [same]
  exact he free

/-- Where the ends have stayed, control points need not move. -/
theorem Centered.of_subset (hg : g.Centered) (edges : h.edges ⊆ g.edges)
    (same : ∀ e ∈ h.edges, h.anchors? e = g.anchors? e) : h.Centered :=
  fun e he => (hg e (edges he)).congr (same e he)

/-! ### Control points brought back -/

theorem recentered_of_not_follows {ids : Option (List String)} {e : Edge α}
    (stays : follows ids e = false) : g.recentered ids e = e := by
  unfold recentered recentered?
  rw [stays]
  rfl

/-- A control point that is brought back is the middle, or one that passes for it and has not been
replaced. -/
theorem exists_recentered_control {ids : Option (List String)} {e : Edge α} {a : Anchors α}
    (moves : follows ids e = true) (ha : g.anchors? e = some a) :
    ∃ p, (g.recentered ids e).control = some p ∧ (p = a.middle ∨ a.middle.same p = true) := by
  unfold recentered recentered?
  rw [moves, ha]
  simp only [if_true]
  split
  · next there =>
    obtain ⟨p, hp, same⟩ := (Option.any_eq_true _ _).mp there
    exact ⟨p, hp, .inr same⟩
  · exact ⟨_, rfl, .inl rfl⟩

/-- In exact arithmetic it is in the middle. -/
theorem recentered_control [Scalar.IsExact α] {ids : Option (List String)} {e : Edge α}
    {a : Anchors α} (moves : follows ids e = true) (ha : g.anchors? e = some a) :
    (g.recentered ids e).control = some a.middle := by
  obtain ⟨p, control, rfl | same⟩ := exists_recentered_control moves ha
  · exact control
  · rw [Point.eq_of_same same]
    exact control

/-- A graph is centered once the edges that may be off have been brought back. -/
theorem centered_recenter [Scalar.IsExact α] {ids : Option (List String)}
    (distinct : (g.edges.map Edge.id).Nodup)
    (anchored : ∀ e ∈ g.edges, follows ids e = true → ∃ a, g.anchors? e = some a)
    (others : ∀ e ∈ g.edges, follows ids e = false → g.IsCentered e) :
    (g.recenter ids).Centered := by
  intro f hf
  rw [recenter_edges distinct] at hf
  obtain ⟨e, he, rfl⟩ := List.mem_map.mp hf
  have same : (g.recenter ids).anchors? (g.recentered ids e) = g.anchors? e := by
    rw [anchors?_of_nodes_eq (recenter_nodes g ids)]
    exact anchors?_of_ends (recentered_source g ids e) (recentered_target g ids e)
  cases moves : follows ids e with
  | false =>
    rw [recentered_of_not_follows moves] at same ⊢
    exact (others e he moves).congr same
  | true =>
    obtain ⟨a, ha⟩ := anchored e he moves
    intro _
    exact ⟨a, same.trans ha, recentered_control moves ha⟩

/-! ### Edits -/

omit [Scalar α] in
/-- A node that takes the place of one where it stands moves nobody. -/
theorem place?_setNode_of_position {n m : Node α} (hn : g.node? n.id = some n) (hid : m.id = n.id)
    (position : m.position = n.position) (id : String) : (g.setNode m).place? id = g.place? id := by
  rw [place?, place?, node?_setNode]
  rcases found : g.node? id with - | k
  · rfl
  · simp only [Option.map_some]
    split
    · next hk =>
      obtain rfl : n = k := by
        rw [← id_of_node? found, hk, hid, hn] at found
        exact Option.some.inj found
      rw [position]
    · rfl

omit [Scalar α] in
theorem place?_setNode_of_ne {m : Node α} {id : String} (h : id ≠ m.id) :
    (g.setNode m).place? id = g.place? id := by
  rw [place?, place?, node?_setNode]
  rcases found : g.node? id with - | k
  · rfl
  · rw [Option.map_some, if_neg fun hk => h ((id_of_node? found).symm.trans hk)]

/-- A node is moved, and the control points of its edges that are not pinned are brought back. -/
theorem Centered.move [Scalar.IsExact α] (hg : g.Centered) (tidy : g.Tidy) (n : Node α)
    (position : Point α) :
    ((g.setNode { n with position := position }).recenter (some [n.id])).Centered := by
  have hhas (id : String) : (g.setNode { n with position := position }).has id = g.has id := by
    rw [← node?_isSome, ← node?_isSome, node?_setNode, Option.isSome_map]
  refine centered_recenter tidy.wired.ids_nodup (fun e he _ => ?_) fun e he stays free => ?_
  · refine exists_anchors? ?_ ?_
    · rw [hhas]
      exact tidy.wired.has_source e he
    · rw [hhas]
      exact tidy.wired.has_target e he
  · -- an edge that is not pinned and stays does not touch the node
    obtain ⟨hsource, htarget⟩ : e.source ≠ n.id ∧ e.target ≠ n.id := by
      simpa [follows, free, Edge.touches] using stays
    refine (hg e he).congr (anchors?_congr ?_ ?_) free
    · exact place?_setNode_of_ne hsource
    · exact place?_setNode_of_ne htarget

/-- An edge is drawn, and it is among those that are brought back. -/
theorem Centered.connect [Scalar.IsExact α] {source target : String} (hg : g.Centered)
    (drawn : (g.addEdge (newEdge source target)).Tidy) :
    ((g.addEdge (newEdge source target)).recenter (some [source, target])).Centered := by
  refine centered_recenter drawn.wired.ids_nodup (fun e he _ => ?_) ?_
  · exact exists_anchors? (drawn.wired.has_source e he) (drawn.wired.has_target e he)
  · refine forall_mem_addEdge.mpr ⟨fun e he _ => ?_, fun stays => ?_⟩
    · exact (hg e he).congr (anchors?_of_nodes_eq rfl e)
    · simp [follows, newEdge, Edge.touches] at stays

/-- **Edits keep a tidy graph centered**, in exact arithmetic. -/
theorem Centered.edited [Scalar.IsExact α] {drawn : Option String} (hg : g.Centered)
    (tidy : g.Tidy) (he : g.Edited drawn h) : h.Centered := by
  cases he with
  | addNode position hfree hlabel =>
    refine hg.of_subset (List.Subset.refl _) fun e he => anchors?_congr ?_ ?_
    · exact congrArg (Option.map _) (node?_addNode_of_has (tidy.wired.has_source e he) _)
    · exact congrArg (Option.map _) (node?_addNode_of_has (tidy.wired.has_target e he) _)
  | renameNode hn hterminal hlabel =>
    refine hg.of_subset (List.Subset.refl _) fun e he => anchors?_congr ?_ ?_
    · exact place?_setNode_of_position hn (by rfl) (by rfl) _
    · exact place?_setNode_of_position hn (by rfl) (by rfl) _
  | @moveNode n position hn => exact hg.move tidy n position
  | removeNodes hids =>
    refine hg.of_subset (List.filter_sublist.subset) fun e he => anchors?_congr ?_ ?_
    · exact congrArg (Option.map _) (node?_removeNodes (untouched he).1)
    · exact congrArg (Option.map _) (node?_removeNodes (untouched he).2)
  | connect hs ht hstop hstart hnone =>
    exact hg.connect (tidy.connect (mem_of_node? hs) (mem_of_node? ht) hstop hstart hnone)
  | removeEdges hids =>
    exact hg.of_subset (List.filter_sublist.subset) fun e _ => anchors?_of_nodes_eq rfl e
  | pinControl point hd =>
    intro f hf
    obtain ⟨e, he, rfl⟩ := List.mem_map.mp hf
    split
    · intro free
      cases free
    · exact (hg e he).congr (anchors?_of_nodes_eq rfl e)
  | setName raw =>
    exact hg.of_subset (List.Subset.refl _) fun e _ => anchors?_of_nodes_eq rfl e
  | reset => exact List.forall_mem_nil _

end Graph

end FlowCanvas
