import FlowCanvas.Proofs.Graph.Agreement
import FlowCanvas.Proofs.Graph.Recenter
import FlowCanvas.Proofs.Program.Mapped

/-!
# Graphs arranged at once

Nodes can be put in their places all at once, and then the control points of the edges that go with
them in the middle (`Graph.arranged`). This depends on nothing but the places, and places that are
alike give graphs that agree (`Graph.arranged_agrees`).

A move puts one node in its place and brings the control points of its edges back. A control point
that has the value of the middle is left as it is, so after a move the graph is not what is arranged
at once, but agrees with it (`Graph.recentered_alike`). An edge that the node is no end of has been
arranged before, and its ends are where they were.
-/

namespace FlowCanvas

universe u

/-! ### Arranging -/

section

variable {α : Type u}

/-- A node in the place that there is for it, if there is one. -/
def Node.placed (places : String → Option (Point α)) (n : Node α) : Node α :=
  { n with position := (places n.id).getD n.position }

@[simp] theorem Node.placed_id (places : String → Option (Point α)) (n : Node α) :
    (n.placed places).id = n.id := rfl

/-- A node that is put somewhere is there, whatever other places there are. -/
theorem Node.placed_update (places : String → Option (Point α)) (k : String) (p : Point α)
    (n : Node α) : n.placed (Function.update places k (some p)) =
      if n.id = k then { n.placed places with position := p } else n.placed places := by
  unfold Node.placed
  by_cases same : n.id = k
  · rw [if_pos same, same, Function.update_self]
    rfl
  · rw [if_neg same, Function.update_of_ne same]

namespace Graph

/-- A graph with its nodes in their places. -/
def placed (g : Graph α) (places : String → Option (Point α)) : Graph α :=
  g.mapped (.placed places) id

/-- Whether an edge goes with places: it is not pinned, and there is a place for one of its ends. -/
def Goes (places : String → Option (Point α)) (e : Edge α) : Prop :=
  e.pinned = false ∧ ((places e.source).isSome = true ∨ (places e.target).isSome = true)

instance (places : String → Option (Point α)) (e : Edge α) : Decidable (Goes places e) :=
  inferInstanceAs (Decidable (_ ∧ _))

variable {g : Graph α} {places places' : String → Option (Point α)} {e : Edge α}

/-- Places and control points are not shown in code, nor do they decide about the entry. -/
theorem isKept_placed {ψ : Edge α → Edge α} (source : ∀ e ∈ g.edges, (ψ e).source = e.source)
    (target : ∀ e ∈ g.edges, (ψ e).target = e.target) : g.IsKept id (.placed places) ψ :=
  ⟨Function.injective_id, fun _ _ => rfl, fun _ _ => rfl, fun _ _ => rfl, fun _ _ => rfl, source,
    target⟩

theorem place?_placed (k : String) :
    (g.placed places).place? k = (g.place? k).map fun p => (places k).getD p := by
  have kept : g.IsKept id (.placed places) id := isKept_placed (fun _ _ => rfl) fun _ _ => rfl
  have found : (g.placed places).node? k = (g.node? k).map (.placed places) := kept.node?_mapped k
  rw [place?, found, place?, Option.map_map, Option.map_map]
  refine Option.map_congr fun n hn => ?_
  rw [← id_of_node? hn]
  rfl

variable [Scalar α]

/-- An edge with its control point in the middle once nodes are in their places, if it goes with
them and does not dangle. -/
def arrangedEdge (g : Graph α) (places : String → Option (Point α)) (e : Edge α) : Edge α :=
  if Goes places e then
    match (g.placed places).anchors? e with
    | some a => { e with control := some a.middle }
    | none => e
  else e

/-- **A graph arranged at once**: the nodes are in their places, and the edges that go with them
have their control points in the middle. -/
def arranged (g : Graph α) (places : String → Option (Point α)) : Graph α :=
  g.mapped (.placed places) (g.arrangedEdge places)

theorem arrangedEdge_ends (g : Graph α) (places : String → Option (Point α)) (e : Edge α) :
    (g.arrangedEdge places e).id = e.id ∧ (g.arrangedEdge places e).source = e.source ∧
      (g.arrangedEdge places e).target = e.target ∧
      (g.arrangedEdge places e).pinned = e.pinned := by
  unfold arrangedEdge
  split
  · split <;> exact ⟨rfl, rfl, rfl, rfl⟩
  · exact ⟨rfl, rfl, rfl, rfl⟩

/-- Whether an edge dangles does not depend on places. -/
theorem anchors?_placed_eq_none : (g.placed places).anchors? e = none ↔ g.anchors? e = none := by
  rw [anchors?_eq, anchors?_eq, place?_placed, place?_placed]
  cases g.place? e.source <;> cases g.place? e.target <;> simp

theorem arrangedEdge_of_not_goes (stays : ¬ Goes places e) : g.arrangedEdge places e = e :=
  if_neg stays

theorem arrangedEdge_of_none (dangles : g.anchors? e = none) : g.arrangedEdge places e = e := by
  rw [arrangedEdge, anchors?_placed_eq_none.mpr dangles]
  exact ite_self e

theorem arrangedEdge_of_goes (goes : Goes places e) {a : Anchors α}
    (ha : (g.placed places).anchors? e = some a) :
    g.arrangedEdge places e = { e with control := some a.middle } := by
  rw [arrangedEdge, if_pos goes, ha]

/-- Only the places of the ends of an edge count. -/
theorem arrangedEdge_congr (source : places e.source = places' e.source)
    (target : places e.target = places' e.target) :
    g.arrangedEdge places e = g.arrangedEdge places' e := by
  have anchors : (g.placed places).anchors? e = (g.placed places').anchors? e := by
    refine anchors?_congr ?_ ?_
    · rw [place?_placed, place?_placed, source]
    · rw [place?_placed, place?_placed, target]
  have goes : Goes places e ↔ Goes places' e := by
    rw [Goes, Goes, source, target]
  simp only [arrangedEdge, anchors, goes]

end Graph

end

/-! ### Places that are alike -/

namespace Graph

variable {places places' : String → Option (Point Number)} {e f : Edge Number}

theorem goes_congr (same : ∀ k, Option.Rel Point.Alike (places k) (places' k)) :
    Goes places e ↔ Goes places' e := by
  rw [Goes, Goes, Point.Alike.isSome_eq (same e.source), Point.Alike.isSome_eq (same e.target)]

theorem rel_place?_placed (g : Graph Number)
    (same : ∀ k, Option.Rel Point.Alike (places k) (places' k)) (k : String) :
    Option.Rel Point.Alike ((g.placed places).place? k) ((g.placed places').place? k) := by
  rw [place?_placed, place?_placed]
  cases g.place? k with
  | none => exact .none
  | some p => exact .some (Point.Alike.getD (same k) p)

theorem arrangedEdge_alike (g : Graph Number)
    (same : ∀ k, Option.Rel Point.Alike (places k) (places' k)) (e : Edge Number) :
    (g.arrangedEdge places e).Alike (g.arrangedEdge places' e) := by
  have anchors :=
    anchors?_alike (g.rel_place?_placed same e.source) (g.rel_place?_placed same e.target)
  simp only [arrangedEdge, goes_congr same]
  split
  · generalize (g.placed places).anchors? e = a, (g.placed places').anchors? e = b at anchors
    cases anchors with
    | none => exact .refl e
    | some middle => exact ⟨rfl, rfl, rfl, .some middle, rfl⟩
  · exact .refl e

/-- **Places that are alike give graphs that agree.** -/
theorem arranged_agrees (g : Graph Number)
    (same : ∀ k, Option.Rel Point.Alike (places k) (places' k)) :
    (g.arranged places).Agrees (g.arranged places') := by
  refine ⟨?_, ?_, rfl, rfl⟩
  · rw [arranged, arranged, mapped, mapped, List.forall₂_map_left_iff, List.forall₂_map_right_iff,
      List.forall₂_same]
    exact fun n _ => ⟨rfl, rfl, rfl, rfl, rfl, Point.Alike.getD (same n.id) n.position⟩
  · rw [arranged, arranged, mapped, mapped, List.forall₂_map_left_iff, List.forall₂_map_right_iff,
      List.forall₂_same]
    exact fun e _ => g.arrangedEdge_alike same e

/-! ### One node more -/

/-- A control point that is brought back has the value of the middle, also where it has not been
replaced. -/
theorem recentered_control_alike {g : Graph Number} {ids : Option (List String)}
    {a : Anchors Number} (moves : follows ids e = true) (ha : g.anchors? e = some a) :
    ∃ p, (g.recentered ids e).control = some p ∧ a.middle.Alike p := by
  obtain ⟨p, control, rfl | same⟩ := exists_recentered_control moves ha
  · exact ⟨_, control, .refl _⟩
  · exact ⟨p, control, .of_same same⟩

theorem recentered_of_none {α : Type u} [Scalar α] {g : Graph α} {ids : Option (List String)}
    {e : Edge α} (dangles : g.anchors? e = none) : g.recentered ids e = e := by
  unfold recentered recentered?
  rw [dangles]
  simp

/-- **One move more.** If an edge agrees with what is arranged for some places, then it agrees with
what is arranged for one place more after it has been brought back in a graph with the nodes in
these. -/
theorem recentered_alike {g h : Graph Number} {k : String} {p : Point Number}
    (close : f.Alike (g.arrangedEdge places e))
    (nodes : h.nodes = (g.placed (Function.update places k (some p))).nodes) :
    (h.recentered (some [k]) f).Alike
      (g.arrangedEdge (Function.update places k (some p)) e) := by
  obtain ⟨hid, hsource, htarget, hpinned⟩ := g.arrangedEdge_ends places e
  have source : f.source = e.source := close.source.trans hsource
  have target : f.target = e.target := close.target.trans htarget
  have pinned : f.pinned = e.pinned := close.pinned.trans hpinned
  have anchors : h.anchors? f = (g.placed (Function.update places k (some p))).anchors? e :=
    (anchors?_of_ends source target).trans (anchors?_of_nodes_eq nodes e)
  cases ha : (g.placed (Function.update places k (some p))).anchors? e with
  | none =>
    have dangles := anchors?_placed_eq_none.mp ha
    rw [arrangedEdge_of_none dangles] at close ⊢
    rwa [recentered_of_none (anchors.trans ha)]
  | some a =>
    rw [ha] at anchors
    by_cases touched : e.pinned = false ∧ (e.source = k ∨ e.target = k)
    · -- the edge is in the middle now, on both sides
      have goes : Goes (Function.update places k (some p)) e := by
        refine ⟨touched.1, touched.2.imp ?_ ?_⟩ <;> rintro rfl <;> simp
      have moves : follows (some [k]) f = true := by
        simpa [follows, Edge.touches, source, target, pinned] using touched
      obtain ⟨q, control, middle⟩ := recentered_control_alike moves anchors
      obtain ⟨hid', hsource', htarget', hpinned'⟩ := h.recentered_ends (some [k]) f
      rw [arrangedEdge_of_goes goes ha]
      refine ⟨hid'.trans (close.id.trans hid), hsource'.trans source, htarget'.trans target, ?_,
        hpinned'.trans pinned⟩
      rw [control]
      exact .some middle.symm
    · -- the edge is as it was, on both sides
      have stays : follows (some [k]) f = false := by
        rw [← Bool.not_eq_true]
        intro moves
        exact touched (by simpa [follows, Edge.touches, source, target, pinned] using moves)
      rw [recentered_of_not_follows stays]
      have same :
          g.arrangedEdge (Function.update places k (some p)) e = g.arrangedEdge places e := by
        by_cases hfree : e.pinned = false
        · obtain ⟨apart, apart'⟩ := not_or.mp fun ends => touched ⟨hfree, ends⟩
          exact arrangedEdge_congr (Function.update_of_ne apart _ _)
            (Function.update_of_ne apart' _ _)
        · rw [arrangedEdge_of_not_goes fun goes => hfree goes.1,
            arrangedEdge_of_not_goes fun goes => hfree goes.1]
      rw [same]
      exact close

end Graph

end FlowCanvas
