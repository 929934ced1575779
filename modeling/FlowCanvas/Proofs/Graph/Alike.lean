import FlowCanvas.Proofs.Graph.RoundTrip

/-!
# Graphs that are alike

Two graphs are alike if they are the same but for whether a coordinate is whole or a double
(`Graph.Alike`). This is equality with numbers compared by value, and what is no number is alike to
itself. Storable graphs that settle to the same are alike (`Graph.alike_of_settled_eq`).
-/

namespace FlowCanvas

universe u v

namespace Number

/-- Numbers of one value; or the same number, which matters for what is no number only. -/
def Alike (a b : Number) : Prop := a = b ∨ a.same b = true

/-- Whatever is a number is alike to what has its value, and to nothing else. -/
theorem alike_iff_same {a b : Number} (h : a ≠ .real Float.nan) : a.Alike b ↔ a.same b = true := by
  refine ⟨?_, .inr⟩
  rintro (rfl | same)
  · cases a with
    | whole n => exact beq_self_eq_true n
    | real x =>
      refine Float.beq_self_iff.2 fun nan => h ?_
      rw [nan]
  · exact same

theorem alike_of_settled_eq {a b : Number} (ha : a.IsExact) (hb : b.IsExact)
    (h : a.settled = b.settled) : a.Alike b := by
  have value : a.toFloat = b.toFloat := Number.real.inj h
  cases a with
  | whole n =>
    cases b with
    | whole m =>
      have integers : Binary64.integerValue? (Binary64.ofInt n) = some m :=
        (congrArg Binary64.integerValue? value).trans hb
      exact .inl (congrArg whole (Option.some.inj (ha.symm.trans integers)))
    | real y =>
      refine .inr (beq_iff_eq.2 ?_)
      exact (congrArg Binary64.integerValue? value.symm).trans ha
  | real x =>
    cases b with
    | whole m =>
      refine .inr (beq_iff_eq.2 ?_)
      exact (congrArg Binary64.integerValue? value).trans hb
    | real y => exact .inl (congrArg real value)

end Number

/-- Points with sides that are alike. -/
structure Point.Alike (p q : Point Number) : Prop where
  /-- the horizontal sides -/
  x : p.x.Alike q.x
  /-- the vertical sides -/
  y : p.y.Alike q.y

/-- Nodes that are the same but for positions, which are alike. -/
structure Node.Alike (n m : Node Number) : Prop where
  /-- the ids -/
  id : n.id = m.id
  /-- the kinds -/
  category : n.category = m.category
  /-- the labels -/
  label : n.label = m.label
  /-- the names in code -/
  identifier : n.identifier = m.identifier
  /-- what they run -/
  implementation : n.implementation = m.implementation
  /-- the positions -/
  position : n.position.Alike m.position

/-- Graphs that are the same but for the positions of nodes, which are alike. -/
structure Graph.Alike (g h : Graph Number) : Prop where
  /-- the nodes, in order -/
  nodes : List.Forall₂ Node.Alike g.nodes h.nodes
  /-- the edges, in order -/
  edges : g.edges = h.edges
  /-- the recorded entry points -/
  entryPoint : g.entryPoint = h.entryPoint
  /-- the names -/
  name : g.name = h.name

theorem Point.alike_of_settled_eq {p q : Point Number} (hp : p.IsExact) (hq : q.IsExact)
    (h : p.map Number.settled = q.map Number.settled) : p.Alike q := by
  obtain ⟨x, y⟩ := Point.mk.inj h
  exact ⟨Number.alike_of_settled_eq hp.x hq.x x, Number.alike_of_settled_eq hp.y hq.y y⟩

theorem Node.alike_of_settled_eq {n m : Node Number} (hn : n.IsStorable) (hm : m.IsStorable)
    (h : n.settled = m.settled) : n.Alike m := by
  obtain ⟨id, category, label, identifier, implementation, position⟩ := Node.mk.inj h
  exact ⟨id, category, label, identifier, implementation,
    Point.alike_of_settled_eq hn.position hm.position position⟩

/-- **Storable graphs that settle to the same are alike.** -/
theorem Graph.alike_of_settled_eq {g h : Graph Number} (hg : g.IsStorable) (hh : h.IsStorable)
    (same : g.settled = h.settled) : g.Alike h := by
  obtain ⟨nodes, edges, entryPoint, name⟩ := Graph.mk.inj same
  refine ⟨?_, edges, entryPoint, name⟩
  rw [← List.forall₂_eq_eq_eq, List.forall₂_map_left_iff, List.forall₂_map_right_iff] at nodes
  rw [List.forall₂_iff_get] at nodes ⊢
  obtain ⟨length, settled⟩ := nodes
  exact ⟨length, fun i hi hi' => Node.alike_of_settled_eq (hg.nodes _ (List.get_mem _ _))
    (hh.nodes _ (List.get_mem _ _)) (settled i hi hi')⟩

end FlowCanvas
