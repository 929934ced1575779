import FlowCanvas.Proofs.Graph.Center
import FlowCanvas.Proofs.Number.Value

/-!
# Graphs that agree

Two graphs agree if they are the same but for coordinates, which are alike, both those of nodes and
those of control points (`Graph.Agrees`). The middle of an edge is worked out from where its ends
are, in doubles, and where the ends are alike the middle is (`Graph.anchors?_alike`).
-/

namespace FlowCanvas

universe u

/-- Edges that are the same but for control points, which are alike. -/
structure Edge.Alike (e f : Edge Number) : Prop where
  /-- the ids -/
  id : e.id = f.id
  /-- where they start -/
  source : e.source = f.source
  /-- where they end -/
  target : e.target = f.target
  /-- the control points, if there are any -/
  control : Option.Rel Point.Alike e.control f.control
  /-- whether they are pinned -/
  pinned : e.pinned = f.pinned

/-- Graphs that are the same but for coordinates, which are alike. -/
structure Graph.Agrees (g h : Graph Number) : Prop where
  /-- the nodes, in order -/
  nodes : List.Forall₂ Node.Alike g.nodes h.nodes
  /-- the edges, in order -/
  edges : List.Forall₂ Edge.Alike g.edges h.edges
  /-- the recorded entry points -/
  entryPoint : g.entryPoint = h.entryPoint
  /-- the names -/
  name : g.name = h.name

/-- Entry by entry, one relation after another. -/
theorem forall₂_comp {β : Type u} {r : β → β → Prop} (trans : ∀ {a b c}, r a b → r b c → r a c)
    {l m n : List β} (h : List.Forall₂ r l m) (h' : List.Forall₂ r m n) : List.Forall₂ r l n := by
  induction h generalizing n with
  | nil => exact h'
  | cons hab _ ih =>
    cases h' with
    | cons hbc rest => exact .cons (trans hab hbc) (ih rest)

namespace Point.Alike

variable {o p q : Option (Point Number)}

theorem rel_refl (o : Option (Point Number)) : Option.Rel Point.Alike o o := by
  cases o with
  | none => exact .none
  | some p => exact .some (.refl p)

theorem rel_symm (h : Option.Rel Point.Alike o p) : Option.Rel Point.Alike p o := by
  cases h with
  | none => exact .none
  | some h => exact .some h.symm

theorem rel_trans (h : Option.Rel Point.Alike o p) (h' : Option.Rel Point.Alike p q) :
    Option.Rel Point.Alike o q := by
  cases h with
  | none => exact h'
  | some h =>
    cases h' with
    | some h' => exact .some (h.trans h')

theorem isSome_eq (h : Option.Rel Point.Alike o p) : o.isSome = p.isSome := by
  cases h <;> rfl

theorem getD (h : Option.Rel Point.Alike o p) (q : Point Number) :
    (o.getD q).Alike (p.getD q) := by
  cases h with
  | none => exact .refl q
  | some h => exact h

/-- Points that compare as equal are alike. -/
theorem of_same {p q : Point Number} (h : p.same q = true) : p.Alike q := by
  obtain ⟨x, y⟩ := Bool.and_eq_true_iff.mp h
  exact ⟨.inr x, .inr y⟩

end Point.Alike

namespace Node.Alike

variable {n m k : Node Number}

theorem refl (n : Node Number) : n.Alike n := ⟨rfl, rfl, rfl, rfl, rfl, .refl _⟩

theorem symm (h : n.Alike m) : m.Alike n :=
  ⟨h.id.symm, h.category.symm, h.label.symm, h.identifier.symm, h.implementation.symm,
    h.position.symm⟩

theorem trans (h : n.Alike m) (h' : m.Alike k) : n.Alike k :=
  ⟨h.id.trans h'.id, h.category.trans h'.category, h.label.trans h'.label,
    h.identifier.trans h'.identifier, h.implementation.trans h'.implementation,
    h.position.trans h'.position⟩

end Node.Alike

namespace Edge.Alike

variable {e f d : Edge Number}

theorem refl (e : Edge Number) : e.Alike e := ⟨rfl, rfl, rfl, Point.Alike.rel_refl _, rfl⟩

theorem symm (h : e.Alike f) : f.Alike e :=
  ⟨h.id.symm, h.source.symm, h.target.symm, Point.Alike.rel_symm h.control, h.pinned.symm⟩

theorem trans (h : e.Alike f) (h' : f.Alike d) : e.Alike d :=
  ⟨h.id.trans h'.id, h.source.trans h'.source, h.target.trans h'.target,
    Point.Alike.rel_trans h.control h'.control, h.pinned.trans h'.pinned⟩

end Edge.Alike

namespace Graph.Agrees

variable {g h k : Graph Number}

theorem symm (a : g.Agrees h) : h.Agrees g :=
  ⟨.flip (a.nodes.imp fun _ _ => .symm), .flip (a.edges.imp fun _ _ => .symm), a.entryPoint.symm,
    a.name.symm⟩

theorem trans (a : g.Agrees h) (b : h.Agrees k) : g.Agrees k :=
  ⟨forall₂_comp .trans a.nodes b.nodes, forall₂_comp .trans a.edges b.edges,
    a.entryPoint.trans b.entryPoint, a.name.trans b.name⟩

end Graph.Agrees

/-! ### The middle -/

namespace Number

variable {a b a' b' : Number}

theorem add_eq_real (h : a.IsReal ∨ b.IsReal) : a + b = real (a.toFloat + b.toFloat) := by
  cases a <;> cases b
  · exact (h.elim id id).elim
  all_goals rfl

theorem IsReal.add (h : a.IsReal ∨ b.IsReal) : (a + b).IsReal := by
  rw [add_eq_real h]
  trivial

/-- Sums of numbers that are alike are alike if a double is among them. -/
theorem Alike.add (h : a.Alike a') (h' : b.Alike b')
    (hreal : a.IsReal ∧ a'.IsReal ∨ b.IsReal ∧ b'.IsReal) : (a + b).Alike (a' + b') := by
  rw [add_eq_real (hreal.imp And.left And.left), add_eq_real (hreal.imp And.right And.right)]
  exact h.settled.real_add h'.settled

/-- Halves of numbers that are alike are alike. -/
theorem Alike.half (h : a.Alike b) : (a / whole 2).Alike (b / whole 2) := h.settled.real_half

end Number

namespace Point.Alike

variable {p q s t : Point Number}

theorem centerX (h : p.Alike q) : (Box.ofCorner p).centerX.Alike (Box.ofCorner q).centerX :=
  h.x.add (.refl _) (.inr ⟨trivial, trivial⟩)

theorem bottom (h : p.Alike q) : (Box.ofCorner p).bottom.Alike (Box.ofCorner q).bottom :=
  h.y.add (.refl _) (.inr ⟨trivial, trivial⟩)

theorem centerBottom (h : p.Alike q) :
    (Box.ofCorner p).centerBottom.Alike (Box.ofCorner q).centerBottom :=
  ⟨h.centerX, h.bottom⟩

theorem centerTop (h : p.Alike q) : (Box.ofCorner p).centerTop.Alike (Box.ofCorner q).centerTop :=
  ⟨h.centerX, h.y⟩

/-- Where an edge starts is told by doubles, so its middle is worked out in doubles. -/
theorem midpoint (h : p.Alike q) (h' : s.Alike t) :
    ((Box.ofCorner p).centerBottom.midpoint s).Alike
      ((Box.ofCorner q).centerBottom.midpoint t) := by
  have across (p : Point Number) : (Box.ofCorner p).centerX.IsReal := .add (.inr trivial)
  have down (p : Point Number) : (Box.ofCorner p).bottom.IsReal := .add (.inr trivial)
  exact ⟨(h.centerX.add h'.x (.inl ⟨across p, across q⟩)).half,
    (h.bottom.add h'.y (.inl ⟨down p, down q⟩)).half⟩

end Point.Alike

/-- **Where the ends are alike the middle is.** -/
theorem Graph.anchors?_alike {g h : Graph Number} {e : Edge Number}
    (source : Option.Rel Point.Alike (g.place? e.source) (h.place? e.source))
    (target : Option.Rel Point.Alike (g.place? e.target) (h.place? e.target)) :
    Option.Rel (fun a b => a.middle.Alike b.middle) (g.anchors? e) (h.anchors? e) := by
  rw [anchors?_eq, anchors?_eq]
  generalize g.place? e.source = s, h.place? e.source = s' at source
  generalize g.place? e.target = t, h.place? e.target = t' at target
  cases source with
  | none => exact .none
  | some hs =>
    cases target with
    | none => exact .none
    | some ht =>
      refine .some ?_
      simp only [Anchors.middle]
      split
      · exact hs.midpoint hs.centerBottom
      · exact hs.midpoint ht.centerTop

end FlowCanvas
