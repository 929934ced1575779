import FlowCanvas.Plane.Curve
import FlowCanvas.Proofs.Plane.Exact
import Mathlib.Tactic.Ring

/-!
# Curves along a path

A path is resolved into curves with a pen in hand, which knows where it is and, behind a curve, what
the handle of that curve was. What a segment draws hangs on the segments before it through the pen
only (`Pen.draw`, `Pen.next`). So the curves of a path that is cut in two are those of the first
part, and then those of the second part begun with the pen that the first one leaves
(`Pen.curves_append`), and the curve of any segment is found by cutting the path in front of it
(`Pen.curveBehind_curves`).

Hence paths are resolved segment by segment, from where the segment before has left the pen
(`Path.resolved_segmentwise`). In exact arithmetic the reflected handle of a smooth segment means
that the curve before it is continued with the same derivative.
-/

namespace FlowCanvas

universe u v

/-! ### The pen -/

/-- What a path leaves behind for the segments to come. -/
structure Pen (α : Type u) where
  /-- where the pen is -/
  point : Point α
  /-- the handle of the curve just drawn, if the last segment has drawn one -/
  handle : Option (Point α)

namespace Pen

variable {α : Type u} [Scalar α]

/-- A pen that has drawn nothing. -/
def fresh : Pen α := ⟨Point.origin, none⟩

/-- The handle of a smooth segment: the last one reflected through the pen, or the pen itself. -/
def reflected (s : Pen α) : Point α :=
  match s.handle with
  | some h => s.point.scale (Scalar.whole 2) - h
  | none => s.point

/-- The curve that a segment draws, unless it is a move. -/
def draw (s : Pen α) : Segment α → Option (Bezier α)
  | .move _ => none
  | .quad h p => some ⟨s.point, h, p⟩
  | .smooth p => some ⟨s.point, s.reflected, p⟩

/-- The pen behind a segment. -/
def next (s : Pen α) (g : Segment α) : Pen α := ⟨g.last, (s.draw g).map Bezier.handle⟩

/-- The pen behind a path. -/
def along (s : Pen α) (p : Path α) : Pen α := p.foldl next s

/-- The curves of a path that is begun with a pen. -/
def curves (s : Pen α) (p : Path α) : List (Bezier α) := Path.curvesFrom s.point s.handle p

theorem along_concat (s : Pen α) (p : Path α) (g : Segment α) :
    s.along (p ++ [g]) = (s.along p).next g := by
  rw [along, List.foldl_append]
  rfl

theorem exists_draw (s : Pen α) {g : Segment α} (hg : g.isMove = false) :
    ∃ b, s.draw g = some b ∧ b.tip = g.last := by
  cases g with
  | move p => cases hg
  | quad h p => exact ⟨_, rfl, rfl⟩
  | smooth p => exact ⟨_, rfl, rfl⟩

/-- Behind a move there is no handle to reflect. -/
theorem reflected_next_of_move (s : Pen α) {g : Segment α} (hg : g.isMove = true) :
    (s.next g).reflected = g.last := by
  cases g with
  | move p => rfl
  | quad h p => cases hg
  | smooth p => cases hg

/-- Behind a curve its own handle is reflected. -/
theorem reflected_next_of_draw {s : Pen α} {g : Segment α} {b : Bezier α} (h : s.draw g = some b) :
    (s.next g).reflected = g.last.scale (Scalar.whole 2) - b.handle := by
  rw [reflected, next, h]
  rfl

/-! ### Paths in two parts -/

/-- **One segment**: its curve, if it draws one, and then those drawn with the next pen. -/
theorem curves_cons (s : Pen α) (g : Segment α) (p : Path α) :
    s.curves (g :: p) = (s.draw g).toList ++ (s.next g).curves p := by
  cases g <;> rfl

theorem curves_append (s : Pen α) (p q : Path α) :
    s.curves (p ++ q) = s.curves p ++ (s.along p).curves q := by
  induction p generalizing s with
  | nil => rfl
  | cons g p ih =>
    rw [List.cons_append, curves_cons, ih, curves_cons, List.append_assoc]
    rfl

end Pen

namespace Path

/-- The segments of a path that draw. -/
def strokes {α : Type u} (p : Path α) : Path α := p.filter fun g => !g.isMove

/-- The curve that the segment behind the first part of a path draws: as many curves come before it
as segments of that part draw. -/
def curveBehind {α : Type u} (curves : List (Bezier α)) (before : Path α) : Option (Bezier α) :=
  curves[before.strokes.length]?

end Path

namespace Pen

variable {α : Type u} [Scalar α]

theorem length_curves (s : Pen α) (p : Path α) : (s.curves p).length = p.strokes.length := by
  induction p generalizing s with
  | nil => rfl
  | cons g p ih =>
    rw [curves_cons, List.length_append, ih]
    cases g with
    | move q => exact Nat.zero_add _
    | quad h q => exact Nat.add_comm _ _
    | smooth q => exact Nat.add_comm _ _

/-- **The curve of any segment** is what it draws with the pen that the path before it leaves. -/
theorem curveBehind_curves (s : Pen α) (p : Path α) {g : Segment α} (hg : g.isMove = false)
    (q : Path α) : Path.curveBehind (s.curves (p ++ g :: q)) p = (s.along p).draw g := by
  obtain ⟨b, hb, -⟩ := (s.along p).exists_draw hg
  rw [Path.curveBehind, curves_append, ← length_curves s, List.getElem?_append_right le_rfl,
    Nat.sub_self, curves_cons, hb]
  rfl

end Pen

/-! ### Paths resolved -/

namespace Path

variable {α : Type u} [Scalar α]

/-- Curves that draw a path. Each segment that draws is seen with the segment before it, as the path
begins with a move. -/
structure IsResolved (p : Path α) (curves : List (Bezier α)) : Prop where
  /-- there is one for each segment that draws -/
  length : curves.length = p.strokes.length
  /-- a segment with a handle draws from where the one before it has left the pen -/
  quad : ∀ {before prev handle tip after}, p = before ++ prev :: .quad handle tip :: after →
    curveBehind curves (before ++ [prev]) = some ⟨prev.last, handle, tip⟩
  /-- so does a smooth one; behind a move its handle is on the pen, and behind a curve it is the
  handle of that curve reflected -/
  smooth : ∀ {before prev tip after}, p = before ++ prev :: .smooth tip :: after →
    ∃ handle, curveBehind curves (before ++ [prev]) = some ⟨prev.last, handle, tip⟩ ∧
      if prev.isMove then handle = prev.last
      else ∃ b, curveBehind curves before = some b ∧ b.tip = prev.last ∧
        handle = b.tip.scale (Scalar.whole 2) - b.handle

theorem curves_eq_error_iff {p : Path α} :
    p.curves = .error .noStart ↔ ∃ g rest, p = g :: rest ∧ g.isMove = false := by
  cases p with
  | nil => simp [curves]
  | cons g rest => cases g <;> simp [curves, Segment.isMove]

/-- The curves of a path are those that any pen draws, as it begins with a move. -/
theorem curves_eq_ok {p : Path α} (h : ¬ ∃ g rest, p = g :: rest ∧ g.isMove = false) :
    p.curves = .ok (Pen.fresh.curves p) := by
  cases p with
  | nil => rfl
  | cons g rest =>
    cases g with
    | move q => rfl
    | quad h' q => exact absurd ⟨_, rest, rfl, rfl⟩ h
    | smooth q => exact absurd ⟨_, rest, rfl, rfl⟩ h

theorem isResolved_curves (s : Pen α) (p : Path α) : p.IsResolved (s.curves p) where
  length := s.length_curves p
  quad := by
    rintro before prev handle tip after rfl
    rw [List.append_cons, s.curveBehind_curves _ rfl, Pen.along_concat]
    rfl
  smooth := by
    rintro before prev tip after rfl
    refine ⟨((s.along before).next prev).reflected, ?_, ?_⟩
    · rw [List.append_cons, s.curveBehind_curves _ rfl, Pen.along_concat]
      rfl
    · split
      · next move => exact Pen.reflected_next_of_move _ move
      · next stroke =>
        have draws := Bool.eq_false_of_not_eq_true stroke
        obtain ⟨b, hb, tip⟩ := (s.along before).exists_draw draws
        refine ⟨b, (s.curveBehind_curves _ draws _).trans hb, tip, ?_⟩
        rw [tip]
        exact Pen.reflected_next_of_draw hb

theorem isResolved_of_curves {p : Path α} {curves : List (Bezier α)} (h : p.curves = .ok curves) :
    p.IsResolved curves := by
  have start : ¬ ∃ g rest, p = g :: rest ∧ g.isMove = false := by
    rw [← curves_eq_error_iff, h]
    exact fun error => nomatch error
  rw [curves_eq_ok start] at h
  exact Except.ok.inj h ▸ isResolved_curves _ p

end Path

open scoped Plane in
/-- A reflected handle continues a curve with the derivative that it ends with. -/
theorem Bezier.derivativeAt_reflected (b : Bezier ℝ) (tip : Point ℝ) :
    (⟨b.tip, b.tip.scale (Scalar.whole 2) - b.handle, tip⟩ : Bezier ℝ).derivativeAt 0 =
      b.derivativeAt 1 := by
  ext
  · simp [derivativeAt]
    ring
  · simp [derivativeAt]
    ring

namespace Path

open scoped Plane in
/-- **Paths are resolved segment by segment.** A path fails to give curves just if it begins with a
segment that draws. Otherwise there is one curve for each segment that draws, in order, from where
the segment before has left the pen to its own end. A smooth segment behind a move has its handle on
the pen, and in exact arithmetic one behind a curve begins with the derivative that this curve ends
with. -/
theorem resolved_segmentwise :
    (∀ (α : Type) [Scalar α] (p : Path α),
      (p.curves = .error .noStart ↔ ∃ g rest, p = g :: rest ∧ g.isMove = false) ∧
      ((¬ ∃ g rest, p = g :: rest ∧ g.isMove = false) →
        ∃ curves, p.curves = .ok curves ∧ p.IsResolved curves)) ∧
    ∀ (p : Path ℝ) (curves : List (Bezier ℝ)), p.curves = .ok curves →
      ∀ {before prev tip after}, p = before ++ prev :: .smooth tip :: after →
        prev.isMove = false → ∃ a b, curveBehind curves before = some a ∧
          curveBehind curves (before ++ [prev]) = some b ∧ b.derivativeAt 0 = a.derivativeAt 1 := by
  refine ⟨fun α _ p => ⟨curves_eq_error_iff, fun start => ?_⟩, ?_⟩
  · exact ⟨_, curves_eq_ok start, isResolved_curves _ p⟩
  · intro p curves h before prev tip after cut stroke
    obtain ⟨handle, hb, continues⟩ := (isResolved_of_curves h).smooth cut
    rw [stroke] at continues
    obtain ⟨a, ha, meets, rfl⟩ := continues
    rw [← meets] at hb
    exact ⟨a, _, ha, hb, a.derivativeAt_reflected tip⟩

open scoped Plane in
/-- Two smooth segments in a row, of which the second one reflects a handle that has been reflected
itself, and a smooth segment behind a move in the middle of a path. -/
theorem resolved_segmentwise_mixed :
    let p : Path ℝ := [.move ⟨0, 0⟩, .quad ⟨1, 2⟩ ⟨2, 0⟩, .smooth ⟨4, 0⟩, .smooth ⟨5, 5⟩,
      .move ⟨1, 1⟩, .smooth ⟨3, 3⟩]
    let curves := Pen.fresh.curves p
    (¬ ∃ g rest, p = g :: rest ∧ g.isMove = false) ∧
      (∃ curves, p.curves = .ok curves ∧ p.IsResolved curves) ∧ p.curves = .ok curves ∧
      ∃ a b, curveBehind curves (p.take 2) = some a ∧ curveBehind curves (p.take 3) = some b ∧
        b.derivativeAt 0 = a.derivativeAt 1 := by
  intro p curves
  have start : ¬ ∃ g rest, p = g :: rest ∧ g.isMove = false := by
    rintro ⟨g, rest, first, stroke⟩
    obtain ⟨rfl, -⟩ := List.cons.inj first
    cases stroke
  have resolved : p.curves = .ok curves := rfl
  exact ⟨start, (resolved_segmentwise.1 ℝ p).2 start, resolved,
    resolved_segmentwise.2 p curves resolved rfl rfl⟩

end Path

/-! ### Mapped paths -/

/-- A segment with its points mapped. -/
def Segment.map {α : Type u} {β : Type v} (f : Point α → Point β) : Segment α → Segment β
  | move p => move (f p)
  | quad h p => quad (f h) (f p)
  | smooth p => smooth (f p)

/-- A curve with its points mapped. -/
def Bezier.map {α : Type u} {β : Type v} (f : Point α → Point β) (b : Bezier α) : Bezier β :=
  ⟨f b.start, f b.handle, f b.tip⟩

/-- A pen with its points mapped. -/
def Pen.map {α : Type u} {β : Type v} (f : Point α → Point β) (s : Pen α) : Pen β :=
  ⟨f s.point, s.handle.map f⟩

section Mapped

variable {α : Type u} {β : Type v} [Scalar α] [Scalar β] {f : Point α → Point β}
  (reflects : ∀ p h : Point α,
    f (p.scale (Scalar.whole 2) - h) = (f p).scale (Scalar.whole 2) - f h)

include reflects

theorem Pen.reflected_map (s : Pen α) : (s.map f).reflected = f s.reflected := by
  unfold Pen.reflected Pen.map
  rcases s.handle with - | h
  · rfl
  · exact (reflects s.point h).symm

theorem Pen.draw_map (s : Pen α) (g : Segment α) :
    (s.map f).draw (g.map f) = (s.draw g).map (Bezier.map f) := by
  cases g with
  | move p => rfl
  | quad h p => rfl
  | smooth p =>
    rw [Segment.map, Pen.draw, Pen.reflected_map reflects]
    rfl

/-- **A map that goes with reflections goes with curves.** -/
theorem Pen.curves_map (s : Pen α) (p : Path α) :
    (s.map f).curves (p.map (Segment.map f)) = (s.curves p).map (Bezier.map f) := by
  induction p generalizing s with
  | nil => rfl
  | cons g p ih =>
    have next : (s.map f).next (g.map f) = (s.next g).map f := by
      rw [Pen.next, Pen.draw_map reflects, Pen.next, Pen.map, Option.map_map, Option.map_map]
      cases g <;> rfl
    rw [List.map_cons, curves_cons, curves_cons, List.map_append, Pen.draw_map reflects, next, ih]
    cases s.draw g <;> rfl

theorem Path.curves_map {p : Path α} {curves : List (Bezier α)} (h : p.curves = .ok curves) :
    Path.curves (p.map (Segment.map f)) = .ok (curves.map (Bezier.map f)) := by
  cases p with
  | nil =>
    cases h
    rfl
  | cons g rest =>
    cases g with
    | move q =>
      cases h
      exact congrArg Except.ok (Pen.curves_map reflects ⟨q, none⟩ rest)
    | quad h' q => cases h
    | smooth q => cases h

end Mapped

end FlowCanvas
