import FlowCanvas.Plane.Curve
import FlowCanvas.Proofs.Number.Drawn
import FlowCanvas.Proofs.Text.Separator

/-!
# Paths told by their texts

The text of a path has blanks between its words and commas inside of points, and neither stands in
the text of a number. So with a blank behind it the text of a segment tells the segment, up to zeros
of different signs, and what follows it (`Segment.same_of_text_append`): the letter says how many
points are to come. By this two paths have one text exactly if they have the same segments
(`Path.text_eq_text_iff`).
-/

namespace FlowCanvas

/-! ### The same segments -/

/-- Segments of one kind at points of one value. -/
inductive Segment.Same : Segment Number → Segment Number → Prop where
  /-- two moves -/
  | move {p q : Point Number} (tip : p.same q = true) : Same (.move p) (.move q)
  /-- two curves with their handles -/
  | quad {h k p q : Point Number} (handle : h.same k = true) (tip : p.same q = true) :
    Same (.quad h p) (.quad k q)
  /-- two smooth curves -/
  | smooth {p q : Point Number} (tip : p.same q = true) : Same (.smooth p) (.smooth q)

/-- The points that a segment is written with. -/
def Segment.points {α : Type} : Segment α → List (Point α)
  | move p => [p]
  | quad h p => [h, p]
  | smooth p => [p]

/-- Both sides of a point are finite doubles. -/
def Point.IsFinite (p : Point Number) : Prop := p.x.IsFinite ∧ p.y.IsFinite

instance : DecidablePred Point.IsFinite := fun p =>
  inferInstanceAs (Decidable (p.x.IsFinite ∧ p.y.IsFinite))

/-- All coordinates of a path are finite doubles. -/
def Path.IsFinite (p : Path Number) : Prop := ∀ g ∈ p, ∀ q ∈ g.points, q.IsFinite

instance : DecidablePred Path.IsFinite := fun p =>
  inferInstanceAs (Decidable (∀ g ∈ p, ∀ q ∈ g.points, q.IsFinite))

/-! ### Texts with a blank behind them -/

theorem Number.separator_not_mem_drawn {a : Number} (ha : a.IsFinite) {c : Char}
    (hc : isNumeric c = false) : c ∉ a.drawn := fun mem =>
  absurd (isNumeric_of_mem_drawn ha mem) (Bool.eq_false_iff.mp hc)

namespace Segment

variable {p q : Point Number} {g k : Segment Number} {r s : List Char}

/-- **A point is told by its text**, which ends at a blank. -/
theorem same_of_pointText_append (hp : p.IsFinite) (hq : q.IsFinite)
    (h : pointText Number.drawn p ++ ' ' :: r = pointText Number.drawn q ++ ' ' :: s) :
    p.same q = true ∧ r = s := by
  rw [pointText, pointText, List.append_assoc, List.append_assoc] at h
  obtain ⟨x, h⟩ := append_cons_inj (Number.separator_not_mem_drawn hp.1 rfl)
    (Number.separator_not_mem_drawn hq.1 rfl) h
  obtain ⟨y, rest⟩ := append_cons_inj (Number.separator_not_mem_drawn hp.2 rfl)
    (Number.separator_not_mem_drawn hq.2 rfl) h
  rw [Number.drawn_eq_drawn_iff hp.1 hq.1] at x
  rw [Number.drawn_eq_drawn_iff hp.2 hq.2] at y
  exact ⟨Bool.and_eq_true_iff.mpr ⟨x, y⟩, rest⟩

/-- **A segment is told by its text.** The letter in front is that of its kind. -/
theorem same_of_text_append (hg : ∀ p ∈ g.points, p.IsFinite) (hk : ∀ p ∈ k.points, p.IsFinite)
    (h : g.text Number.drawn ++ ' ' :: r = k.text Number.drawn ++ ' ' :: s) :
    g.Same k ∧ r = s := by
  cases g with
  | move p =>
    cases k with
    | move q =>
      simp only [text, List.cons_append, List.cons.injEq, true_and] at h
      obtain ⟨tip, rest⟩ := same_of_pointText_append (hg p (by simp [points]))
        (hk q (by simp [points])) h
      exact ⟨.move tip, rest⟩
    | _ => simp [text] at h
  | quad a p =>
    cases k with
    | quad b q =>
      simp only [text, List.cons_append, List.append_assoc, List.cons.injEq, true_and] at h
      -- the points are read off one after the other, each up to the blank behind it
      obtain ⟨handle, h⟩ := same_of_pointText_append (hg a (by simp [points]))
        (hk b (by simp [points])) h
      obtain ⟨tip, rest⟩ := same_of_pointText_append (hg p (by simp [points]))
        (hk q (by simp [points])) h
      exact ⟨.quad handle tip, rest⟩
    | _ => simp [text] at h
  | smooth p =>
    cases k with
    | smooth q =>
      simp only [text, List.cons_append, List.cons.injEq, true_and] at h
      obtain ⟨tip, rest⟩ := same_of_pointText_append (hg p (by simp [points]))
        (hk q (by simp [points])) h
      exact ⟨.smooth tip, rest⟩
    | _ => simp [text] at h

theorem pointText_eq_of_same (hp : p.IsFinite) (hq : q.IsFinite) (h : p.same q = true) :
    pointText Number.drawn p = pointText Number.drawn q := by
  obtain ⟨x, y⟩ := Bool.and_eq_true_iff.mp h
  rw [pointText, pointText, (Number.drawn_eq_drawn_iff hp.1 hq.1).mpr x,
    (Number.drawn_eq_drawn_iff hp.2 hq.2).mpr y]

theorem text_eq_of_same (hg : ∀ p ∈ g.points, p.IsFinite) (hk : ∀ p ∈ k.points, p.IsFinite)
    (h : g.Same k) : g.text Number.drawn = k.text Number.drawn := by
  cases h with
  | @move p q tip =>
    rw [text, text, pointText_eq_of_same (hg p (by simp [points])) (hk q (by simp [points])) tip]
  | @quad a b p q handle tip =>
    rw [text, text, pointText_eq_of_same (hg a (by simp [points])) (hk b (by simp [points])) handle,
      pointText_eq_of_same (hg p (by simp [points])) (hk q (by simp [points])) tip]
  | @smooth p q tip =>
    rw [text, text, pointText_eq_of_same (hg p (by simp [points])) (hk q (by simp [points])) tip]

end Segment

namespace Path

variable {p q : Path Number}

/-- The text of a path with a blank behind every segment. -/
def spaced (p : Path Number) : List Char := p.flatMap fun g => g.text Number.drawn ++ [' ']

theorem text_append_blank (h : p ≠ []) : p.text Number.drawn ++ [' '] = p.spaced := by
  rw [text, intercalate_append_separator ' ' (List.map_eq_nil_iff.not.mpr h), spaced,
    List.flatMap_map]

theorem spaced_cons (g : Segment Number) (p : Path Number) :
    spaced (g :: p) = g.text Number.drawn ++ ' ' :: p.spaced := by
  rw [spaced, List.flatMap_cons, List.append_assoc]
  rfl

theorem text_ne_nil (h : p ≠ []) : p.text Number.drawn ≠ [] := by
  intro empty
  have blank := text_append_blank h
  obtain ⟨g, p, rfl⟩ := List.exists_cons_of_ne_nil h
  rw [empty, spaced_cons] at blank
  -- a letter comes before the first blank
  cases g <;> simp [Segment.text] at blank

theorem text_eq_iff_spaced_eq :
    p.text Number.drawn = q.text Number.drawn ↔ p.spaced = q.spaced := by
  by_cases hp : p = []
  · subst hp
    by_cases hq : q = []
    · subst hq
      exact ⟨fun _ => rfl, fun _ => rfl⟩
    · rw [← text_append_blank hq]
      exact ⟨fun empty => absurd empty.symm (text_ne_nil hq),
        fun empty => absurd empty (List.append_ne_nil_of_right_ne_nil _ (by simp)).symm⟩
  · by_cases hq : q = []
    · subst hq
      rw [← text_append_blank hp]
      exact ⟨fun empty => absurd empty (text_ne_nil hp),
        fun empty => absurd empty (List.append_ne_nil_of_right_ne_nil _ (by simp))⟩
    · rw [← text_append_blank hp, ← text_append_blank hq, List.append_cancel_right_eq]

/-- Segment by segment, a path is told by its text with blanks. -/
theorem same_of_spaced_eq (hp : p.IsFinite) (hq : q.IsFinite) (h : p.spaced = q.spaced) :
    List.Forall₂ Segment.Same p q := by
  induction p generalizing q with
  | nil =>
    cases q with
    | nil => exact .nil
    | cons k q => simp [spaced] at h
  | cons g p ih =>
    cases q with
    | nil => simp [spaced] at h
    | cons k q =>
      obtain ⟨hg, hp⟩ := List.forall_mem_cons.mp hp
      obtain ⟨hk, hq⟩ := List.forall_mem_cons.mp hq
      rw [spaced_cons, spaced_cons] at h
      obtain ⟨same, rest⟩ := Segment.same_of_text_append hg hk h
      exact .cons same (ih hp hq rest)

theorem spaced_eq_of_same (hp : p.IsFinite) (hq : q.IsFinite)
    (h : List.Forall₂ Segment.Same p q) : p.spaced = q.spaced := by
  induction h with
  | nil => rfl
  | @cons g k p q same _ ih =>
    obtain ⟨hg, hp⟩ := List.forall_mem_cons.mp hp
    obtain ⟨hk, hq⟩ := List.forall_mem_cons.mp hq
    rw [spaced_cons, spaced_cons, Segment.text_eq_of_same hg hk same, ih hp hq]

/-- **The text of a path tells the path.** If all coordinates are finite doubles, two paths have one
text exactly if they have the same segments, one after the other, at coordinates of one value. -/
theorem text_eq_text_iff (hp : p.IsFinite) (hq : q.IsFinite) :
    p.text Number.drawn = q.text Number.drawn ↔ List.Forall₂ Segment.Same p q := by
  rw [text_eq_iff_spaced_eq]
  exact ⟨same_of_spaced_eq hp hq, spaced_eq_of_same hp hq⟩

/-- Coordinates in both notations, beyond the doubles that hold each integer, and zeros of both
signs, which are written in the same way. -/
theorem text_eq_text_iff_zeros :
    let p : Path Number := [.move ⟨.real 0, .real 0.1⟩,
      .quad ⟨.real (-2.5), .real 1e300⟩ ⟨.real 1e-7, .real 3⟩, .smooth ⟨.real 4, .real (-0)⟩]
    let q : Path Number := [.move ⟨.real (-0), .real 0.1⟩,
      .quad ⟨.real (-2.5), .real 1e300⟩ ⟨.real 1e-7, .real 3⟩, .smooth ⟨.real 4, .real 0⟩]
    p.IsFinite ∧ q.IsFinite ∧ p.text Number.drawn = q.text Number.drawn ∧
      List.Forall₂ Segment.Same p q := by
  intro p q
  have hp : p.IsFinite := by decide +kernel
  have hq : q.IsFinite := by decide +kernel
  have text : p.text Number.drawn = q.text Number.drawn := by decide +kernel
  exact ⟨hp, hq, text, (text_eq_text_iff hp hq).mp text⟩

end Path

end FlowCanvas
