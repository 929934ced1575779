import FlowCanvas.Graph.Anchor
import FlowCanvas.Plane.Viewport
import FlowCanvas.Proofs.Plane.Through

/-!
# Drawing on screen

A viewport magnifies the plane and moves it. In exact arithmetic drawing goes with that: it makes no
difference whether points are mapped to the screen before an edge is drawn or its path afterwards
(`Path.drawing_on_screen`). Points that are apart stay apart, so that an edge is drawn in the same
way on both sides (`Viewport.toScreen_injective`), and each point that is computed is one of the
given points and some displacements away from it, which the viewport only magnifies.
-/

namespace FlowCanvas

open scoped Plane

namespace Viewport

variable (v : Viewport ℝ)

theorem toScreen_injective {v : Viewport ℝ} (h : 0 < v.zoom) : Function.Injective v.toScreen := by
  intro p q same
  obtain ⟨hx, hy⟩ := Point.ext_iff.mp same
  ext
  · exact mul_right_cancel₀ h.ne' (add_right_cancel hx)
  · exact mul_right_cancel₀ h.ne' (add_right_cancel hy)

/-! ### Computed points -/

theorem toScreen_reflected (p h : Point ℝ) :
    v.toScreen (p.scale (Scalar.whole 2) - h) =
      (v.toScreen p).scale (Scalar.whole 2) - v.toScreen h := by
  ext <;> simp [toScreen] <;> ring

theorem toScreen_chordHandle (s t c : Point ℝ) (k : ℝ) :
    v.toScreen (c - (t - s).scale k) =
      v.toScreen c - (v.toScreen t - v.toScreen s).scale k := by
  ext <;> simp [toScreen] <;> ring

theorem toScreen_spokeHandle (s c : Point ℝ) (k : ℝ) :
    v.toScreen (c + (c - s).turned.scale k) =
      v.toScreen c + (v.toScreen c - v.toScreen s).turned.scale k := by
  ext <;> simp [toScreen, Point.turned] <;> ring

theorem toScreen_middle (s t : Point ℝ) :
    Anchors.middle ⟨v.toScreen s, v.toScreen t⟩ = v.toScreen (Anchors.middle ⟨s, t⟩) := by
  ext <;> simp [toScreen, Anchors.middle, Point.midpoint] <;> ring

/-- The weights of the three points sum up to one, so the pan is added once. -/
theorem toScreen_pointAt (b : Bezier ℝ) (u : ℝ) :
    (b.map v.toScreen).pointAt u = v.toScreen (b.pointAt u) := by
  ext <;> simp [toScreen, Bezier.map, Bezier.pointAt] <;> ring

end Viewport

namespace Path

variable {v : Viewport ℝ}

/-! ### Paths -/

theorem loop_toScreen (h : 0 < v.zoom) (s c : Point ℝ) :
    loop (v.toScreen s) (v.toScreen s) (v.toScreen c) =
      (loop s s c).map (Segment.map v.toScreen) := by
  by_cases collapsed : c = s
  · rw [collapsed, loop_self, loop_self]
    rfl
  · rw [loop_of_ne collapsed, loop_of_ne ((Viewport.toScreen_injective h).ne collapsed),
      ← v.toScreen_spokeHandle]
    rfl

theorem through_toScreen (h : 0 < v.zoom) (s t c : Point ℝ) :
    through (v.toScreen s) (v.toScreen t) (v.toScreen c) =
      (through s t c).map (Segment.map v.toScreen) := by
  by_cases loops : s = t
  · rw [← loops, through_self, through_self]
    exact loop_toScreen h s c
  · rw [through_of_ne loops, through_of_ne ((Viewport.toScreen_injective h).ne loops),
      ← v.toScreen_chordHandle]
    rfl

/-- **Drawing goes with pan and zoom**, in exact arithmetic. Every zoom above zero gives a viewport,
and an edge between points on screen has the path on screen that it has on the canvas, with the same
curves and with the same middle. -/
theorem drawing_on_screen (x y : ℝ) {zoom : ℝ} (h : 0 < zoom) :
    ∃ v : Viewport ℝ, Viewport.of x y zoom = .ok v ∧ ∀ s t c : Point ℝ,
      through (v.toScreen s) (v.toScreen t) (v.toScreen c) =
          (through s t c).map (Segment.map v.toScreen) ∧
        (∃ curves, (through s t c).curves = .ok curves ∧
          (through (v.toScreen s) (v.toScreen t) (v.toScreen c)).curves =
            .ok (curves.map (Bezier.map v.toScreen)) ∧
          ∀ b ∈ curves, ∀ u, (b.map v.toScreen).pointAt u = v.toScreen (b.pointAt u)) ∧
        Anchors.middle ⟨v.toScreen s, v.toScreen t⟩ = v.toScreen (Anchors.middle ⟨s, t⟩) := by
  let v : Viewport ℝ := ⟨x, y, zoom⟩
  refine ⟨v, if_pos (decide_eq_true h), fun s t c => ?_⟩
  have path := through_toScreen (v := v) h s t c
  obtain ⟨curves, resolved⟩ := exists_curves_through s t c
  refine ⟨path, ⟨curves, resolved, ?_, fun b _ => v.toScreen_pointAt b⟩, v.toScreen_middle s t⟩
  rw [path]
  exact curves_map v.toScreen_reflected resolved

/-- A loop, magnified twice and moved. -/
theorem drawing_on_screen_loop :
    let s : Point ℝ := ⟨1, 1⟩
    let c : Point ℝ := ⟨4, 5⟩
    (0 : ℝ) < 2 ∧ ∃ v : Viewport ℝ, Viewport.of 10 20 2 = .ok v ∧
      through (v.toScreen s) (v.toScreen s) (v.toScreen c) =
          (through s s c).map (Segment.map v.toScreen) ∧
        (∃ curves, (through s s c).curves = .ok curves ∧
          (through (v.toScreen s) (v.toScreen s) (v.toScreen c)).curves =
            .ok (curves.map (Bezier.map v.toScreen)) ∧
          ∀ b ∈ curves, ∀ u, (b.map v.toScreen).pointAt u = v.toScreen (b.pointAt u)) ∧
        Anchors.middle ⟨v.toScreen s, v.toScreen s⟩ = v.toScreen (Anchors.middle ⟨s, s⟩) := by
  intro s c
  have zoom : (0 : ℝ) < 2 := two_pos
  obtain ⟨v, valid, drawing⟩ := drawing_on_screen 10 20 zoom
  exact ⟨zoom, v, valid, drawing s s c⟩

end Path

end FlowCanvas
