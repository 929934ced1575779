import FlowCanvas.Drag.Delivery

/-!
# Deliveries to many listenings

An event is delivered once per listening, and each delivery sees what the one before has left. None
of them but the first makes a difference: a move always counts from the start of the drag, a release
ends the drag that it finds, and a press is refused at once or begins nothing. So a delivery is that
to one listening, whatever the host does (`DragHost.push_eq`).
-/

namespace FlowCanvas

universe u v w

/-- A step that does nothing where it has been made is made once, however often it is asked for. -/
theorem Outcome.each_replicate {σ : Type u} {ε : Type v} {ι : Type w}
    (step : ι → σ → Outcome σ ε Unit) (i : ι)
    (idempotent : ∀ s s', step i s = .done s' () → step i s' = .done s' ()) (n : Nat) (s : σ) :
    each step (List.replicate (n + 1) i) s = step i s := by
  induction n generalizing s with
  | zero =>
    rw [List.replicate_succ, List.replicate_zero, each]
    rcases step i s with ⟨s', f | done⟩ <;> rfl
  | succ n ih =>
    rw [List.replicate_succ, each]
    rcases made : step i s with ⟨s', f | done⟩
    · rfl
    · exact (ih s').trans (idempotent s s' made)

/-- A drag after a move of the pointer, at a zoom. -/
def Drag.pulled {α : Type w} [Scalar α] (d : Drag α) (zoom : α) (p : Point α) : Drag α :=
  { d with live := d.originControl + (p - d.originScreen).divide zoom }

/-- A move counts from the beginning of the drag. -/
theorem Drag.pulled_pulled {α : Type w} [Scalar α] (d : Drag α) (zoom : α) (p q : Point α) :
    (d.pulled zoom p).pulled zoom q = d.pulled zoom q := rfl

/-- At a positive zoom a move is accepted. -/
theorem Controller.move_eq_ok {α : Type w} [Scalar α] {c : Controller α} {d : Drag α} {zoom : α}
    (hd : c.drag = some d) (positive : Scalar.positive zoom = true) (p : Point α) :
    c.move zoom p =
      .ok ({ c with drag := some (d.pulled zoom p) }, some (d.pulled zoom p).live) := by
  simp only [move, hd, positive, if_true]
  rfl

/-- A preview counts from the start of the drag, so a move that is made again changes nothing. -/
theorem Controller.move_move {α : Type w} [Scalar α] {c c' : Controller α} {zoom : α}
    {screen : Point α} {p : Option (Point α)} (h : c.move zoom screen = .ok (c', p)) :
    c'.move zoom screen = .ok (c', p) := by
  obtain ⟨drag, source⟩ := c
  cases drag with
  | none =>
    cases h
    rfl
  | some d =>
    simp only [move] at h
    split at h
    · next positive =>
      cases h
      simp only [move, positive, if_true]
    · cases h

/-- A move is refused for the zoom, and for nothing else. -/
theorem Controller.fault_of_move {α : Type w} [Scalar α] {c : Controller α} {zoom : α}
    {screen : Point α} {f : DragFault α} (h : c.move zoom screen = .error f) :
    f = .badZoom ⟨zoom⟩ := by
  obtain ⟨drag, source⟩ := c
  cases drag with
  | none => cases h
  | some d =>
    simp only [move] at h
    split at h
    · cases h
    · exact (Except.error.inj h).symm

namespace DragHost

variable {σ : Type u} {ε : Type v} {α : Type w} [Scalar α]

/-- The pointer goes up: the drag is released. -/
theorem handle_up (h : DragHost σ ε α) (screen : Point α) (s : σ) (c : Controller α) :
    h.handle (.up screen) (s, c) = (h.release s c).map fun _ => () := by
  obtain ⟨drag, source⟩ := c
  cases drag with
  | none => rfl
  | some d =>
    simp only [handle, release, Controller.handle, Controller.release]
    rcases h.pin s ⟨d.edge, d.live⟩ with ⟨s', f | done⟩ <;> rfl

/-- The pointer moves: the preview follows, at the zoom of the host. -/
theorem handle_move (h : DragHost σ ε α) (screen : Point α) (s : σ) (c : Controller α) :
    h.handle (.move screen) (s, c) =
      match c.move (h.zoom s) screen with
      | .ok (c', _) => .done (s, c') ()
      | .error f => .failed (s, c) (h.fault f) := by
  simp only [handle, Controller.handle]
  rcases c.move (h.zoom s) screen with f | ⟨c', p⟩ <;> rfl

/-- The pointer is pressed: this is refused while a drag is on. -/
theorem handle_down (h : DragHost σ ε α) (edge : String) (screen : Point α) (s : σ)
    (c : Controller α) :
    h.handle (.down edge screen) (s, c) =
      if c.isDragging then .failed (s, c) (h.fault (.pressed edge)) else .done (s, c) () := by
  obtain ⟨drag, source⟩ := c
  cases drag <;> rfl

theorem handle_handle {h : DragHost σ ε α} {event : PointerEvent α} {held held' : Held σ α}
    (made : h.handle event held = .done held' ()) : h.handle event held' = .done held' () := by
  obtain ⟨s, c⟩ := held
  cases event with
  | down edge screen =>
    rw [handle_down] at made
    split at made
    · cases made
    · next idle =>
      cases made
      rw [handle_down, if_neg idle]
  | move screen =>
    rw [handle_move] at made
    split at made
    · next c' p moved =>
      cases made
      rw [handle_move, Controller.move_move moved]
    · cases made
  | up screen =>
    -- whatever the host has done, no drag is left
    have idle : held'.2.drag = none := by
      obtain ⟨drag, source⟩ := c
      have state := congrArg Outcome.state made
      cases drag <;> exact congrArg (fun held : Held σ α => held.2.drag) state.symm
    obtain ⟨s', drag, source⟩ := held'
    obtain rfl : drag = none := idle
    rfl

/-- **A delivery is that to one listening**, if there is any. -/
theorem push_eq (h : DragHost σ ε α) (event : PointerEvent α) (s : σ) (c : Controller α) :
    h.push event (s, c) = if c.listeners = 0 then .done (s, c) () else h.handle event (s, c) := by
  unfold push
  rcases c.listeners with - | n
  · rfl
  · rw [if_neg n.succ_ne_zero]
    exact Outcome.each_replicate (fun _ => h.handle event) () (fun _ _ => handle_handle) n (s, c)

end DragHost

end FlowCanvas
