import FlowCanvas.Drag.Recorder
import FlowCanvas.Number.Basic
import FlowCanvas.Proofs.Drag.Delivery
import FlowCanvas.Proofs.Outcome

/-!
# A ledger of drags

Whoever sees the calls to a controller, and nothing of the controller, can keep a ledger: which drag
is on, which move of it was the last that the zoom allowed, which drags have been released, and what
still waits to be played (`Ledger.note`). A controller that nobody else subscribes goes by this
ledger: it listens once while a drag is on and not at all otherwise, and what it has asked for is
one request per released drag, in order, at the point that the ledger tells
(`Recorded.goes_by_ledger`). This holds whatever the zoom is, and also where requests are refused.

The proof compares both call by call. An event does to the controller what it does to the ledger
(`Ledger.Tells.hear`), whether it reaches the controller directly, is delivered, or is played.
-/

namespace FlowCanvas

universe u v

/-! ### The ledger -/

/-- A drag, as an observer has seen it. -/
structure Stint (α : Type u) where
  /-- the edge that it began on -/
  edge : String
  /-- where the pointer was at the start -/
  screen : Point α
  /-- where the control point was at the start -/
  control : Point α
  /-- the last move that went well: where to, and at which zoom -/
  last : Option (Point α × α)

namespace Stint

variable {α : Type u} [Scalar α]

/-- Where the control point is: where it was if the pointer has not been moved, or else as far from
there as the pointer is from its start, by the zoom at its last move. -/
def point (d : Stint α) : Point α :=
  match d.last with
  | none => d.control
  | some (screen, zoom) => d.control + (screen - d.screen).divide zoom

/-- What the release of the drag is to ask for. -/
def request (d : Stint α) : PinRequest α := ⟨d.edge, d.point⟩

/-- The drag as the controller has it. -/
def drag (d : Stint α) : Drag α := ⟨d.edge, d.screen, d.control, d.point⟩

end Stint

/-- What an observer of calls knows. -/
structure Ledger (α : Type u) where
  /-- the zoom -/
  zoom : α
  /-- whether requests are refused -/
  refusing : Bool
  /-- the events that wait to be played -/
  waiting : List (PointerEvent α)
  /-- the drag that is on -/
  current : Option (Stint α)
  /-- the drags that have been released, in order -/
  released : List (Stint α)

namespace Ledger

variable {α : Type u}

/-- A ledger before any call. -/
def blank (zoom : α) (refusing : Bool) (waiting : List (PointerEvent α)) : Ledger α :=
  ⟨zoom, refusing, waiting, none, []⟩

/-- A drag begins, unless one is on. -/
def begin (l : Ledger α) (edge : String) (screen control : Point α) : Ledger α :=
  match l.current with
  | some _ => l
  | none => { l with current := some ⟨edge, screen, control, none⟩ }

/-- The drag that is on is released. -/
def release (l : Ledger α) : Outcome (Ledger α) Unit Unit :=
  match l.current with
  | none => .done l ()
  | some d =>
    let ended := { l with current := none, released := l.released ++ [d] }
    if l.refusing then .failed ended () else .done ended ()

variable [Scalar α]

/-- The pointer moves: this counts if a drag is on and the zoom is positive. -/
def move (l : Ledger α) (screen : Point α) : Outcome (Ledger α) Unit Unit :=
  match l.current with
  | none => .done l ()
  | some d =>
    if Scalar.positive l.zoom then
      .done { l with current := some { d with last := some (screen, l.zoom) } } ()
    else .failed l ()

/-- An event of the pointer. -/
def hear (e : PointerEvent α) (l : Ledger α) : Outcome (Ledger α) Unit Unit :=
  match e with
  | .move screen => l.move screen
  | .up _ => l.release
  | .down .. => if l.current.isSome then .failed l () else .done l ()

/-- The ledger after a call. -/
def note (l : Ledger α) : RecordedCall α → Ledger α
  | .begin edge screen control => l.begin edge screen control
  | .move screen => (l.move screen).state
  | .release => l.release.state
  | .handle e => (l.hear e).state
  | .push e => (l.hear e).state
  | .enqueue e => { l with waiting := l.waiting ++ [e] }
  | .play => (Outcome.each hear l.waiting { l with waiting := [] }).state
  | .setZoom zoom => { l with zoom := zoom }
  | .setRefusing refusing => { l with refusing := refusing }
  | .subscribe | .unsubscribe => l

/-- The ledger after a list of calls. -/
def after (l : Ledger α) (calls : List (RecordedCall α)) : Ledger α := calls.foldl note l

/-! ### The controller beside it -/

/-- A ledger tells the state of a recorded controller. -/
structure Tells (l : Ledger α) (r : Recorded α) : Prop where
  /-- the zoom -/
  zoom : r.1.zoom = l.zoom
  /-- whether requests are refused -/
  refusing : r.1.refusing = l.refusing
  /-- what has been asked for -/
  requests : r.1.requests.map Prod.fst = l.released.map Stint.request
  /-- the drag that is on -/
  drag : r.2.drag = l.current.map Stint.drag
  /-- the source: the controller listens once while a drag is on -/
  source : r.2.source = some ⟨if l.current.isSome then 1 else 0, l.waiting⟩

theorem tells_blank (zoom : α) (refusing : Bool) (waiting : List (PointerEvent α)) :
    (blank zoom refusing waiting).Tells
      (Recorder.fresh zoom refusing, .idle (some (.silent waiting))) where
  zoom := rfl
  refusing := rfl
  requests := rfl
  drag := rfl
  source := rfl

/-- A call ends for the controller as it does for the ledger. -/
abbrev EndsAs {β : Type v} (o : Outcome (Ledger α) Unit Unit)
    (o' : Outcome (Recorded α) (RecorderFault α) β) : Prop :=
  o.Alike Tells (fun _ _ => True) (fun _ _ => True) o'

namespace Tells

variable {l : Ledger α} {r : Recorded α}

theorem listeners (h : l.Tells r) : r.2.listeners = if l.current.isSome then 1 else 0 := by
  rw [Controller.listeners, h.source]
  rfl

theorem isDragging (h : l.Tells r) : r.2.isDragging = l.current.isSome := by
  rw [Controller.isDragging, h.drag, Option.isSome_map]

theorem begin (h : l.Tells r) (edge : String) (screen control : Point α) :
    (l.begin edge screen control).Tells (r.run (.begin edge screen control)).state := by
  obtain ⟨zoom, refusing, waiting, current, released⟩ := l
  obtain ⟨recorder, drag, source⟩ := r
  obtain ⟨hzoom, hrefusing, hrequests, hdrag, hsource⟩ := h
  obtain rfl : drag = current.map Stint.drag := hdrag
  obtain rfl : source = some ⟨if current.isSome then 1 else 0, waiting⟩ := hsource
  cases current with
  | none => exact ⟨hzoom, hrefusing, hrequests, rfl, rfl⟩
  | some d => exact ⟨hzoom, hrefusing, hrequests, rfl, rfl⟩

theorem release (h : l.Tells r) : EndsAs l.release (Recorder.host.release r.1 r.2) := by
  obtain ⟨zoom, refusing, waiting, current, released⟩ := l
  obtain ⟨⟨zoom', refusing', requests⟩, drag, source⟩ := r
  obtain ⟨hzoom, hrefusing, hrequests, hdrag, hsource⟩ := h
  obtain rfl : zoom' = zoom := hzoom
  obtain rfl : refusing' = refusing := hrefusing
  obtain rfl : drag = current.map Stint.drag := hdrag
  obtain rfl : source = some ⟨if current.isSome then 1 else 0, waiting⟩ := hsource
  cases current with
  | none => exact .done ⟨rfl, rfl, hrequests, rfl, rfl⟩ trivial
  | some d =>
    have more : (requests ++ [(d.request, !refusing')]).map Prod.fst =
        (released ++ [d]).map Stint.request := by
      rw [List.map_append, List.map_append, hrequests]
      rfl
    cases refusing' with
    | true => exact .failed ⟨rfl, rfl, more, rfl, rfl⟩ trivial
    | false => exact .done ⟨rfl, rfl, more, rfl, rfl⟩ trivial

theorem move (h : l.Tells r) (screen : Point α) :
    EndsAs (l.move screen) (r.run (.move screen)) := by
  obtain ⟨zoom, refusing, waiting, current, released⟩ := l
  obtain ⟨⟨zoom', refusing', requests⟩, drag, source⟩ := r
  obtain ⟨hzoom, hrefusing, hrequests, hdrag, hsource⟩ := h
  obtain rfl : zoom' = zoom := hzoom
  obtain rfl : refusing' = refusing := hrefusing
  obtain rfl : drag = current.map Stint.drag := hdrag
  obtain rfl : source = some ⟨if current.isSome then 1 else 0, waiting⟩ := hsource
  cases current with
  | none => exact .done ⟨rfl, rfl, hrequests, rfl, rfl⟩ trivial
  | some d =>
    by_cases positive : Scalar.positive zoom' = true
    · simp only [Ledger.move, Recorded.run, Controller.move, Option.map_some, if_pos positive]
      exact .done ⟨rfl, rfl, hrequests, rfl, rfl⟩ trivial
    · simp only [Ledger.move, Recorded.run, Controller.move, Option.map_some, if_neg positive]
      exact .failed ⟨rfl, rfl, hrequests, rfl, rfl⟩ trivial

/-- **An event does to the controller what it does to the ledger.** -/
theorem hear (h : l.Tells r) (e : PointerEvent α) :
    EndsAs (l.hear e) (Recorder.host.handle e r) := by
  cases e with
  | move screen =>
    have moves : Recorder.host.handle (.move screen) r =
        (r.run (.move screen)).map fun _ => () := by
      obtain ⟨recorder, controller⟩ := r
      have zoom : Recorder.host.zoom recorder = recorder.zoom := rfl
      rw [DragHost.handle_move, zoom, Recorded.run]
      cases controller.move recorder.zoom screen <;> rfl
    rw [moves]
    exact (h.move screen).map_right fun _ _ _ => trivial
  | up screen =>
    rw [DragHost.handle_up]
    exact h.release.map_right fun _ _ _ => trivial
  | down edge screen =>
    rw [DragHost.handle_down, h.isDragging]
    simp only [Ledger.hear]
    split
    · exact .failed h trivial
    · exact .done h trivial

/-- A delivery is heard while a drag is on, and otherwise there is nothing to hear. -/
theorem push (h : l.Tells r) (e : PointerEvent α) :
    EndsAs (l.hear e) (Recorder.host.push e r) := by
  rw [DragHost.push_eq, h.listeners]
  cases current : l.current with
  | some d => exact h.hear e
  | none =>
    have deaf : l.hear e = .done l () := by
      cases e <;> simp [Ledger.hear, Ledger.move, Ledger.release, current]
    rw [deaf]
    exact .done h trivial

theorem play (h : l.Tells r) :
    EndsAs (Outcome.each Ledger.hear l.waiting { l with waiting := [] })
      (Recorder.host.play r) := by
  rw [DragHost.play, h.source]
  have emptied : Tells { l with waiting := [] }
      (r.1, { r.2 with source := some ⟨if l.current.isSome then 1 else 0, []⟩ }) :=
    ⟨h.zoom, h.refusing, h.requests, h.drag, rfl⟩
  exact .each (fun e _ l r h => h.push e) emptied

end Tells

end Ledger

/-! ### Calls -/

/-- A call that leaves the subscriptions to the controller. -/
def RecordedCall.isOwn {α : Type u} : RecordedCall α → Bool
  | .subscribe | .unsubscribe => false
  | _ => true

namespace Recorded

variable {α : Type u} [Scalar α]

/-- The state after a list of calls. -/
def after (r : Recorded α) (calls : List (RecordedCall α)) : Recorded α :=
  calls.foldl (fun r c => (r.run c).state) r

/-- After a call the ledger tells the state again. -/
theorem tells_note {l : Ledger α} {r : Recorded α} (h : l.Tells r) {c : RecordedCall α}
    (own : c.isOwn = true) : (l.note c).Tells (r.run c).state := by
  cases c with
  | begin edge screen control => exact h.begin edge screen control
  | move screen => exact (h.move screen).state
  | release => exact h.release.state
  | handle e => exact (h.hear e).state
  | push e => exact (h.push e).state
  | enqueue e =>
    refine ⟨h.zoom, h.refusing, h.requests, h.drag, ?_⟩
    exact congrArg (Option.map (PointerSource.enqueue · e)) h.source
  | play => exact h.play.state
  | subscribe => cases own
  | unsubscribe => cases own
  | setZoom zoom => exact ⟨rfl, h.refusing, h.requests, h.drag, h.source⟩
  | setRefusing refusing => exact ⟨h.zoom, rfl, h.requests, h.drag, h.source⟩

theorem tells_after {l : Ledger α} {r : Recorded α} (h : l.Tells r)
    {calls : List (RecordedCall α)} (own : ∀ c ∈ calls, c.isOwn = true) :
    (l.after calls).Tells (r.after calls) := by
  induction calls generalizing l r with
  | nil => exact h
  | cons c calls ih =>
    obtain ⟨hc, hcalls⟩ := List.forall_mem_cons.mp own
    exact ih (tells_note h hc) hcalls

/-- **A controller goes by the ledger of its calls.** It listens once while a drag is on and not at
all otherwise, and it has asked for one request per released drag, in order: for the edge that the
drag began on, and where the last move that went well has led, or where the drag began. -/
theorem goes_by_ledger (zoom : α) (refusing : Bool) (queue : List (PointerEvent α))
    (calls : List (RecordedCall α)) (own : ∀ c ∈ calls, c.isOwn = true) :
    let r := Recorded.after (Recorder.fresh zoom refusing, .idle (some (.silent queue))) calls
    let l := (Ledger.blank zoom refusing queue).after calls
    r.2.listeners = (if r.2.isDragging then 1 else 0) ∧
      r.2.drag = l.current.map Stint.drag ∧
      r.1.requests.map Prod.fst = l.released.map Stint.request := by
  intro r l
  have tells : l.Tells r := tells_after (Ledger.tells_blank zoom refusing queue) own
  exact ⟨by rw [tells.listeners, tells.isDragging], tells.drag, tells.requests⟩

/-- A drag at two zooms, of which the second one allows no move; its release is refused, and what is
played then finds no drag. -/
theorem goes_by_ledger_refused :
    let start : Point Number := ⟨.whole 5, .whole 5⟩
    let there : Point Number := ⟨.whole 10, .whole 20⟩
    let calls : List (RecordedCall Number) := [.begin "edge" Point.origin start,
      .setZoom (.whole 2), .handle (.move there), .setZoom (.whole 0), .push (.move start),
      .setRefusing true, .release, .play]
    let r := Recorded.after (Recorder.fresh (.whole 1) false,
      .idle (some (.silent [.move start, .up start]))) calls
    (∀ c ∈ calls, c.isOwn = true) ∧ r.2.listeners = 0 ∧
      r.1.requests.map Prod.fst =
        [⟨"edge", start + (there - Point.origin).divide (.whole 2)⟩] := by
  intro start there calls r
  have own : ∀ c ∈ calls, c.isOwn = true := by decide
  obtain ⟨listeners, drag, requests⟩ :=
    goes_by_ledger (.whole 1) false [.move start, .up start] calls own
  have idle : r.2.isDragging = false := congrArg Option.isSome drag
  exact ⟨own, by rw [listeners, idle]; rfl, requests⟩

end Recorded

end FlowCanvas
