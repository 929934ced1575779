import FlowCanvas.Event.Processor
import FlowCanvas.Proofs.Drag.Delivery
import FlowCanvas.Proofs.Editor.Plan
import FlowCanvas.Proofs.Editor.Refusal
import FlowCanvas.Session.Call

/-!
# Refused calls

A refused call leaves the whole session as it was, but for a token that it may have drawn
(`Session.unchanged_of_refused`). There is one exception: a drag ends when it is released, also if
its edge is gone by then. The release is refused, and nothing but the drag and its listening is
changed.
-/

namespace FlowCanvas

namespace Session

variable {α : Type} [StateFormat α]

/-- A session that is another one, up to tokens that have been drawn. -/
def Unchanged (s t : Session α) : Prop :=
  ∃ tokens, t = { s with editor := { s.editor with tokens := tokens } }

omit [StateFormat α] in
theorem Unchanged.refl (s : Session α) : s.Unchanged s := ⟨s.editor.tokens, rfl⟩

/-- The drag that a call releases, if it releases one. -/
def released? (s : Session α) : Call α → Option (Drag α)
  | .releaseDrag => s.controller.drag
  | .push (.up _) => if s.controller.listeners = 0 then none else s.controller.drag
  | _ => none

variable {s : Session α} {f : EditorFault α}

/-- The session after the release of a drag whose edge is gone. -/
def dropped (s : Session α) : Session α :=
  { s with controller := ⟨none, s.controller.source.map PointerSource.unsubscribe⟩ }

theorem unchanged_of_carryOut {β : Type} {plan : Except Rejection (Plan α β)}
    (refusal : f.isRefusal = true) (h : (s.editor.carryOut plan).answer = .error f) :
    s.Unchanged { s with editor := (s.editor.carryOut plan).state } := by
  obtain ⟨-, -, -, state⟩ := Editor.carryOut_refused refusal h
  rw [state]
  exact .refl s

/-- The release of a drag is refused if its edge is gone, and the drag ends. -/
theorem release_refused (refusal : f.isRefusal = true)
    (h : (Editor.host.release s.editor s.controller).answer = .error f) :
    ∃ d, s.controller.drag = some d ∧ s.graph.edge? d.edge = none ∧
      f = .rejected (.unknownEdge d.edge) ∧
      ofHeld (Editor.host.release s.editor s.controller).state = s.dropped := by
  obtain ⟨e, drag, source⟩ := s
  cases drag with
  | none => cases h
  | some d =>
    have pinned := Outcome.answer_of_map_eq_error (Outcome.answer_of_map_eq_error h)
    obtain ⟨r, plan, rfl, state⟩ := Editor.carryOut_refused refusal pinned
    obtain ⟨gone, rfl⟩ := Graph.planPin_eq_error plan
    refine ⟨d, rfl, gone, rfl, ?_⟩
    exact congrArg (fun e : Editor α => (⟨e, none, source.map PointerSource.unsubscribe⟩ :
      Session α)) state

/-- A drag whose edge is gone is refused when it is released. -/
theorem release_gone {d : Drag α} (dragged : s.controller.drag = some d)
    (gone : s.graph.edge? d.edge = none) :
    s.releaseDrag = .failed s.dropped (.rejected (.unknownEdge d.edge)) := by
  obtain ⟨e, drag, source⟩ := s
  obtain rfl : drag = some d := dragged
  have refused : e.pinControl d.edge d.live = .failed e (.rejected (.unknownEdge d.edge)) :=
    congrArg e.carryOut (Graph.planPin_of_none gone d.live)
  simp only [releaseDrag, DragHost.release, Controller.release, Editor.host, refused]
  rfl

variable [Scalar α]

/-- A pointer event does what one listening does with it. -/
theorem push_eq (s : Session α) (event : PointerEvent α) :
    s.push event = if s.controller.listeners = 0 then .done s ()
      else (Editor.host.handle event (s.editor, s.controller)).mapState ofHeld := by
  rw [push, DragHost.push_eq]
  split <;> rfl

/-- A delivery is refused to a pointer that is pressed, or the drag that it releases is. -/
theorem push_refused {event : PointerEvent α} (refusal : f.isRefusal = true)
    (h : (s.push event).answer = .error f) :
    (s.released? (.push event) = none → (s.push event).state = s) ∧
      ∀ d, s.released? (.push event) = some d → s.graph.edge? d.edge = none ∧
        f = .rejected (.unknownEdge d.edge) ∧ (s.push event).state = s.dropped := by
  rw [push_eq] at h ⊢
  split at h
  · cases h
  next listening =>
  rw [if_neg listening]
  cases event with
  | down edge screen =>
    rw [DragHost.handle_down] at h ⊢
    split <;> exact ⟨fun _ => rfl, nofun⟩
  | move screen =>
    rw [DragHost.handle_move] at h
    cases moved : s.controller.move (Editor.host.zoom s.editor) screen with
    | ok r =>
      rw [moved] at h
      cases h
    | error fault =>
      rw [moved] at h
      cases h
      -- the one fault of a move is no refusal
      rw [Controller.fault_of_move moved] at refusal
      cases refusal
  | up screen =>
    rw [DragHost.handle_up] at h ⊢
    obtain ⟨d, dragged, gone, fault, state⟩ := release_refused refusal
      (Outcome.answer_of_map_eq_error h)
    have released : s.released? (.push (.up screen)) = s.controller.drag := if_neg listening
    rw [released, dragged]
    refine ⟨nofun, ?_⟩
    rintro _ ⟨⟩
    exact ⟨gone, fault, state⟩

/-- **What a refused call leaves.** It is the session before the call, up to tokens. Where the call
is the release of a drag, its edge is gone, and the drag has ended with its listening. -/
theorem unchanged_of_refused (s : Session α) (c : Call α) {f : EditorFault α}
    (refusal : f.isRefusal = true) (h : (s.run c).answer = .error f) :
    (s.released? c = none → s.Unchanged (s.run c).state) ∧
      ∀ d, s.released? c = some d → s.graph.edge? d.edge = none ∧
        f = .rejected (.unknownEdge d.edge) ∧ (s.run c).state = s.dropped := by
  cases c with
  | addNode category position label =>
    obtain ⟨tokens, state⟩ := Editor.addNode_refused refusal (Outcome.answer_of_map_eq_error h)
    exact ⟨fun _ => ⟨tokens, congrArg (fun e : Editor α => { s with editor := e }) state⟩, nofun⟩
  | renameNode node text =>
    exact ⟨fun _ => unchanged_of_carryOut refusal (Outcome.answer_of_map_eq_error h), nofun⟩
  | moveNode node position =>
    exact ⟨fun _ => unchanged_of_carryOut refusal (Outcome.answer_of_map_eq_error h), nofun⟩
  | removeNodes nodes =>
    exact ⟨fun _ => unchanged_of_carryOut refusal (Outcome.answer_of_map_eq_error h), nofun⟩
  | connect source target =>
    exact ⟨fun _ => unchanged_of_carryOut refusal (Outcome.answer_of_map_eq_error h), nofun⟩
  | removeEdges edges =>
    exact ⟨fun _ => unchanged_of_carryOut refusal (Outcome.answer_of_map_eq_error h), nofun⟩
  | pinControl edge point =>
    exact ⟨fun _ => unchanged_of_carryOut refusal (Outcome.answer_of_map_eq_error h), nofun⟩
  | setName raw =>
    exact ⟨fun _ => unchanged_of_carryOut refusal (Outcome.answer_of_map_eq_error h), nofun⟩
  | reset => exact absurd refusal (Editor.reset_not_refused (Outcome.answer_of_map_eq_error h))
  | close => exact absurd refusal (Editor.close_not_refused (Outcome.answer_of_map_eq_error h))
  | setViewport x y zoom =>
    have failed := Outcome.answer_of_map_eq_error h
    simp only [edit, Outcome.mapState, Editor.setViewport] at failed
    split at failed
    · cases failed
    · cases failed
      cases refusal
  | beginDrag edge screen =>
    refine ⟨fun _ => ?_, nofun⟩
    have failed := Outcome.answer_of_map_eq_error h
    simp only [run, Outcome.map_state]
    unfold beginDrag at failed ⊢
    split
    · exact .refl s
    · next control found =>
      rw [found] at failed
      split
      · next c begun =>
        simp only [begun] at failed
        cases failed
      · exact .refl s
  | moveDrag screen =>
    have failed := Outcome.answer_of_map_eq_error h
    unfold moveDrag at failed
    split at failed
    · cases failed
    · next fault moved =>
      cases failed
      rw [Controller.fault_of_move moved] at refusal
      cases refusal
  | releaseDrag =>
    obtain ⟨d, dragged, gone, fault, state⟩ := release_refused refusal
      (Outcome.answer_of_map_eq_error h)
    have released : s.released? .releaseDrag = some d := dragged
    rw [released]
    refine ⟨nofun, ?_⟩
    rintro _ ⟨⟩
    exact ⟨gone, fault, state⟩
  | push event =>
    obtain ⟨unchanged, ended⟩ := push_refused refusal (Outcome.answer_of_map_eq_error h)
    refine ⟨fun none => ?_, ended⟩
    exact ⟨s.editor.tokens, unchanged none⟩

/-- A drag is released whose edge has been removed. That is told and ends the drag, and a node that
is refused then has drawn its token for nothing. -/
theorem unchanged_of_refused_release :
    let setup : Setup Number := ⟨none, some (.inMemory none .standard),
      .of [ProcessorKind.recording.processor] true, some (.silent []), .counting⟩
    let edge := "edge-start-1-action-00000001"
    let calls : List (Call Number) := [.addNode "action" none none,
      .connect "start-1" "action-00000001", .beginDrag edge Point.origin, .removeEdges [edge]]
    let blank : Call Number := .addNode "action" none (some " ")
    let s := (start setup Graph.initial).after calls
    (s.run .releaseDrag).answer = .error (.rejected (.unknownEdge edge)) ∧
      (s.run .releaseDrag).state = s.dropped ∧ s.controller.isDragging = true ∧
      (s.dropped.run blank).answer =
        .error (.rejected (.emptyLabel (Graph.newId .action s.editor.tokens.next))) ∧
      s.dropped.Unchanged (s.dropped.run blank).state := by
  intro setup edge calls blank s
  have dragged : s.controller.isDragging = true := by decide
  have onEdge : s.controller.drag.map Drag.edge = some edge := by decide
  have missing : (s.graph.edge? edge).isNone = true := by decide
  -- what follows is not computed
  clear_value s
  obtain ⟨d, drag⟩ := Option.isSome_iff_exists.mp dragged
  have same : d.edge = edge := by simpa [drag] using onEdge
  have gone : s.graph.edge? d.edge = none := same.symm ▸ Option.isNone_iff_eq_none.mp missing
  have released : (s.run .releaseDrag).answer = .error (.rejected (.unknownEdge edge)) := by
    rw [run, release_gone drag gone, same]
    rfl
  have ended := (unchanged_of_refused s .releaseDrag rfl released).2 d drag
  exact ⟨released, ended.2.2, dragged, rfl, (unchanged_of_refused s.dropped blank rfl rfl).1 rfl⟩

end Session

end FlowCanvas
