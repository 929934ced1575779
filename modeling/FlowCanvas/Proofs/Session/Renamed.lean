import FlowCanvas.Proofs.Editor.Renamed
import FlowCanvas.Session.Call

/-!
# Sessions under other ids

Two sessions that are one up to ids answer the same calls alike, if the ids in the calls and the ids
of new nodes go together, and are one up to ids afterwards (`Session.Mirrors.run`). That holds in
the midst of a drag as well, for the one id that a drag holds is that of its edge.

All that is read off two such sessions is the same up to ids: the graph, the code, and where control
points and paths are drawn (`Session.Mirrors.showsAs`).
-/

namespace FlowCanvas

universe u

variable {α : Type u}

/-! ### Calls and answers -/

/-- An event of the pointer under other ids. -/
def PointerEvent.renamed (σ : Renaming) : PointerEvent α → PointerEvent α
  | down edge screen => down (σ.edge edge) screen
  | move screen => move screen
  | up screen => up screen

/-- A drag under other ids. -/
def Drag.renamed (σ : Renaming) (d : Drag α) : Drag α := { d with edge := σ.edge d.edge }

/-- A controller under other ids. -/
def Controller.renamed (σ : Renaming) (c : Controller α) : Controller α :=
  { c with drag := c.drag.map (Drag.renamed σ) }

/-- A call under other ids. -/
def Call.renamed {α : Type} (σ : Renaming) : Call α → Call α
  | renameNode node text => renameNode (σ.node node) text
  | moveNode node position => moveNode (σ.node node) position
  | removeNodes nodes => removeNodes (nodes.map σ.node)
  | connect source target => connect (σ.node source) (σ.node target)
  | removeEdges edges => removeEdges (edges.map σ.edge)
  | pinControl edge point => pinControl (σ.edge edge) point
  | beginDrag edge screen => beginDrag (σ.edge edge) screen
  | push event => push (event.renamed σ)
  | call => call

/-- An answer under other ids. -/
def Answer.renamed {α : Type} (σ : Renaming) : Answer α → Answer α
  | node n => node (n.renamed σ)
  | edge e => edge (e.renamed σ)
  | answer => answer

theorem Controller.move_renamed [Scalar α] {σ : Renaming} (c : Controller α) (zoom : α)
    (screen : Point α) : (c.renamed σ).move zoom screen =
      (c.move zoom screen).map fun r => (r.1.renamed σ, r.2) := by
  obtain ⟨drag, source⟩ := c
  cases drag with
  | none => rfl
  | some d =>
    simp only [renamed, move, Option.map_some, Drag.renamed]
    split <;> rfl

/-- Calls under other ids, twice. -/
theorem Call.renamed_renamed {α : Type} {σ τ υ : Renaming}
    (node : ∀ id, υ.node id = σ.node (τ.node id)) (edge : ∀ id, υ.edge id = σ.edge (τ.edge id))
    (c : Call α) : c.renamed υ = (c.renamed τ).renamed σ := by
  cases c with
  | push event => cases event <;> simp [Call.renamed, PointerEvent.renamed, edge]
  | _ => simp [Call.renamed, Function.comp_def, node, edge]

namespace Session

variable {α : Type} {σ : Renaming} {known : List String} {s t : Session α}

/-- Two sessions that are one up to ids. -/
structure Mirrors (σ : Renaming) (known : List String) (s t : Session α) : Prop where
  /-- the editors -/
  editor : s.editor.Mirrors σ known t.editor
  /-- the controllers -/
  controller : t.controller = s.controller.renamed σ

/-- Two calls that come to the same up to ids; the answer is renamed by `f`. -/
abbrev EndsAs {β : Type} (σ : Renaming) (known : List String) (f : β → β)
    (o o' : Outcome (Session α) (EditorFault α) β) : Prop :=
  o.Alike (Mirrors σ known) (fun r r' => r' = r.renamed σ) (fun b b' => b' = f b) o'

/-- What a session shows, and what it shows under other ids. -/
structure ShowsAs [Scalar α] (σ : Renaming) (s t : Session α) : Prop where
  /-- the graph -/
  graph : t.graph = s.graph.renamed σ
  /-- its code -/
  code : t.code = s.code
  /-- where control points are drawn -/
  control : ∀ edge, t.controlPoint (σ.edge edge) =
    (s.controlPoint edge).mapError (Rejection.renamed σ)
  /-- the paths of the edges, in their order -/
  paths : t.paths = s.paths.map fun x => (σ.edge x.1, x.2)

/-- Entries by other keys. -/
theorem byKey_map {β : Type} {r : String → String} (hr : Function.Injective r)
    (entries : List (String × β)) :
    byKey (entries.map fun x => (r x.1, x.2)) = (byKey entries).map fun x => (r x.1, x.2) := by
  have same (x y : String × β) : (r y.1 == r x.1) = (y.1 == x.1) := by simp [hr.eq_iff]
  rw [byKey, byKey, List.foldl_map]
  refine @List.foldl_hom _ _ _ (List.map fun x : String × β => (r x.1, x.2)) _ _ entries []
    fun seen x => ?_
  simp only [List.any_map, Function.comp_def, same]
  split
  · rw [List.map_map, List.map_map]
    refine List.map_congr_left fun y _ => ?_
    simp only [Function.comp_apply, hr.eq_iff]
    split <;> rfl
  · simp

namespace Mirrors

variable [Scalar α] (h : Mirrors σ known s t) (faithful : σ.IsFaithful)
include h

/-! ### What is read off -/

omit [Scalar α] in
theorem graph : t.graph = s.graph.renamed σ := h.editor.graph

include faithful

theorem drawnControl (e : Edge α) : t.drawnControl (e.renamed σ) = s.drawnControl e := by
  have drag : (t.controller.drag.filter fun d => d.edge == σ.edge e.id) =
      (s.controller.drag.filter fun d => d.edge == e.id).map (Drag.renamed σ) := by
    rw [h.controller, Controller.renamed]
    cases s.controller.drag with
    | none => rfl
    | some d =>
      simp only [Option.map_some, Option.filter, Drag.renamed, faithful.edge_beq]
      split <;> rfl
  simp only [Session.drawnControl, Edge.renamed_id, drag, h.graph, Graph.anchors?_renamed faithful]
  cases s.controller.drag.filter fun d => d.edge == e.id with
  | some d => rfl
  | none => cases s.graph.anchors? e <;> rfl

theorem controlPoint (id : String) : t.controlPoint (σ.edge id) =
    (s.controlPoint id).mapError (Rejection.renamed σ) := by
  rw [Session.controlPoint, h.graph, Graph.requireEdge_renamed faithful, Session.controlPoint]
  cases s.graph.requireEdge id with
  | error r => rfl
  | ok e => exact congrArg Except.ok (h.drawnControl faithful e)

theorem path? (e : Edge α) : t.path? (e.renamed σ) = s.path? e := by
  have control : t.controlOf (e.renamed σ) = s.controlOf e := by
    rw [controlOf, h.graph, Edge.renamed_id, Graph.edge?_renamed faithful, controlOf]
    cases s.graph.edge? e.id with
    | none => exact h.drawnControl faithful e
    | some d => exact h.drawnControl faithful d
  rw [Session.path?, h.graph, Graph.anchors?_renamed faithful, control]
  rfl

theorem paths : t.paths = s.paths.map fun x => (σ.edge x.1, x.2) := by
  rw [Session.paths, h.graph, Session.paths, ← byKey_map faithful.edge]
  refine congrArg byKey ?_
  rw [Graph.renamed_edges, List.filterMap_map, List.map_filterMap]
  refine List.filterMap_congr fun e _ => ?_
  simp only [Function.comp_apply, h.path? faithful, Option.map_map]
  rfl

/-- **Sessions that are one up to ids show the same up to ids.** -/
theorem showsAs : ShowsAs σ s t where
  graph := h.graph
  code := h.editor.code
  control := h.controlPoint faithful
  paths := h.paths faithful

/-! ### Calls -/

omit faithful [Scalar α] in
/-- A call to the editor. -/
theorem edit {β : Type} {f : β → β} {call call' : Editor α → Outcome (Editor α) (EditorFault α) β}
    (alike : Editor.EndsAs σ known f (call s.editor) (call' t.editor)) :
    EndsAs σ known f (s.edit call) (t.edit call') :=
  alike.mapState fun _ _ he => ⟨he, h.controller⟩

theorem beginDrag (id : String) (screen : Point α) :
    EndsAs σ known (fun p => p) (s.beginDrag id screen) (t.beginDrag (σ.edge id) screen) := by
  unfold Session.beginDrag
  rw [h.controlPoint faithful, h.controller]
  cases s.controlPoint id with
  | error r => exact .failed h rfl
  | ok control =>
    simp only [Except.mapError, Controller.begin, Controller.renamed]
    cases s.controller.drag with
    | some d => exact .failed h rfl
    | none => exact .done ⟨h.editor, rfl⟩ rfl

omit faithful in
theorem moveDrag (screen : Point α) :
    EndsAs σ known (fun p => p) (s.moveDrag screen) (t.moveDrag screen) := by
  unfold Session.moveDrag
  rw [h.editor.viewport, h.controller, Controller.move_renamed]
  cases hmove : s.controller.move s.editor.viewport.zoom screen with
  | error f =>
    obtain rfl := Controller.fault_of_move hmove
    exact .failed h rfl
  | ok r => exact .done ⟨h.editor, rfl⟩ rfl

omit faithful [Scalar α] in
/-- The one session draws an id where the other one does. -/
theorem isSome_drawnId? (c : Call α) :
    (t.drawnId? (c.renamed σ)).isSome = (s.drawnId? c).isSome := by
  cases c with
  | addNode category position label =>
    simp only [Call.renamed, Session.drawnId?, Editor.drawnId?, h.editor.graph,
      Graph.isTaken_renamed]
    cases Category.ofName? category with
    | none => rfl
    | some c =>
      simp only [Option.bind_some]
      split <;> rfl
  | _ => rfl

variable [StateFormat α] (serves : σ.Serves known)

omit faithful
include serves

/-- A release pins the edge of the drag on both sides. -/
theorem hostRelease :
    Outcome.Alike (fun x y => Mirrors σ known (ofHeld x) (ofHeld y)) (fun r r' => r' = r.renamed σ)
      (fun p p' => p' = p) (Editor.host.release s.editor s.controller)
      (Editor.host.release t.editor t.controller) := by
  rw [h.controller]
  obtain ⟨e, drag, source⟩ := s
  cases drag with
  | none => exact .done ⟨h.editor, rfl⟩ rfl
  | some d =>
    have pinned : Outcome.Alike (Editor.Mirrors σ known) (fun r r' => r' = r.renamed σ)
        (fun _ _ => True) (Editor.host.pin e ⟨d.edge, d.live⟩)
        (Editor.host.pin t.editor ⟨σ.edge d.edge, d.live⟩) :=
      (h.editor.pinControl serves d.edge d.live).map fun _ _ _ => trivial
    exact (pinned.mapState fun _ _ he => ⟨he, rfl⟩).map fun _ _ _ => rfl

theorem releaseDrag : EndsAs σ known (fun p => p) s.releaseDrag t.releaseDrag :=
  (h.hostRelease serves).mapState fun _ _ held => held

theorem push (event : PointerEvent α) :
    EndsAs σ known (fun u => u) (s.push event) (t.push (event.renamed σ)) := by
  unfold Session.push
  rw [DragHost.push_eq, DragHost.push_eq]
  have listeners : t.controller.listeners = s.controller.listeners := by rw [h.controller]; rfl
  rw [listeners]
  split
  · exact .done h rfl
  cases event with
  | down edge screen =>
    rw [PointerEvent.renamed, DragHost.handle_down, DragHost.handle_down, h.controller]
    have dragging : (s.controller.renamed σ).isDragging = s.controller.isDragging :=
      Option.isSome_map
    rw [dragging]
    split
    · exact .failed ⟨h.editor, rfl⟩ rfl
    · exact .done ⟨h.editor, rfl⟩ rfl
  | move screen =>
    have zoom : Editor.host.zoom t.editor = Editor.host.zoom s.editor :=
      congrArg Viewport.zoom h.editor.viewport
    rw [PointerEvent.renamed, DragHost.handle_move, DragHost.handle_move, h.controller, zoom,
      Controller.move_renamed]
    cases hmove : s.controller.move (Editor.host.zoom s.editor) screen with
    | error f =>
      obtain rfl := Controller.fault_of_move hmove
      exact .failed ⟨h.editor, rfl⟩ rfl
    | ok r => exact .done ⟨h.editor, rfl⟩ rfl
  | up screen =>
    rw [PointerEvent.renamed, DragHost.handle_up, DragHost.handle_up]
    exact ((h.hostRelease serves).map fun _ _ _ => rfl).mapState fun _ _ held => held

/-- **A call comes to the same up to ids**, if the ids that it draws go together. -/
theorem run (c : Call α) (draws : t.drawnId? (c.renamed σ) = (s.drawnId? c).map σ.node)
    (hdrawn : ∀ id ∈ s.drawnId? c, id ∈ known) :
    EndsAs σ known (Answer.renamed σ) (s.run c) (t.run (c.renamed σ)) := by
  cases c with
  | addNode category position label =>
    exact (h.edit (h.editor.addNode serves draws hdrawn position label)).map
      fun _ _ => congrArg Answer.node
  | renameNode node text =>
    exact (h.edit (h.editor.renameNode serves node text)).map fun _ _ => congrArg Answer.node
  | moveNode node position =>
    exact (h.edit (h.editor.moveNode serves node position)).map fun _ _ => congrArg Answer.node
  | removeNodes nodes =>
    exact (h.edit (h.editor.removeNodes serves nodes)).map fun _ _ _ => rfl
  | connect source target =>
    exact (h.edit (h.editor.connect serves source target)).map fun _ _ => congrArg Answer.edge
  | removeEdges edges =>
    exact (h.edit (h.editor.removeEdges serves edges)).map fun _ _ _ => rfl
  | pinControl edge point =>
    exact (h.edit (h.editor.pinControl serves edge point)).map fun _ _ => congrArg Answer.edge
  | setName raw => exact (h.edit (h.editor.setName serves raw)).map fun _ _ => congrArg Answer.name
  | reset => exact (h.edit (h.editor.reset serves)).map fun _ _ _ => rfl
  | close => exact (h.edit h.editor.close).map fun _ _ _ => rfl
  | setViewport x y zoom =>
    exact (h.edit (h.editor.setViewport x y zoom)).map fun _ _ _ => rfl
  | beginDrag edge screen =>
    exact (h.beginDrag serves.toIsFaithful edge screen).map
      fun _ _ => congrArg fun p => Answer.point (some p)
  | moveDrag screen => exact (h.moveDrag screen).map fun _ _ => congrArg Answer.point
  | releaseDrag => exact (h.releaseDrag serves).map fun _ _ => congrArg Answer.point
  | push event => exact (h.push serves event).map fun _ _ _ => rfl

end Mirrors

end Session

end FlowCanvas
