import FlowCanvas.Editor.Basic

/-!
# Sessions

A session is an editor together with the controller of the drags on its canvas. It opens on a graph
that it is given, on what a store holds, or on a fresh canvas. While a control point is dragged, its
edge is drawn through the preview; everything else is drawn from the graph.
-/

namespace FlowCanvas

/-- A session. -/
structure Session (α : Type) where
  /-- the editor -/
  editor : Editor α
  /-- the controller of drags -/
  controller : Controller α

/-- What a session is opened with. -/
structure Setup (α : Type) where
  /-- the graph to start from, if not the one in the store -/
  graph : Option (Graph α)
  /-- where the graph is saved, if anywhere -/
  store : Option (Store α)
  /-- who is told about edits -/
  dispatcher : Dispatcher α
  /-- where pointer events come from, if from anywhere -/
  source : Option (PointerSource α)
  /-- tokens for new ids -/
  tokens : Tokens

/-- A session that has just been opened. -/
structure Opened (α : Type) where
  /-- the session -/
  session : Session α
  /-- whether the store held data that could not be used -/
  discarded : Bool

namespace Session

variable {α : Type} [Scalar α]

/-- The graph. -/
def graph (s : Session α) : Graph α := s.editor.graph

/-- The code of the graph. -/
def code (s : Session α) : String := s.editor.code

/-- A session on a graph. -/
def start (setup : Setup α) (g : Graph α) : Session α where
  editor := .of g setup.store setup.dispatcher setup.tokens
  controller := .idle setup.source

variable [StateFormat α]

/-- Opens a session. -/
def openWith (setup : Setup α) : Except StoreFault (Opened α) :=
  match setup.graph, setup.store with
  | some g, _ => .ok ⟨start setup g, false⟩
  | none, none => .ok ⟨start setup Graph.initial, false⟩
  | none, some store => store.load.map fun loaded => ⟨start setup loaded.graph, loaded.discarded⟩

/-! ### Edits -/

omit [Scalar α] [StateFormat α] in
/-- A call to the editor, which leaves the controller alone. -/
def edit {β : Type} (s : Session α) (call : Editor α → Outcome (Editor α) (EditorFault α) β) :
    Outcome (Session α) (EditorFault α) β :=
  (call s.editor).mapState fun e => { s with editor := e }

/-! ### The canvas -/

omit [StateFormat α] in
/-- Where the control point of an edge is drawn: at the preview while it is dragged. An edge that
dangles shows the point that it has, or the origin. -/
def drawnControl (s : Session α) (e : Edge α) : Point α :=
  match s.controller.drag.filter fun d => d.edge == e.id with
  | some d => d.live
  | none =>
    match s.graph.anchors? e with
    | none => e.control.getD Point.origin
    | some a => e.resolved a

omit [StateFormat α] in
/-- The control point of an edge as it is drawn. -/
def controlPoint (s : Session α) (id : String) : Except Rejection (Point α) :=
  (s.graph.requireEdge id).map s.drawnControl

omit [StateFormat α] in
/-- The control point that an edge of the graph is drawn with: that of the first edge with its id.
-/
def controlOf (s : Session α) (e : Edge α) : Point α :=
  s.drawnControl ((s.graph.edge? e.id).getD e)

omit [StateFormat α] in
/-- The path of an edge as it is drawn, unless the edge dangles. -/
def path? (s : Session α) (e : Edge α) : Option (Path α) :=
  (s.graph.anchors? e).map fun a => a.path (s.controlOf e)

/-- Entries by key: a repeated key keeps its first place and gets its last value. -/
def byKey {β : Type} (entries : List (String × β)) : List (String × β) :=
  entries.foldl
    (fun seen x =>
      if seen.any fun y => y.1 == x.1 then seen.map fun y => if y.1 = x.1 then x else y
      else seen ++ [x]) []

omit [StateFormat α] in
/-- The paths of all edges that do not dangle, by edge. -/
def paths (s : Session α) : List (String × Path α) :=
  byKey (s.graph.edges.filterMap fun e => (s.path? e).map fun p => (e.id, p))

omit [Scalar α] [StateFormat α] in
/-- The labels and identifiers of all nodes, by node. -/
def labels (s : Session α) : List (String × String × String) :=
  byKey (s.graph.nodes.map fun n => (n.id, n.label, n.identifier))

/-! ### Drags -/

omit [Scalar α] [StateFormat α] in
/-- The session with the editor and the controller that a delivery leaves. -/
def ofHeld (h : DragHost.Held (Editor α) α) : Session α := ⟨h.1, h.2⟩

omit [StateFormat α] in
/-- Begins to drag the control point of an edge from where it is drawn; the preview is given back.
-/
def beginDrag (s : Session α) (id : String) (screen : Point α) :
    Outcome (Session α) (EditorFault α) (Point α) :=
  match s.controlPoint id with
  | .error r => .failed s (.rejected r)
  | .ok control =>
    match s.controller.begin id screen control with
    | .ok c => .done { s with controller := c } control
    | .error f => .failed s (.drag f)

omit [StateFormat α] in
/-- The pointer moves; the new preview is given back if a drag is on. -/
def moveDrag (s : Session α) (screen : Point α) :
    Outcome (Session α) (EditorFault α) (Option (Point α)) :=
  match s.controller.move s.editor.viewport.zoom screen with
  | .ok (c, p) => .done { s with controller := c } p
  | .error f => .failed s (.drag f)

omit [Scalar α] in
/-- The drag is released; the new control point is given back if a drag was on. -/
def releaseDrag (s : Session α) : Outcome (Session α) (EditorFault α) (Option (Point α)) :=
  (Editor.host.release s.editor s.controller).mapState ofHeld

/-- The pointer source delivers an event. -/
def push (s : Session α) (event : PointerEvent α) : Outcome (Session α) (EditorFault α) Unit :=
  (Editor.host.push event (s.editor, s.controller)).mapState ofHeld

omit [Scalar α] [StateFormat α] in
/-- An event waits to be played. -/
def enqueue (s : Session α) (event : PointerEvent α) : Session α :=
  { s with
    controller := { s.controller with source := s.controller.source.map (·.enqueue event) } }

/-- The pointer source plays what waits. -/
def play (s : Session α) : Outcome (Session α) (EditorFault α) Unit :=
  (Editor.host.play (s.editor, s.controller)).mapState ofHeld

/-- The events of a pointer that goes from the origin of the screen to a point in equal steps and is
released there. -/
def sweepEvents (goal : Point α) (steps : Nat) : List (PointerEvent α) :=
  ((List.range steps).map fun i =>
    .move ((goal.scale (Scalar.whole (i + 1 : Nat))).divide (Scalar.whole steps))) ++ [.up goal]

/-- Drags the control point of an edge by a displacement on screen, in equal steps, and pins it
where that ends; the points before and after are given back. -/
def sweep (s : Session α) (id : String) (shift : Point α) (steps : Nat) :
    Outcome (Session α) (EditorFault α) (Point α × Point α) :=
  (s.beginDrag id Point.origin).andThen fun s before =>
    ((sweepEvents shift steps).foldl enqueue s).play.andThen fun s _ =>
      .need s ((s.controlPoint id).mapError .rejected) fun after => .done s (before, after)

/-- Drags the control point of an edge on a canvas that is seen at a zoom and without pan. -/
def sweepAt (s : Session α) (zoom : α) (id : String) (shift : Point α) (steps : Nat) :
    Outcome (Session α) (EditorFault α) (Point α × Point α) :=
  (s.edit (·.setViewport (Scalar.ratio 0 1) (Scalar.ratio 0 1) zoom)).andThen fun s _ =>
    s.sweep id shift steps

end Session

end FlowCanvas
