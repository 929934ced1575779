import FlowCanvas.Session.Basic

/-!
# Calls to a session

Everything that can be asked of a session and may change it, as data, so that a history of a session
is a list. A call is made whether or not the one before it was refused.
-/

namespace FlowCanvas

/-- A call to a session. -/
inductive Call (α : Type) where
  /-- a node is added -/
  | addNode (category : String) (position : Option (Point α)) (label : Option String)
  /-- a node gets another label -/
  | renameNode (node text : String)
  /-- a node is moved -/
  | moveNode (node : String) (position : Point α)
  /-- nodes are removed -/
  | removeNodes (nodes : List String)
  /-- an edge is drawn -/
  | connect (source target : String)
  /-- edges are removed -/
  | removeEdges (edges : List String)
  /-- the control point of an edge is pinned -/
  | pinControl (edge : String) (point : Point α)
  /-- the graph gets a name -/
  | setName (raw : String)
  /-- the canvas is cleared -/
  | reset
  /-- the session ends -/
  | close
  /-- the canvas is panned and zoomed -/
  | setViewport (x y zoom : α)
  /-- a drag begins -/
  | beginDrag (edge : String) (screen : Point α)
  /-- the pointer moves -/
  | moveDrag (screen : Point α)
  /-- the drag is released -/
  | releaseDrag
  /-- the pointer source delivers an event -/
  | push (event : PointerEvent α)
  deriving DecidableEq, Repr

/-- What a call answers. -/
inductive Answer (α : Type) where
  /-- nothing to tell -/
  | nothing
  /-- the node that was made or changed -/
  | node (n : Node α)
  /-- the edge that was drawn or changed -/
  | edge (e : Edge α)
  /-- the name that was given -/
  | name (s : String)
  /-- a control point, if there is one to tell -/
  | point (p : Option (Point α))

namespace Session

variable {α : Type} [Scalar α] [StateFormat α]

/-- One call. -/
def run (s : Session α) : Call α → Outcome (Session α) (EditorFault α) (Answer α)
  | .addNode category position label => (s.edit (·.addNode category position label)).map .node
  | .renameNode node text => (s.edit (·.renameNode node text)).map .node
  | .moveNode node position => (s.edit (·.moveNode node position)).map .node
  | .removeNodes nodes => (s.edit (·.removeNodes nodes)).map fun _ => .nothing
  | .connect source target => (s.edit (·.connect source target)).map .edge
  | .removeEdges edges => (s.edit (·.removeEdges edges)).map fun _ => .nothing
  | .pinControl edge point => (s.edit (·.pinControl edge point)).map .edge
  | .setName raw => (s.edit (·.setName raw)).map .name
  | .reset => (s.edit Editor.reset).map fun _ => .nothing
  | .close => (s.edit Editor.close).map fun _ => .nothing
  | .setViewport x y zoom => (s.edit (·.setViewport x y zoom)).map fun _ => .nothing
  | .beginDrag edge screen => (s.beginDrag edge screen).map fun p => .point (some p)
  | .moveDrag screen => (s.moveDrag screen).map .point
  | .releaseDrag => s.releaseDrag.map .point
  | .push event => (s.push event).map fun _ => .nothing

/-- The session after a history of calls. -/
def after (s : Session α) (calls : List (Call α)) : Session α :=
  calls.foldl (fun s c => (s.run c).state) s

end Session

end FlowCanvas
