import FlowCanvas.Drag.Delivery
import FlowCanvas.Editor.Plan
import FlowCanvas.Event.Dispatcher
import FlowCanvas.Program.Printer
import FlowCanvas.Store.Basic

/-!
# Editors

An editor owns a graph and keeps up to date all that depends on it. Every accepted edit is committed
in one way: the recorded entry point is derived anew, the code is compiled, both take the place of
the old ones, the graph is saved, and the processors are told. A refused edit does none of this, and
an edit whose saving or telling fails has been made all the same.
-/

namespace FlowCanvas

/-- Tokens that make the ids of new nodes unlike each other, one after the other. -/
structure Tokens where
  /-- the token with a number -/
  text : Nat → String
  /-- how many have been drawn -/
  drawn : Nat

namespace Tokens

/-- The numbers from one on, as eight hexadecimal digits. -/
def counting : Tokens := ⟨fun n => String.ofList (Text.hex 8 (n + 1)), 0⟩

/-- The next token. -/
def next (t : Tokens) : String := t.text t.drawn

/-- The tokens after the next one. -/
def draw (t : Tokens) : Tokens := { t with drawn := t.drawn + 1 }

end Tokens

/-- Why a call fails. -/
inductive EditorFault (α : Type) where
  /-- an edit is refused -/
  | rejected (cause : Rejection)
  /-- no category bears a name -/
  | badCategory (name : String)
  /-- the zoom of a viewport is not positive -/
  | badZoom (fault : BadZoom α)
  /-- the controller of drags refuses a call -/
  | drag (fault : DragFault α)
  /-- the graph cannot be saved -/
  | file (fault : FileFault)
  /-- a processor failed, and the dispatcher is strict -/
  | processor (problem : String)

/-- An editor. -/
structure Editor (α : Type) where
  /-- the graph -/
  graph : Graph α
  /-- its code -/
  code : String
  /-- where it is saved, if anywhere -/
  store : Option (Store α)
  /-- who is told about edits -/
  dispatcher : Dispatcher α
  /-- how the canvas is seen -/
  viewport : Viewport α
  /-- tokens for new ids -/
  tokens : Tokens

namespace Editor

variable {α : Type} [Scalar α]

/-- An editor of a graph. -/
def of (g : Graph α) (store : Option (Store α)) (dispatcher : Dispatcher α) (tokens : Tokens) :
    Editor α where
  graph := g.syncEntry
  code := g.syncEntry.source
  store := store
  dispatcher := dispatcher
  viewport := .initial
  tokens := tokens

/-! ### Committing -/

omit [Scalar α] in
/-- An editor with another graph, and the code that goes with it. -/
def put (e : Editor α) (g : Graph α) : Editor α := { e with graph := g, code := g.source }

omit [Scalar α] in
/-- The processors are told of an event. -/
def announce (e : Editor α) (event : Event α) : Outcome (Editor α) (EditorFault α) Unit :=
  ((e.dispatcher.emit event).mapState fun d => { e with dispatcher := d }).mapFault .processor

omit [Scalar α] in
/-- The processors are told that the session ends. -/
def close (e : Editor α) : Outcome (Editor α) (EditorFault α) Unit :=
  (e.dispatcher.shutdown.mapState fun d => { e with dispatcher := d }).mapFault .processor

variable [StateFormat α]

omit [Scalar α] in
/-- The graph is saved, if there is a store. -/
def save (e : Editor α) : Outcome (Editor α) (EditorFault α) Unit :=
  match e.store with
  | none => .done e ()
  | some s => ((s.save e.graph).mapState fun s => { e with store := some s }).mapFault .file

omit [Scalar α] in
/-- A change is committed. -/
def commit (e : Editor α) (c : Change α) : Outcome (Editor α) (EditorFault α) Unit :=
  (e.put c.graph.syncEntry).save.andThen fun e _ =>
    e.announce (.changed e.graph e.code c.action c.subject)

omit [Scalar α] in
/-- A plan is carried out, unless it was refused. -/
def carryOut {β : Type} (e : Editor α) :
    Except Rejection (Plan α β) → Outcome (Editor α) (EditorFault α) β
  | .error r => .failed e (.rejected r)
  | .ok ⟨none, b⟩ => .done e b
  | .ok ⟨some c, b⟩ => (e.commit c).map fun _ => b

/-! ### Edits -/

/-- Adds a node. A token is drawn once nothing but the label can be refused. -/
def addNode (e : Editor α) (category : String) (position : Option (Point α))
    (label : Option String) : Outcome (Editor α) (EditorFault α) (Node α) :=
  match Category.ofName? category with
  | none => .failed e (.badCategory category)
  | some c =>
    if e.graph.isTaken c then .failed e (.rejected (.duplicateTerminal c))
    else
      let id := Graph.newId c e.tokens.next
      carryOut { e with tokens := e.tokens.draw } (e.graph.planAdd c id position label)

omit [Scalar α] in
/-- Changes the label of a node. -/
def renameNode (e : Editor α) (id text : String) : Outcome (Editor α) (EditorFault α) (Node α) :=
  e.carryOut (e.graph.planRename id text)

/-- Moves a node. -/
def moveNode (e : Editor α) (id : String) (position : Point α) :
    Outcome (Editor α) (EditorFault α) (Node α) :=
  e.carryOut (e.graph.planMove id position)

omit [Scalar α] in
/-- Removes nodes, all or none. -/
def removeNodes (e : Editor α) (ids : List String) : Outcome (Editor α) (EditorFault α) Unit :=
  e.carryOut (e.graph.planRemoveNodes ids)

/-- Draws an edge, if there is none already. -/
def connect (e : Editor α) (source target : String) :
    Outcome (Editor α) (EditorFault α) (Edge α) :=
  e.carryOut (e.graph.planConnect source target)

omit [Scalar α] in
/-- Removes edges, all or none. -/
def removeEdges (e : Editor α) (ids : List String) : Outcome (Editor α) (EditorFault α) Unit :=
  e.carryOut (e.graph.planRemoveEdges ids)

omit [Scalar α] in
/-- Pins the control point of an edge. -/
def pinControl (e : Editor α) (id : String) (point : Point α) :
    Outcome (Editor α) (EditorFault α) (Edge α) :=
  e.carryOut (e.graph.planPin id point)

omit [Scalar α] in
/-- Gives the graph a name. -/
def setName (e : Editor α) (raw : String) : Outcome (Editor α) (EditorFault α) String :=
  e.carryOut (.ok (e.graph.planName raw))

/-- Starts over from a fresh canvas. -/
def reset (e : Editor α) : Outcome (Editor α) (EditorFault α) Unit :=
  (e.put Graph.initial).save.andThen fun e _ => e.announce (.reset e.graph e.code)

omit [StateFormat α] in
/-- Pans and zooms, unless the zoom is not positive. -/
def setViewport (e : Editor α) (x y zoom : α) : Outcome (Editor α) (EditorFault α) Unit :=
  match Viewport.of x y zoom with
  | .ok v => .done { e with viewport := v } ()
  | .error f => .failed e (.badZoom f)

/-! ### Drags -/

omit [Scalar α] in
/-- An editor as a host of drags: releases pin control points. -/
def host : DragHost (Editor α) (EditorFault α) α where
  zoom e := e.viewport.zoom
  pin e r := (e.pinControl r.edge r.point).map fun _ => ()
  fault := .drag

end Editor

end FlowCanvas
