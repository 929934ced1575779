import FlowCanvas.Graph.Anchor
import FlowCanvas.Graph.Entry

/-!
# Edits of graphs

The edits of a graph as data, and whether an edit leaves a graph as it was. What an edit puts in is
compared by value with what was there, so a coordinate that is no number never equals the one before
it; what an edit does not touch is as it was, whatever it holds.
-/

namespace FlowCanvas

universe u

variable {α : Type u} [Scalar α]

/-- Equality of value. -/
def Node.same (n m : Node α) : Bool :=
  n.id == m.id && n.category == m.category && n.label == m.label && n.identifier == m.identifier
    && n.implementation.same m.implementation && n.position.same m.position

/-- Equality of value. -/
def Edge.same (e f : Edge α) : Bool :=
  let control := match e.control, f.control with
    | none, none => true
    | some p, some q => p.same q
    | _, _ => false
  e.id == f.id && e.source == f.source && e.target == f.target && control && e.pinned == f.pinned

/-- An edit of a graph. -/
inductive Edit (α : Type u) where
  /-- a node more -/
  | addNode (n : Node α)
  /-- a node in the place of those with its id -/
  | setNode (n : Node α)
  /-- nodes less, and the edges that touch them -/
  | removeNodes (ids : List String)
  /-- an edge more -/
  | addEdge (e : Edge α)
  /-- an edge in the place of those with its id -/
  | setEdge (e : Edge α)
  /-- edges less -/
  | removeEdges (ids : List String)
  /-- another name -/
  | rename (name : String)
  /-- another recorded entry point -/
  | setEntryPoint (entry : Json)
  /-- the recorded entry point that START leads to -/
  | syncEntry
  /-- control points back in the middle, of all edges or of those that touch some nodes -/
  | recenter (ids : Option (List String))

namespace Edit

/-- The graph after an edit. -/
def apply (g : Graph α) : Edit α → Graph α
  | addNode n => g.addNode n
  | setNode n => g.setNode n
  | removeNodes ids => g.removeNodes ids
  | addEdge e => g.addEdge e
  | setEdge e => g.setEdge e
  | removeEdges ids => g.removeEdges ids
  | rename name => g.rename name
  | setEntryPoint entry => g.setEntryPoint entry
  | syncEntry => g.syncEntry
  | recenter ids => g.recenter ids

/-- Whether a graph is the same after an edit. -/
def keeps (g : Graph α) : Edit α → Bool
  | addNode _ => false
  | setNode n => g.nodes.all fun m => m.id != n.id || m.same n
  | removeNodes ids =>
    (g.nodes.all fun n => !ids.contains n.id) && g.edges.all fun e => !e.touches ids
  | addEdge _ => false
  | setEdge e => g.edges.all fun d => d.id != e.id || d.same e
  | removeEdges ids => g.edges.all fun e => !ids.contains e.id
  | rename name => name == g.name
  | setEntryPoint entry => entry.same g.entryPoint
  | syncEntry => g.entryName.same g.entryPoint
  | recenter ids => g.edges.all fun e => (g.recentered? ids e).isNone

end Edit

end FlowCanvas
