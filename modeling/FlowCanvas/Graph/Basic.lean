import FlowCanvas.Graph.Category
import FlowCanvas.Json.Basic
import FlowCanvas.Plane.Point

/-!
# Graphs

The state of a canvas: nodes and edges in the order in which they were placed, the recorded entry
point and the name of the compiled graph. A graph is a value, and every edit here gives a new one;
nothing is checked, so an edge may dangle and an id may occur twice. A look-up by id finds the first
that has it, and an edit by id meets all that have it.

The recorded entry point and the implementations are JSON values because a loaded record may hold
anything there; the editor itself only ever sets them to a text or to null.
-/

namespace FlowCanvas

universe u

/-- The name of a graph that has not been given any. -/
def defaultGraphName : String := "my_graph"

/-- A node of the canvas. -/
structure Node (α : Type u) where
  /-- a handle that never changes -/
  id : String
  /-- its kind -/
  category : Category
  /-- the text shown on it -/
  label : String
  /-- its name in compiled code -/
  identifier : String
  /-- what it runs, if anything is set -/
  implementation : Json
  /-- the top left corner of its box -/
  position : Point α

/-- An edge of the canvas. -/
structure Edge (α : Type u) where
  /-- a handle that never changes -/
  id : String
  /-- the id of the node that it leaves -/
  source : String
  /-- the id of the node that it enters -/
  target : String
  /-- the point that its curve passes through, once that is known -/
  control : Option (Point α)
  /-- whether the user has placed the control point -/
  pinned : Bool

/-- A graph. -/
structure Graph (α : Type u) where
  /-- the nodes, in order -/
  nodes : List (Node α)
  /-- the edges, in order -/
  edges : List (Edge α)
  /-- the recorded name of the node that START leads to -/
  entryPoint : Json
  /-- the name of the graph in compiled code -/
  name : String

variable {α : Type u}

namespace Node

/-- The role of a node. -/
def role (n : Node α) : Role := n.category.role

/-- The name of a node in compiled code: its id if it has no identifier. -/
def nameInCode (n : Node α) : String := if n.identifier = "" then n.id else n.identifier

/-- The implementation of a node: a name made from its own if none is set. -/
def implementationOrName (n : Node α) : Json :=
  if n.implementation.isSet then n.implementation else .string (n.nameInCode ++ "_func")

/-- The implementation of a node in compiled code. -/
def implementationName (n : Node α) : String := n.implementationOrName.plain

end Node

namespace Edge

/-- Whether an edge leaves and enters the same node. -/
def isLoop (e : Edge α) : Bool := e.source == e.target

/-- Whether an edge leaves or enters one of the nodes `ids`. -/
def touches (ids : List String) (e : Edge α) : Bool :=
  ids.contains e.source || ids.contains e.target

end Edge

namespace Graph

/-- A graph without nodes. -/
def empty : Graph α := ⟨[], [], .null, defaultGraphName⟩

/-- The graph of a fresh canvas: START alone. -/
def initial [Scalar α] : Graph α where
  nodes := [{
    id := "start-1"
    category := .start
    label := Category.start.defaultLabel
    identifier := "start"
    implementation := .string "start_function"
    position := ⟨Scalar.whole 100, Scalar.whole 100⟩ }]
  edges := []
  entryPoint := .null
  name := defaultGraphName

/-! ### Look-ups -/

/-- The first node with an id. -/
def node? (g : Graph α) (id : String) : Option (Node α) := g.nodes.find? fun n => n.id == id

/-- The first node with an identifier. -/
def nodeNamed? (g : Graph α) (identifier : String) : Option (Node α) :=
  g.nodes.find? fun n => n.identifier == identifier

/-- The node that a reference means: the one with that id, or else the one with that identifier. -/
def lookup? (g : Graph α) (reference : String) : Option (Node α) :=
  match g.node? reference with
  | some n => some n
  | none => g.nodeNamed? reference

/-- The first edge with an id. -/
def edge? (g : Graph α) (id : String) : Option (Edge α) := g.edges.find? fun e => e.id == id

/-- The first node of a category. -/
def first? (g : Graph α) (c : Category) : Option (Node α) := g.nodes.find? fun n => n.category = c

/-- The edges from one node to another. -/
def between (g : Graph α) (source target : String) : List (Edge α) :=
  g.edges.filter fun e => e.source == source && e.target == target

/-- Whether some node has an id. -/
def has (g : Graph α) (id : String) : Bool := g.nodes.any fun n => n.id == id

/-! ### Edits -/

/-- A graph with a node more. -/
def addNode (g : Graph α) (n : Node α) : Graph α := { g with nodes := g.nodes ++ [n] }

/-- A graph with a node put in the place of each node of the same id. -/
def setNode (g : Graph α) (n : Node α) : Graph α :=
  { g with nodes := g.nodes.map fun m => if m.id = n.id then n else m }

/-- A graph without some nodes and the edges that touch them. -/
def removeNodes (g : Graph α) (ids : List String) : Graph α :=
  { g with
    nodes := g.nodes.filter fun n => !ids.contains n.id
    edges := g.edges.filter fun e => !e.touches ids }

/-- A graph with an edge more. -/
def addEdge (g : Graph α) (e : Edge α) : Graph α := { g with edges := g.edges ++ [e] }

/-- A graph with an edge put in the place of each edge of the same id. -/
def setEdge (g : Graph α) (e : Edge α) : Graph α :=
  { g with edges := g.edges.map fun d => if d.id = e.id then e else d }

/-- A graph without some edges. -/
def removeEdges (g : Graph α) (ids : List String) : Graph α :=
  { g with edges := g.edges.filter fun e => !ids.contains e.id }

/-- A graph with another name. -/
def rename (g : Graph α) (name : String) : Graph α := { g with name := name }

/-- A graph with another recorded entry point. -/
def setEntryPoint (g : Graph α) (entry : Json) : Graph α := { g with entryPoint := entry }

end Graph

end FlowCanvas
