import FlowCanvas.Graph.Basic

/-!
# The network of a graph

The bare network that analyses work on: one vertex per id, in order of first occurrence and with the
attributes of the last node that has it, and one link per source, target and edge id. Dangling edges
are left out. What can be reached is found by following links until no step adds a vertex.
-/

namespace FlowCanvas

universe u

variable {α : Type u}

/-- A vertex, by what is known of it. -/
structure Vertex where
  /-- the id of its nodes -/
  id : String
  /-- the category -/
  category : Category
  /-- the label -/
  label : String
  /-- the identifier -/
  identifier : String

/-- A link of a network. -/
structure Link where
  /-- where it starts -/
  source : String
  /-- where it ends -/
  target : String
  /-- the id of its edges -/
  edge : String
  deriving DecidableEq, Repr

namespace Graph

/-- The last node with an id, which is the one that counts where an id occurs twice. -/
def latest? (nodes : List (Node α)) (id : String) : Option (Node α) :=
  nodes.reverse.find? fun n => n.id == id

/-- The vertices, in order of first occurrence. -/
def vertices (g : Graph α) : List Vertex :=
  ((g.nodes.map Node.id).eraseDups.filterMap (latest? g.nodes)).map fun n =>
    ⟨n.id, n.category, n.label, n.identifier⟩

/-- Whether both ends of an edge exist. -/
def isAnchored (g : Graph α) (e : Edge α) : Bool := g.has e.source && g.has e.target

/-- The links, each once. -/
def links (g : Graph α) : List Link :=
  ((g.edges.filter g.isAnchored).map fun e => ⟨e.source, e.target, e.id⟩).eraseDups

/-- Vertices with all that one link leads to from them. -/
def expand (links : List Link) (seen : List String) : List String :=
  seen ++ ((links.filter fun l => seen.contains l.source && !seen.contains l.target).map
    Link.target).eraseDups

/-- Vertices with all that links lead to from them in at most `steps` steps. -/
def spread (links : List Link) : (steps : Nat) → List String → List String
  | 0, seen => seen
  | steps + 1, seen => spread links steps (expand links seen)

/-- What can be reached from a vertex, the vertex itself included: a shortest way takes no link
twice. -/
def reachable (g : Graph α) (id : String) : List String :=
  spread g.links g.links.length [id]

end Graph

end FlowCanvas
