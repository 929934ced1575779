import FlowCanvas.Graph.Basic

/-!
# The entry point

A run of the compiled graph enters at the node that START leads to: the first START node, its first
outgoing edge, the first node at the other end. The recorded entry point of a graph is a copy of
that node's name.
-/

namespace FlowCanvas

universe u

namespace Graph

variable {α : Type u}

/-- The START node, by which a run enters. -/
def start? (g : Graph α) : Option (Node α) := g.first? .start

/-- The first edge that leaves a node. -/
def firstFrom? (g : Graph α) (id : String) : Option (Edge α) :=
  g.edges.find? fun e => e.source == id

/-- The node that a run enters at. -/
def entry? (g : Graph α) : Option (Node α) := do
  let start ← g.start?
  let edge ← g.firstFrom? start.id
  g.node? edge.target

/-- The name of the node that a run enters at, as it is recorded. -/
def entryName (g : Graph α) : Json :=
  match g.entry? with
  | some n => .string n.nameInCode
  | none => .null

/-- A graph whose recorded entry point is the one that START leads to. -/
def syncEntry (g : Graph α) : Graph α := g.setEntryPoint g.entryName

end Graph

end FlowCanvas
