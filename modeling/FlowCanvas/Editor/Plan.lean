import FlowCanvas.Graph.Anchor
import FlowCanvas.Graph.Identifier
import FlowCanvas.Text.Quoted

/-!
# Planned edits

What an edit would do to a graph, worked out before anything is changed. An edit is refused for a
reason that can be shown to the user as it is, or it leaves the graph alone and only answers, or it
comes with the graph to put in place and the words to announce it by.

A plan looks at nothing but the graph, so a refused edit cannot have changed anything.
-/

namespace FlowCanvas

universe u v

open Text

/-- Why an edit is refused. -/
inductive Rejection where
  /-- there is a START or an END already -/
  | duplicateTerminal (category : Category)
  /-- a label is blank -/
  | emptyLabel (node : String)
  /-- START and END keep their labels -/
  | renameNotAllowed (node : String) (category : Category)
  /-- there is no such node -/
  | unknownNode (node : String)
  /-- there is no such edge -/
  | unknownEdge (edge : String)
  /-- an edge would leave END -/
  | leavesStop
  /-- an edge would enter START -/
  | entersStart
  deriving DecidableEq, Repr

/-- The wording of a refusal. -/
def Rejection.message : Rejection → String
  | duplicateTerminal c => c.defaultLabel ++ " node already exists."
  | emptyLabel _ => "Node name (Label) cannot be empty."
  | renameNotAllowed _ c => c.defaultLabel ++ " node cannot be renamed."
  | unknownNode node => "Node not found: " ++ quoted node
  | unknownEdge edge => "Edge not found: " ++ quoted edge
  | leavesStop => "END node has no outgoing connections."
  | entersStart => "START node has no incoming connections."

/-- A graph to put in place, and the words to announce it by. -/
structure Change (α : Type u) where
  /-- the new graph -/
  graph : Graph α
  /-- what is done -/
  action : String
  /-- to which node or edge -/
  subject : Option String

/-- What an accepted edit comes to. -/
structure Plan (α : Type u) (β : Type v) where
  /-- the change, if there is any to make -/
  change : Option (Change α)
  /-- the answer -/
  answer : β

namespace Graph

variable {α : Type u}

/-! ### What edits ask for -/

/-- The node with an id. -/
def requireNode (g : Graph α) (id : String) : Except Rejection (Node α) :=
  match g.node? id with
  | some n => .ok n
  | none => .error (.unknownNode id)

/-- The edge with an id. -/
def requireEdge (g : Graph α) (id : String) : Except Rejection (Edge α) :=
  match g.edge? id with
  | some e => .ok e
  | none => .error (.unknownEdge id)

/-- A text without blanks around it, which must leave something, as the label of a node. -/
def requireLabel (node text : String) : Except Rejection String :=
  let label := String.ofList (trim text.toList)
  if label = "" then .error (.emptyLabel node) else .ok label

/-- The label of a new node: the default one if there is no other or no choice. -/
def newLabel (c : Category) (node : String) : Option String → Except Rejection String
  | none => .ok c.defaultLabel
  | some text => if c.isTerminal then .ok c.defaultLabel else requireLabel node text

/-! ### Nodes -/

/-- Whether a new node of a category would be a second START or END. -/
def isTaken (g : Graph α) (c : Category) : Bool := c.isTerminal && (g.first? c).isSome

/-- The id of a new node, with a token that makes it unlike others. -/
def newId (c : Category) (token : String) : String := c.name ++ "-" ++ token

variable [Scalar α]

/-- A new node; its identifier comes from its label. -/
def newNode (g : Graph α) (c : Category) (id label : String) (position : Option (Point α)) :
    Node α where
  id := id
  category := c
  label := label
  identifier := Identifier.ofLabel label g.nodes none (some c)
  implementation := (c.defaultImplementation.map Json.string).getD .null
  position := position.getD Point.origin

/-- A node is added under an id. -/
def planAdd (g : Graph α) (c : Category) (id : String) (position : Option (Point α))
    (label : Option String) : Except Rejection (Plan α (Node α)) :=
  (newLabel c id label).map fun label =>
    let n := g.newNode c id label position
    ⟨some ⟨g.addNode n, "add_node", some n.id⟩, n⟩

omit [Scalar α] in
/-- A node gets another label, and an identifier that goes with it. -/
def planRename (g : Graph α) (id text : String) : Except Rejection (Plan α (Node α)) :=
  (g.requireNode id).bind fun n =>
    if n.category.isTerminal then .error (.renameNotAllowed id n.category)
    else (requireLabel id text).map fun label =>
      let renamed :=
        { n with label := label, identifier := Identifier.ofLabel label g.nodes (some id) none }
      ⟨some ⟨g.setNode renamed, "rename_node", some id⟩, renamed⟩

/-- A node is moved, and the control points of its edges follow unless they are pinned. -/
def planMove (g : Graph α) (id : String) (position : Point α) :
    Except Rejection (Plan α (Node α)) :=
  (g.requireNode id).map fun n =>
    let moved := { n with position := position }
    ⟨some ⟨(g.setNode moved).recenter (some [id]), "move_node", some id⟩, moved⟩

omit [Scalar α] in
/-- Nodes are removed, with the edges that touch them. -/
def planRemoveNodes (g : Graph α) (ids : List String) : Except Rejection (Plan α Unit) :=
  (ids.mapM g.requireNode).map fun _ =>
    ⟨some ⟨g.removeNodes ids, "remove_nodes", some (",".intercalate ids)⟩, ()⟩

/-! ### Edges -/

/-- A new edge. -/
def newEdge (source target : String) : Edge α :=
  ⟨"edge-" ++ source ++ "-" ++ target, source, target, none, false⟩

/-- An edge is drawn. Where there is one already, that is the answer and nothing is changed. -/
def planConnect (g : Graph α) (source target : String) : Except Rejection (Plan α (Edge α)) :=
  (g.requireNode source).bind fun s => (g.requireNode target).bind fun t =>
    if s.category = .stop then .error .leavesStop
    else if t.category = .start then .error .entersStart
    else match g.between source target with
      | present :: _ => .ok ⟨none, present⟩
      | [] =>
        let e := newEdge source target
        let drawn := (g.addEdge e).recenter (some [source, target])
        .ok ⟨some ⟨drawn, "connect", some e.id⟩, (drawn.edge? e.id).getD e⟩

omit [Scalar α] in
/-- Edges are removed. -/
def planRemoveEdges (g : Graph α) (ids : List String) : Except Rejection (Plan α Unit) :=
  (ids.mapM g.requireEdge).map fun _ =>
    ⟨some ⟨g.removeEdges ids, "remove_edges", some (",".intercalate ids)⟩, ()⟩

omit [Scalar α] in
/-- The control point of an edge is pinned. -/
def planPin (g : Graph α) (id : String) (point : Point α) : Except Rejection (Plan α (Edge α)) :=
  (g.requireEdge id).map fun e =>
    let pinned := { e with control := some point, pinned := true }
    ⟨some ⟨g.setEdge pinned, "commit_control_point", some id⟩, pinned⟩

/-! ### The name -/

omit [Scalar α] in
/-- The graph gets the name that a text suggests. -/
def planName (g : Graph α) (raw : String) : Plan α String :=
  let name := Identifier.ofGraphName raw
  ⟨some ⟨g.rename name, "set_graph_name", none⟩, name⟩

end Graph

end FlowCanvas
