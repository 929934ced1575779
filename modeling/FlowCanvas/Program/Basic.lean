import FlowCanvas.Graph.Entry
import FlowCanvas.Graph.Network

/-!
# Programs

What a graph compiles to, as data: the steps it registers, the step it enters at, one block per
branch and the plain transitions. Beside the program stands a list of what was left out, since a
graph under construction may hold edges that mean nothing yet.

Ids are resolved through the last node that has them. Edges that touch a remark and edges that
leave START belong to no program; the branch that an edge leaves decides whether it is a choice or a
transition.
-/

namespace FlowCanvas

universe u

/-- A step with its implementation. -/
structure Registration where
  /-- the name of the step -/
  name : String
  /-- the name of what it runs -/
  implementation : String
  /-- whether the implementation is only a placeholder, written as a text -/
  quoted : Bool
  deriving DecidableEq, Repr

/-- The choices of one branch. -/
structure Dispatch where
  /-- the id of the branch -/
  branch : String
  /-- the name of the node that leads to the branch -/
  feeder : String
  /-- the names of the targets, each once, in order of first use -/
  targets : List String
  deriving DecidableEq, Repr

/-- A plain transition. -/
structure Transition where
  /-- the name of the node that it leaves -/
  source : String
  /-- the name of the node that it enters -/
  target : String
  deriving DecidableEq, Repr

/-- A compiled graph. -/
structure Program where
  /-- the name of the graph -/
  name : String
  /-- the steps, in the order of their nodes -/
  registrations : List Registration
  /-- the name of the step that a run enters at -/
  entry : Option String
  /-- the branches, in the order of their first edge -/
  dispatches : List Dispatch
  /-- the transitions, in the order of their edges -/
  transitions : List Transition
  deriving DecidableEq, Repr

/-- What was left out of a program. -/
inductive Omission where
  /-- a recorded entry point that no edge from START leads to -/
  | entryPoint (recorded : Json)
  /-- an edge out of a branch without a target, or without a node that leads to the branch -/
  | choice (edge : String)
  /-- an edge with an end that does not exist -/
  | transition (edge source target : String)

/-- The wording of an omission. -/
def Omission.message : Omission → String
  | entryPoint recorded =>
    "Recorded entry point " ++ String.ofList recorded.shown ++ " has no START edge; not emitted"
  | choice edge => "Skipping conditional edge " ++ edge ++ ": unresolved endpoint or upstream"
  | transition edge source target =>
    "Skipping dangling edge " ++ edge ++ " (" ++ source ++ " -> " ++ target ++ ")"

variable {α : Type u}

/-- The registration of a node. -/
def Node.registration (n : Node α) : Registration :=
  ⟨n.nameInCode, n.implementationName, !n.implementation.isSet⟩

namespace Graph

/-! ### Branches -/

/-- The node that leads to a branch: the source of the first of all edges that enter it. -/
def feeder? (nodes : List (Node α)) (edges : List (Edge α)) (branch : String) :
    Option (Node α) :=
  (edges.find? fun e => e.target == branch).bind fun e => latest? nodes e.source

/-- A choice: the branch that an edge leaves, the node that leads to it, and the target. -/
def choice? (nodes : List (Node α)) (edges : List (Edge α)) (e : Edge α) :
    Option (Node α × Node α × Node α) :=
  match latest? nodes e.source, feeder? nodes edges e.source, latest? nodes e.target with
  | some branch, some feeder, some target => some (branch, feeder, target)
  | _, _, _ => none

/-- Blocks with one choice more: a new target of its branch, or a new block behind the others. -/
def addChoice (blocks : List Dispatch) (branch feeder target : String) : List Dispatch :=
  if blocks.any fun b => b.branch == branch then
    blocks.map fun b =>
      if b.branch = branch ∧ target ∉ b.targets then { b with targets := b.targets ++ [target] }
      else b
  else blocks ++ [⟨branch, feeder, [target]⟩]

/-- The blocks of some edges out of branches, in a graph with all of `edges`. -/
def dispatches (nodes : List (Node α)) (edges chosen : List (Edge α)) : List Dispatch :=
  (chosen.filterMap (choice? nodes edges)).foldl
    (fun blocks c => addChoice blocks c.1.id c.2.1.nameInCode c.2.2.nameInCode) []

/-- The edges out of branches that are no choices. -/
def omittedChoices (nodes : List (Node α)) (edges chosen : List (Edge α)) : List Omission :=
  (chosen.filter fun e => (choice? nodes edges e).isNone).map fun e => .choice e.id

/-! ### Kinds of edges -/

/-- The role of the node with an id, if there is one. -/
def role? (g : Graph α) (id : String) : Option Role := (latest? g.nodes id).map Node.role

/-- Whether the node with an id is a START node. -/
def isStart (g : Graph α) (id : String) : Bool :=
  (latest? g.nodes id).any fun n => n.category = .start

/-- Whether an edge takes part in a program. -/
def isLive (g : Graph α) (e : Edge α) : Bool :=
  g.role? e.source ≠ some .remark && g.role? e.target ≠ some .remark && !g.isStart e.source

/-- The edges that take part in a program. -/
def liveEdges (g : Graph α) : List (Edge α) := g.edges.filter g.isLive

/-- The live edges that leave a branch. -/
def chosenEdges (g : Graph α) : List (Edge α) :=
  g.liveEdges.filter fun e => g.role? e.source = some .dispatch

/-- The transition of an edge, unless it dangles or touches a branch. -/
def transition? (g : Graph α) (e : Edge α) : Option Transition :=
  match latest? g.nodes e.source, latest? g.nodes e.target with
  | some s, some t =>
    if s.role = .dispatch ∨ t.role = .dispatch then none else some ⟨s.nameInCode, t.nameInCode⟩
  | _, _ => none

/-- Whether an edge has an end that does not exist. -/
def dangles (g : Graph α) (e : Edge α) : Bool :=
  (latest? g.nodes e.source).isNone || (latest? g.nodes e.target).isNone

/-! ### Programs -/

/-- The program of a graph. -/
def program (g : Graph α) : Program where
  name := g.name
  registrations := (g.nodes.filter fun n => n.role = .executable).map Node.registration
  entry := g.entry?.map Node.nameInCode
  dispatches := dispatches g.nodes g.edges g.chosenEdges
  transitions := g.liveEdges.filterMap g.transition?

/-- The omission of the recorded entry point, if a run has no entry. -/
def omittedEntry (g : Graph α) : List Omission :=
  if g.entry?.isNone && g.entryPoint.isSet then [.entryPoint g.entryPoint] else []

/-- The omissions of live edges that dangle. -/
def omittedTransitions (g : Graph α) : List Omission :=
  (g.liveEdges.filter g.dangles).map fun e => .transition e.id e.source e.target

/-- All that the program of a graph leaves out and that is worth a word. -/
def omissions (g : Graph α) : List Omission :=
  g.omittedEntry ++ omittedChoices g.nodes g.edges g.chosenEdges ++ g.omittedTransitions

end Graph

end FlowCanvas
