import FlowCanvas.Graph.Entry
import FlowCanvas.Graph.Network

/-!
# Issues

The compiler leaves out in silence what it cannot resolve. The issues of a graph say what that is,
in a fixed order: dangling edges, branches without one clear source, a missing entry, nodes that no
run reaches, and identifiers used twice.
-/

namespace FlowCanvas

universe u

/-- A problem of a graph. -/
inductive Issue where
  /-- an edge with ends that do not exist -/
  | danglingEdge (edge : String) (missing : List String)
  /-- a branch that no edge enters -/
  | unresolvedDispatch (node identifier : String)
  /-- a branch that several edges enter, of which the first counts -/
  | ambiguousDispatch (node identifier : String) (count : Nat) (source : String)
  /-- no START node -/
  | missingStart
  /-- a START node that leads nowhere -/
  | noEntryEdge (start : String)
  /-- a node that START does not lead to -/
  | unreachable (node identifier : String)
  /-- an identifier of several nodes -/
  | duplicateIdentifier (identifier : String) (count : Nat)
  deriving DecidableEq, Repr

namespace Issue

/-- The kind of an issue. -/
def kind : Issue → String
  | danglingEdge .. => "dangling_edge"
  | unresolvedDispatch .. => "unresolved_dispatch"
  | ambiguousDispatch .. => "ambiguous_dispatch"
  | missingStart => "missing_start"
  | noEntryEdge .. => "no_entry_edge"
  | unreachable .. => "unreachable"
  | duplicateIdentifier .. => "duplicate_identifier"

/-- The id of the node or edge at fault, or nothing if the issue is of the whole graph. -/
def subject : Issue → String
  | danglingEdge edge _ => edge
  | unresolvedDispatch node _ => node
  | ambiguousDispatch node .. => node
  | noEntryEdge start => start
  | unreachable node _ => node
  | missingStart => ""
  | duplicateIdentifier .. => ""

/-- The wording of an issue. -/
def message : Issue → String
  | danglingEdge edge missing =>
    "Edge '" ++ edge ++ "' references missing node(s): " ++ ", ".intercalate missing
  | unresolvedDispatch _ identifier =>
    "Conditional node '" ++ identifier ++ "' has no incoming edge; its branches are not emitted"
  | ambiguousDispatch _ identifier count source =>
    "Conditional node '" ++ identifier ++ "' has " ++ toString count ++ " incoming edges; only '"
      ++ source ++ "' is used as the branch source"
  | missingStart => "Graph has no START node; no entry point is emitted"
  | noEntryEdge _ => "START is not connected; no entry point is emitted"
  | unreachable _ identifier => "Node '" ++ identifier ++ "' is not reachable from START"
  | duplicateIdentifier identifier count =>
    "Identifier '" ++ identifier ++ "' is used by " ++ toString count ++ " nodes"

end Issue

namespace Graph

variable {α : Type u}

/-- The ends of an edge that do not exist. -/
def missingEnds (g : Graph α) (e : Edge α) : List String :=
  [e.source, e.target].filter fun id => !g.has id

/-- The issues of dangling edges. -/
def danglingIssues (g : Graph α) : List Issue :=
  g.edges.filterMap fun e =>
    let missing := g.missingEnds e
    if missing = [] then none else some (.danglingEdge e.id missing)

/-- The issue of a branch, unless exactly one edge enters it. -/
def dispatchIssue? (g : Graph α) (n : Node α) : Option Issue :=
  match g.edges.filter fun e => e.target == n.id with
  | [] => some (.unresolvedDispatch n.id n.identifier)
  | [_] => none
  | first :: rest => some (.ambiguousDispatch n.id n.identifier (rest.length + 1) first.source)

/-- The issues of branches. -/
def dispatchIssues (g : Graph α) : List Issue :=
  (g.nodes.filter fun n => n.role = .dispatch).filterMap g.dispatchIssue?

/-- The issue of the entry, if there is one. -/
def entryIssues (g : Graph α) : List Issue :=
  match g.start? with
  | none => [.missingStart]
  | some start => if (g.firstFrom? start.id).isNone then [.noEntryEdge start.id] else []

/-- The issues of nodes out of reach. -/
def unreachableIssues (g : Graph α) : List Issue :=
  match g.start? with
  | none => []
  | some start =>
    let seen := g.reachable start.id
    (g.nodes.filter fun n => !seen.contains n.id && n.role ≠ .remark).map fun n =>
      .unreachable n.id n.identifier

/-- The issues of identifiers used twice, in order of first use. -/
def duplicateIssues (g : Graph α) : List Issue :=
  let identifiers := g.nodes.map Node.identifier
  identifiers.eraseDups.filterMap fun i =>
    let count := identifiers.count i
    if 1 < count then some (.duplicateIdentifier i count) else none

/-- All issues of a graph. -/
def issues (g : Graph α) : List Issue :=
  g.danglingIssues ++ g.dispatchIssues ++ g.entryIssues ++ g.unreachableIssues ++ g.duplicateIssues

end Graph

end FlowCanvas
