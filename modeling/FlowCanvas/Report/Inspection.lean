import FlowCanvas.Graph.Issue
import FlowCanvas.Report.Table
import FlowCanvas.Session.Basic

/-!
# Inspections

All there is to tell about a graph: its nodes, its edges with their control points, and its issues;
as tables to read, or as a record with the paths and the issues added to it.
-/

namespace FlowCanvas.Report

/-- The most characters of a label that a table shows. -/
def labelLimit : Int := 30

/-- The blanks in front of a table. -/
def tableIndent : Nat := 2

/-- What stands for an entry point that there is none of. -/
def dash : String := "—"

/-- Lines, each with its end. -/
def ended (lines : List (List Char)) : String :=
  String.ofList (lines.flatMap fun line => line ++ ['\n'])

/-- The table of nodes. -/
def nodeTable (g : Graph Number) : Table where
  headers := ["Id", "Category", "Label", "Identifier", "Position"]
  rows := g.nodes.map fun n =>
    [n.id, n.category.name, String.ofList (truncate n.label.toList labelLimit), n.identifier,
      String.ofList (pointText n.position)]

/-- The table of edges. -/
def edgeTable (s : Session Number) : Table where
  headers := ["Edge", "Source", "Target", "Control", "Placement"]
  rows := s.graph.edges.map fun e =>
    [e.id, e.source, e.target, String.ofList (pointText (s.controlOf e)),
      if e.pinned then "pinned" else "auto"]

/-- The entry point as it is recorded. -/
def entryText (g : Graph Number) : String :=
  if g.entryPoint.isSet then g.entryPoint.plain else dash

/-- The issues, if there are any. -/
def issueText : List Issue → String
  | [] => ""
  | issues =>
    "\n  Issues (" ++ toString issues.length ++ "):\n"
      ++ String.join (issues.map fun i => "    - [" ++ i.kind ++ "] " ++ i.message ++ "\n")

/-- A session as text. -/
def inspection (s : Session Number) : String :=
  let g := s.graph
  "\nGraph: " ++ g.name ++ " | " ++ toString g.nodes.length ++ " nodes | "
    ++ toString g.edges.length ++ " edges\n  Entry point: " ++ entryText g ++ "\n\n"
    ++ ended ((nodeTable g).lines tableIndent)
    ++ (if g.edges.isEmpty then "" else "\n" ++ ended ((edgeTable s).lines tableIndent))
    ++ issueText g.issues

/-- The text of a path. -/
def pathText (p : Path Number) : String := String.ofList (p.text Number.drawn)

/-- Paths by edge. -/
def pathsJson (paths : List (String × Path Number)) : Json :=
  .object (paths.map fun p => (p.1, .string (pathText p.2)))

/-- An issue as a record. -/
def issueJson (i : Issue) : Json :=
  .object [("kind", .string i.kind), ("subject", .string i.subject), ("message", .string i.message)]

/-- A session as a record. -/
def inspectionJson (s : Session Number) : Json :=
  .object (s.graph.toFields
    ++ [("paths", pathsJson s.paths), ("issues", .array (s.graph.issues.map issueJson))])

/-- The version of the envelope below. -/
def envelopeVersion : Int := 1

/-- What a command tells, with the command and the time. -/
def envelope (command time : String) (data : Json) : Json :=
  .object [("schema_version", .number (.whole envelopeVersion)), ("command", .string command),
    ("generated_at", .string time), ("data", data)]

/-- The size of a text in units of 1024 octets, with one place. -/
def sizeText (octets : Nat) : String := String.ofList (Decimal.fixed 1 octets 1024)

end FlowCanvas.Report
