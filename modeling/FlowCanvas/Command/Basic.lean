import FlowCanvas.Command.Arguments
import FlowCanvas.Command.Value
import FlowCanvas.Graph.Category

/-!
# Commands

What a command line asks for. There are five commands on the graph as a whole and two groups of
commands on its nodes and its edges. A line that asks for something else, leaves out what a command
needs, or gives a value that cannot be read is refused; one that asks for help gets help, provided
that its options can be read.
-/

namespace FlowCanvas

open Text

/-- What a command does. -/
inductive Command where
  /-- puts a fresh graph where there is none -/
  | create (name : Option String) (force : Bool)
  /-- prints the code of the graph -/
  | render (asJson plain : Bool) (output : Option String)
  /-- prints the graph and its issues -/
  | inspect (asJson : Bool) (output : Option String)
  /-- gives the graph a name -/
  | rename (name : String)
  /-- starts over from a fresh graph -/
  | reset (confirmed : Bool)
  /-- adds a node -/
  | addNode (category : Category) (label : Option String) (x y : Float)
  /-- gives a node another label -/
  | renameNode (node label : String)
  /-- removes nodes -/
  | removeNodes (nodes : List String)
  /-- moves a node -/
  | moveNode (node : String) (x y : Float)
  /-- draws an edge -/
  | connect (source target : String)
  /-- removes edges -/
  | removeEdges (edges : List String)
  /-- prints the paths of edges -/
  | paths (edge : Option String) (asJson : Bool)
  /-- drags the control point of an edge -/
  | drag (edge : String) (dx dy zoom : Float) (steps : Nat)

/-- What a command line asks for. -/
inductive Request where
  /-- a command, on the graph at a place or else at the usual one -/
  | run (state : Option String) (command : Command)
  /-- help -/
  | help
  /-- nothing that there is -/
  | refused

namespace Switch

/-- The option for help. -/
def help : Switch := ⟨"help", none, false⟩

/-- The option for the place of the graph. -/
def state : Switch := ⟨"state", some 's', true⟩

/-- An option with a value and without a letter. -/
def valued (long : String) : Switch := ⟨long, none, true⟩

/-- An option without a value and without a letter. -/
def plain (long : String) : Switch := ⟨long, none, false⟩

end Switch

/-- A command as it is written: the options it knows, and what its arguments come to. -/
structure Form where
  /-- the options besides those for help and for the place of the graph -/
  switches : List Switch
  /-- the command of arguments, if they suit it -/
  command? : Arguments → Option Command

namespace Form

/-! ### Values -/

/-- The number that an option gives, or another one if it is not given. -/
def numberOr (default : Float) (a : Arguments) (long : String) : Option Float :=
  match a.value? long with
  | none => some default
  | some s => number? s

/-- A letter of a category in lower case; the long s and its ligature with t fold to plain
letters. -/
def foldLetter (c : Char) : List Char :=
  if c = 'ſ' then ['s'] else if c = 'ﬅ' ∨ c = 'ﬆ' then ['s', 't'] else [c.toLower]

/-- A category, in any case. -/
def category? (s : String) : Option Category :=
  Category.ofName? (String.ofList (s.toList.flatMap foldLetter))

/-- The number of steps that an option gives, which is at least one. -/
def steps? (a : Arguments) : Option Nat :=
  match a.value? "steps" with
  | none => some 1
  | some s => (count? s).filter (1 ≤ ·)

/-! ### Forms -/

/-- The form of `new`. -/
def create : Form where
  switches := [.valued "name", .plain "force"]
  command? a :=
    match a.plain with
    | [] => some (.create (a.value? "name") (a.has "force"))
    | _ => none

/-- The form of `show`. -/
def render : Form where
  switches := [.plain "json", .plain "plain", .valued "output"]
  command? a :=
    match a.plain with
    | [] => some (.render (a.has "json") (a.has "plain") (a.value? "output"))
    | _ => none

/-- The form of `inspect`. -/
def inspect : Form where
  switches := [.plain "json", .valued "output"]
  command? a :=
    match a.plain with
    | [] => some (.inspect (a.has "json") (a.value? "output"))
    | _ => none

/-- The form of `rename`. -/
def rename : Form where
  switches := []
  command? a :=
    match a.plain with
    | [name] => some (.rename name)
    | _ => none

/-- The form of `reset`. -/
def reset : Form where
  switches := [⟨"yes", some 'y', false⟩]
  command? a :=
    match a.plain with
    | [] => some (.reset (a.has "yes"))
    | _ => none

/-- The form of `node add`. -/
def addNode : Form where
  switches := [⟨"label", some 'l', true⟩, .valued "x", .valued "y"]
  command? a :=
    match a.plain with
    | [category] => do
      let category ← category? category
      let x ← numberOr 0.0 a "x"
      let y ← numberOr 0.0 a "y"
      return .addNode category (a.value? "label") x y
    | _ => none

/-- The form of `node rename`. -/
def renameNode : Form where
  switches := []
  command? a :=
    match a.plain with
    | [node, label] => some (.renameNode node label)
    | _ => none

/-- The form of `node rm`. -/
def removeNodes : Form where
  switches := []
  command? a := if a.plain = [] then none else some (.removeNodes a.plain)

/-- The form of `node move`. -/
def moveNode : Form where
  switches := []
  command? a :=
    match a.plain with
    | [node, x, y] => do return .moveNode node (← number? x) (← number? y)
    | _ => none

/-- The form of `edge add`. -/
def connect : Form where
  switches := []
  command? a :=
    match a.plain with
    | [source, target] => some (.connect source target)
    | _ => none

/-- The form of `edge rm`. -/
def removeEdges : Form where
  switches := []
  command? a := if a.plain = [] then none else some (.removeEdges a.plain)

/-- The form of `edge path`. -/
def paths : Form where
  switches := [.plain "json"]
  command? a :=
    match a.plain with
    | [] => some (.paths none (a.has "json"))
    | [edge] => some (.paths (some edge) (a.has "json"))
    | _ => none

/-- The form of `edge drag`. -/
def drag : Form where
  switches := [.valued "zoom", .valued "steps"]
  command? a :=
    match a.plain with
    | [edge, dx, dy] => do
      let dx ← number? dx
      let dy ← number? dy
      let zoom ← numberOr 1.0 a "zoom"
      return .drag edge dx dy zoom (← steps? a)
    | _ => none

/-- The commands on the graph as a whole. -/
def onGraph : List (String × Form) :=
  [("new", create), ("show", render), ("inspect", inspect), ("rename", rename), ("reset", reset)]

/-- The commands on nodes. -/
def onNodes : List (String × Form) :=
  [("add", addNode), ("rename", renameNode), ("rm", removeNodes), ("move", moveNode)]

/-- The commands on edges. -/
def onEdges : List (String × Form) :=
  [("add", connect), ("rm", removeEdges), ("path", paths), ("drag", drag)]

/-- The groups of commands. -/
def groups : List (String × List (String × Form)) := [("node", onNodes), ("edge", onEdges)]

end Form

namespace Request

/-- The request of the arguments of a command. -/
def ofForm (form : Form) (args : List String) : Request :=
  match Arguments.read? (Switch.help :: Switch.state :: form.switches) true args with
  | none => refused
  | some a =>
    if a.has "help" then help
    else match form.command? a with
      | some c => run (a.value? "state") c
      | none => refused

/-- The request of a name among others, by what stands for the name. -/
def choose (args : List String) (next : String → List String → Request) : Request :=
  match Arguments.read? [Switch.help] false args with
  | none => refused
  | some a =>
    if a.has "help" then help
    else match a.plain with
      | [] => refused
      | name :: rest => next name rest

/-- The request of the arguments of a group of commands. -/
def ofGroup (forms : List (String × Form)) (args : List String) : Request :=
  choose args fun name rest =>
    match forms.lookup name with
    | some form => ofForm form rest
    | none => refused

/-- The request of a command line. -/
def ofArguments (args : List String) : Request :=
  choose args fun name rest =>
    match Form.groups.lookup name, Form.onGraph.lookup name with
    | some forms, _ => ofGroup forms rest
    | none, some form => ofForm form rest
    | none, none => refused

/-- The file that a request writes its record to, if it names one. -/
def output? : Request → Option String
  | run _ (.render true _ output) => output
  | run _ (.inspect true output) => output
  | _ => none

/-- Whether a request asks something before it does anything. -/
def asks : Request → Bool
  | run _ (.reset false) => true
  | _ => false

end Request

end FlowCanvas
