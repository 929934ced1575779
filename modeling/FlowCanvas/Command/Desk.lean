import FlowCanvas.Command.Basic
import FlowCanvas.Command.Prompt
import FlowCanvas.Report.Inspection
import FlowCanvas.Report.Panel
import FlowCanvas.Settings

/-!
# The desk

Commands work on a desk: the files that they see, the tokens for new ids and the time. A command
opens a session on the graph at its place, makes its edits and prints what it has to tell; the
session ends with the command, so that all that stays is in the files. What the user has done wrong
is printed as a notice, and what is wrong with the files or with the project is a fault that ends
the command.
-/

namespace FlowCanvas

open Text

/-- What commands work on. -/
structure Desk where
  /-- the files -/
  files : FileTree
  /-- tokens for new ids -/
  tokens : Tokens
  /-- the time -/
  time : String

/-- A fault that ends a command. -/
inductive CommandFault where
  /-- the settings of the project cannot be had -/
  | settings (fault : SettingsFault)
  /-- the settings give a name that is no text -/
  | badName
  /-- the graph cannot be loaded -/
  | load (fault : StoreFault)
  /-- an edit fails for no reason of the user's -/
  | edit (fault : EditorFault Number)
  /-- a file cannot be written -/
  | file (fault : FileFault)
  /-- the name of the graph cannot be shown as a title -/
  | title (fault : Markup.Fault)

/-- The wording of a fault. -/
def CommandFault.message : CommandFault → String
  | settings (.file f) => "The settings cannot be read: " ++ f.message
  | settings _ => "The settings of the project are malformed"
  | badName => "The name that the project settles is no text"
  | load f => f.message
  | edit (.badZoom f) => f.message fun x => String.ofList x.realForm
  | edit (.file f) => "The graph cannot be saved: " ++ f.message
  | edit _ => "The graph cannot be edited"
  | file f => "The output cannot be written: " ++ f.message
  | title f => "The title cannot be shown: " ++ f.message

/-- How a command ends before its time. -/
structure Stop where
  /-- what it has printed -/
  printed : String
  /-- the fault that ends it, if it is not the user's -/
  fault : Option CommandFault

namespace Stop

/-- A notice to the user. -/
def notice (text : String) : Stop := ⟨"Error: " ++ text ++ "\n", none⟩

/-- A fault. -/
def ofFault (f : CommandFault) : Stop := ⟨"", some f⟩

/-- The end of a command whose edit fails: refusals are notices. -/
def ofEdit : EditorFault Number → Stop
  | .rejected cause => notice cause.message
  | .drag (.busy edge current) => notice (DragFault.message numberText (.busy edge current))
  | .drag (.pressed edge) => notice (DragFault.message numberText (.pressed edge))
  | f => ofFault (.edit f)
where
  /-- A number in a message. -/
  numberText (x : Number) : String := String.ofList x.realForm

/-- The end of a command that has printed something before. -/
def after (printed : String) (s : Stop) : Stop := { s with printed := printed ++ s.printed }

end Stop

/-- What a command comes to: a desk, and what it prints. -/
abbrev Performance := Outcome Desk Stop String

namespace Desk

/-! ### Places and sessions -/

/-- The settings that hold in the current directory. -/
def settings (d : Desk) : Except Stop Settings :=
  (Settings.find d.files ⟨"", []⟩).mapError fun f => .ofFault (.settings f)

/-- The place of the graph: the one that is given, or the one of the settings. -/
def place (d : Desk) (state : Option String) : Except Stop FilePath :=
  match state with
  | none => d.settings.map fun s => .ofText s.state
  | some path => if path = "" then d.settings.map fun s => .ofText s.state else .ok (.ofText path)

/-- The store of the graph. -/
def store (d : Desk) (path : FilePath) : Store Number := .inFile path d.files .standard

/-- What a session on a store is opened with. -/
def setup {α : Type} (d : Desk) (graph : Option (Graph α)) (store : Store α) : Setup α where
  graph := graph
  store := some store
  dispatcher := .of [] false
  source := some (.silent [])
  tokens := d.tokens

/-- The desk after a session. -/
def after {α : Type} (d : Desk) (s : Session α) : Desk :=
  { d with
    files := (s.editor.store.bind Store.tree?).getD d.files
    tokens := s.editor.tokens }

/-- Opens a session on a store. -/
def openStore {α : Type} [Scalar α] [StateFormat α] (d : Desk) (graph : Option (Graph α))
    (store : Store α) : Except Stop (Session α) :=
  match Session.openWith (d.setup graph store) with
  | .ok opened => .ok opened.session
  | .error f => .error (.ofFault (.load f))

/-- Opens a session on the graph at a place, for a call. -/
def withSession (d : Desk) (state : Option String)
    (call : Session Number → Outcome (Session Number) Stop String) : Performance :=
  .need d ((d.place state).bind fun path => d.openStore none (d.store path)) fun s =>
    (call s).mapState d.after

/-- The node that a reference means. -/
def lookup (g : Graph Number) (reference : String) : Except Stop (Node Number) :=
  match g.lookup? reference with
  | some n => .ok n
  | none => .error (.notice ("No node with id or identifier '" ++ reference ++ "'"))

/-- The places that a request looks at: that of its graph, and that of the file it writes. -/
def requestPaths (d : Desk) (r : Request) : List FilePath :=
  let graph := match r with
    | .run state _ => match d.place state with
      | .ok p => [p]
      | .error _ => []
    | _ => []
  graph ++ (r.output?.map FilePath.ofText).toList

/-! ### Printing and writing -/

/-- Prints the record of a command, or writes it to a file. -/
def publish (d : Desk) (command : String) (data : Json) (output : Option String) : Performance :=
  let text := (Report.envelope command d.time data).text .standard
  match output with
  | none => .done d (text ++ "\n")
  | some path =>
    if path = "" then .done d (text ++ "\n")
    else
      .need d ((d.files.writeTyped path (Utf8.encode text)).mapError fun f =>
          .ofFault (.file f)) fun files =>
        .done { d with files := files }
          ("Wrote " ++ command ++ " output to " ++ path ++ " ("
            ++ Report.sizeText (Utf8.encode text).length ++ "KB)\n")

/-! ### Commands on the graph -/

/-- The name of a new graph: the one that is given, or the one of the settings. -/
def newName (d : Desk) : Option String → Except Stop String
  | none => fromSettings
  | some name => if name = "" then fromSettings else .ok name
where
  /-- The name of the settings. -/
  fromSettings : Except Stop String := d.settings.bind fun s =>
    match s.graphName with
    | .text name => .ok name
    | _ => .error (.ofFault .badName)

/-- Puts a fresh graph at a place. -/
def create (d : Desk) (state name : Option String) (force : Bool) : Performance :=
  .need d (d.place state) fun path =>
    .need d ((d.store path).isPresent.mapError fun f => .ofFault (.load (.place f))) fun present =>
      if present && !force then
        .failed d (.notice (path.text ++ " already exists (use --force to overwrite)"))
      else
        .need d (d.openStore (some Graph.initial) (d.store path)) fun s =>
          .need d (d.newName name) fun raw =>
            (((s.edit (·.setName raw)).mapFault Stop.ofEdit).mapState d.after).map fun name =>
              "Created " ++ path.text ++ " with graph '" ++ name ++ "'\n"

/-- Loads the graph at a place, as it is stored. -/
def load (d : Desk) (state : Option String) : Except Stop (Graph Number) :=
  (d.place state).bind fun path =>
    match (d.store path).load with
    | .ok loaded => .ok loaded.graph
    | .error f => .error (.ofFault (.load f))

/-- Prints the code of the graph. -/
def render (d : Desk) (state : Option String) (asJson plain : Bool) (output : Option String) :
    Performance :=
  .need d (d.load state) fun g =>
    if asJson then
      d.publish "show"
        (.object [("graph_name", .string g.name), ("code", .string g.source)]) output
    else if plain then .done d (g.source ++ "\n")
    else
      .need d ((Panel.text ⟨g.name, g.source⟩).mapError fun f => .ofFault (.title f))
        (.done d)

/-- Prints the graph and its issues. -/
def inspect (d : Desk) (state : Option String) (asJson : Bool) (output : Option String) :
    Performance :=
  .need d ((d.place state).bind fun path => d.openStore none (d.store path)) fun s =>
    if asJson then d.publish "inspect" (Report.inspectionJson s) output
    else .done d (Report.inspection s)

/-- Gives the graph a name. -/
def rename (d : Desk) (state : Option String) (raw : String) : Performance :=
  d.withSession state fun s =>
    ((s.edit (·.setName raw)).mapFault Stop.ofEdit).map fun name =>
      "Graph renamed to '" ++ name ++ "'\n"

/-- Starts over from a fresh graph. -/
def clear (d : Desk) (state : Option String) : Performance :=
  d.withSession state fun s =>
    ((s.edit Editor.reset).mapFault Stop.ofEdit).map fun _ => "Graph reset.\n"

/-- Asks whether to start over, unless that is settled, and does it. -/
def reset (d : Desk) (state : Option String) (confirmed : Bool) (typed : List (List Char)) :
    Performance :=
  if confirmed then d.clear state
  else
    match Prompt.ask typed with
    | (shown, some true) =>
      ((d.clear state).mapFault (Stop.after shown)).map fun text => shown ++ text
    | (shown, _) => .failed d ⟨shown, none⟩

/-! ### Commands on nodes -/

/-- Adds a node. -/
def addNode (d : Desk) (state : Option String) (category : Category) (label : Option String)
    (x y : Float) : Performance :=
  d.withSession state fun s =>
    ((s.edit (·.addNode category.name (some ⟨.real x, .real y⟩) label)).mapFault
      Stop.ofEdit).map fun n =>
        "Added " ++ n.category.name ++ " node '" ++ n.identifier ++ "' (" ++ n.id ++ ")\n"

/-- Gives a node another label. -/
def renameNode (d : Desk) (state : Option String) (reference label : String) : Performance :=
  d.withSession state fun s =>
    .need s (lookup s.graph reference) fun n =>
      ((s.edit (·.renameNode n.id label)).mapFault Stop.ofEdit).map fun renamed =>
        "Renamed '" ++ n.identifier ++ "' -> '" ++ renamed.identifier ++ "' (label: "
          ++ renamed.label ++ ")\n"

/-- Removes nodes. -/
def removeNodes (d : Desk) (state : Option String) (references : List String) : Performance :=
  d.withSession state fun s =>
    .need s (references.mapM (lookup s.graph)) fun nodes =>
      ((s.edit (·.removeNodes (nodes.map Node.id))).mapFault Stop.ofEdit).map fun _ =>
        "Removed " ++ toString nodes.length ++ " node(s): "
          ++ ", ".intercalate (nodes.map Node.identifier) ++ "\n"

/-- Moves a node. -/
def moveNode (d : Desk) (state : Option String) (reference : String) (x y : Float) :
    Performance :=
  d.withSession state fun s =>
    .need s (lookup s.graph reference) fun n =>
      ((s.edit (·.moveNode n.id ⟨.real x, .real y⟩)).mapFault Stop.ofEdit).map fun _ =>
        "Moved '" ++ n.identifier ++ "' to (" ++ String.ofList (Number.real x).sixDigits ++ ", "
          ++ String.ofList (Number.real y).sixDigits ++ ")\n"

/-! ### Commands on edges -/

/-- Draws an edge. -/
def connect (d : Desk) (state : Option String) (source target : String) : Performance :=
  d.withSession state fun s =>
    .need s (lookup s.graph source) fun source =>
      .need s (lookup s.graph target) fun target =>
        ((s.edit (·.connect source.id target.id)).mapFault Stop.ofEdit).map fun e =>
          "Connected '" ++ source.identifier ++ "' -> '" ++ target.identifier ++ "' (" ++ e.id
            ++ ")\n"

/-- Removes edges. -/
def removeEdges (d : Desk) (state : Option String) (edges : List String) : Performance :=
  d.withSession state fun s =>
    ((s.edit (·.removeEdges edges)).mapFault Stop.ofEdit).map fun _ =>
      "Removed " ++ toString edges.length ++ " edge(s)\n"

/-- The paths of all edges, or of one. -/
def chosenPaths (s : Session Number) : Option String →
    Except Stop (List (String × Path Number))
  | none => .ok s.paths
  | some edge =>
    match s.paths.find? fun p => p.1 == edge with
    | some p => .ok [p]
    | none => .error (.notice ("No drawable edge '" ++ edge ++ "'"))

/-- Prints the paths of edges. -/
def paths (d : Desk) (state : Option String) (edge : Option String) (asJson : Bool) :
    Performance :=
  .need d ((d.place state).bind fun path => d.openStore none (d.store path)) fun s =>
    .need d (chosenPaths s edge) fun paths =>
      if asJson then d.publish "edge.path" (Report.pathsJson paths) none
      else .done d (String.join (paths.map fun p => p.1 ++ "\t" ++ Report.pathText p.2 ++ "\n"))

/-- Drags the control point of an edge. -/
def drag (d : Desk) (state : Option String) (edge : String) (dx dy zoom : Float) (steps : Nat) :
    Performance :=
  if zoom ≤ 0.0 then .failed d (.notice "--zoom must be positive")
  else d.withSession state fun s =>
    ((s.sweepAt (.real zoom) edge ⟨.real dx, .real dy⟩ steps).mapFault Stop.ofEdit).map
      fun points =>
        "Control point of " ++ edge ++ ": " ++ String.ofList (Report.pointText points.1) ++ " -> "
          ++ String.ofList (Report.pointText points.2) ++ "\n"

/-! ### All commands -/

/-- Performs a command on the graph at a place, with what is typed if it asks something. -/
def perform (d : Desk) (state : Option String) (typed : List (List Char)) :
    Command → Performance
  | .create name force => d.create state name force
  | .render asJson plain output => d.render state asJson plain output
  | .inspect asJson output => d.inspect state asJson output
  | .rename name => d.rename state name
  | .reset confirmed => d.reset state confirmed typed
  | .addNode category label x y => d.addNode state category label x y
  | .renameNode node label => d.renameNode state node label
  | .removeNodes nodes => d.removeNodes state nodes
  | .moveNode node x y => d.moveNode state node x y
  | .connect source target => d.connect state source target
  | .removeEdges edges => d.removeEdges state edges
  | .paths edge asJson => d.paths state edge asJson
  | .drag edge dx dy zoom steps => d.drag state edge dx dy zoom steps

end Desk

/-- What a command line leaves behind. -/
structure Reply where
  /-- the exit status -/
  status : Nat
  /-- what has been printed -/
  printed : String
  /-- the fault that ended it, if one did -/
  fault : Option CommandFault
  /-- the desk -/
  desk : Desk

/-- The reply to a command line, with what is typed if it asks something. -/
def Desk.reply (d : Desk) (args : List String) (typed : List Char) : Reply :=
  match Request.ofArguments args with
  | .refused => ⟨2, "", none, d⟩
  | .help => ⟨0, "", none, d⟩
  | .run state command =>
    match d.perform state (typedLines typed) command with
    | ⟨d, .ok printed⟩ => ⟨0, printed, none, d⟩
    | ⟨d, .error stop⟩ => ⟨1, stop.printed, stop.fault, d⟩

end FlowCanvas
