import FlowCanvas.Graph.Basic
import FlowCanvas.Store.FileTree
import FlowCanvas.Toml.Reader

/-!
# Settings

A project may say where its graph is kept and what new graphs are called, in a section of its
project file. The project file that counts is the nearest one, from a directory upwards, and it
alone: if it has no such section, there are no settings. A place that it gives is seen from its own
directory.
-/

namespace FlowCanvas

open Text

/-- What a project settles. -/
structure Settings where
  /-- where the graph is kept -/
  state : String
  /-- what new graphs are called; anything may stand there -/
  graphName : Toml.Item

/-- Why settings cannot be had. -/
inductive SettingsFault where
  /-- the project file is no text -/
  | notUtf8
  /-- the project file is no document -/
  | notToml
  /-- a whole number in it has too many digits -/
  | tooManyDigits (digits : Nat)
  /-- values in it are too deep inside each other -/
  | tooDeep
  /-- there is something other than a table where the section is looked for -/
  | noTable
  /-- the place of the graph is no text -/
  | noPath
  /-- the directory to start from cannot be found, or a file cannot be read -/
  | file (fault : FileFault)
  deriving DecidableEq, Repr

namespace Settings

/-- The name of project files. -/
def projectFile : String := "pyproject.toml"

/-- The tables that lead to the section. -/
def outerSection : String := "tool"

/-- The name of the section. -/
def innerSection : String := "graphcad"

/-- Where the graph is kept if nothing is settled. -/
def defaultState : String := "graphcad.json"

/-- What holds if nothing is settled. -/
def unsettled : Settings := ⟨defaultState, .text defaultGraphName⟩

/-- The directory of the nearest project file, from a place upwards. -/
def projectDirectory? (t : FileTree) (start : Place) : Option Place :=
  (FilePath.ancestors start).find? fun place =>
    match t.entry? (place ++ [projectFile]) with
    | some (.file _) => true
    | _ => false

/-- The section of a document, if it has one that is not empty. -/
def section? (document : Toml.Entries) : Except SettingsFault (Option Toml.Entries) :=
  match document.get? outerSection with
  | none => .ok none
  | some outer =>
    match outer.entries? with
    | none => .error .noTable
    | some outer =>
      match outer.get? innerSection with
      | none => .ok none
      | some inner =>
        if inner.isSet then
          match inner.entries? with
          | some inner => .ok (some inner)
          | none => .error .noTable
        else .ok none

/-- A place as a project file in a directory gives it. -/
def placed (directory : Place) (path : String) : String :=
  if (FilePath.ofText path).isAbsolute then path
  else ((FilePath.absolute directory).join (.ofText path)).text

/-- The settings of a section of the project file in a directory. -/
def ofSection (directory : Place) (entries : Toml.Entries) : Except SettingsFault Settings :=
  let name := (entries.get? "graph_name").getD (.text defaultGraphName)
  match (entries.get? "state").getD (.text defaultState) with
  | .text path => .ok ⟨placed directory path, name⟩
  | _ => .error .noPath

/-- The settings of a project file in a directory. -/
def ofOctets (directory : Place) (data : Utf8.Octets) : Except SettingsFault Settings :=
  match Utf8.decode data with
  | .error _ => .error .notUtf8
  | .ok s =>
    match Toml.read s.toList with
    | .error .malformed => .error .notToml
    | .error (.tooManyDigits n) => .error (.tooManyDigits n)
    | .error .tooDeep => .error .tooDeep
    | .ok document => (section? document).bind fun
      | none => .ok unsettled
      | some entries => ofSection directory entries

/-- The settings that hold in a directory. -/
def find (t : FileTree) (start : FilePath) : Except SettingsFault Settings :=
  match t.resolve start with
  | .error f => .error (.file f)
  | .ok place =>
    match projectDirectory? t place with
    | none => .ok unsettled
    | some directory =>
      match t.read (.absolute (directory ++ [projectFile])) with
      | .ok data => ofOctets directory data
      | .error f => .error (.file f)

end Settings

end FlowCanvas
