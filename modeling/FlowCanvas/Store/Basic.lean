import FlowCanvas.Graph.Record
import FlowCanvas.Store.FileTree

/-!
# Stores

Where a session keeps its graph between edits: in memory, or in a file of a tree. A store holds the
octets of the record, so that what is loaded is what was saved and read again. Where there is
nothing to load, or where the data is malformed or cannot be read, a load gives the initial graph.
What passes through are the faults that are not of the data's form, and a path that is too long to
be looked at.

Next to its data a store keeps a log of the graphs that it was to save, whether or not a save
succeeded. No call reads the log.
-/

namespace FlowCanvas

open Text

/-- Where a store keeps its data. -/
inductive Shelf where
  /-- in memory, if it has been saved -/
  | memory (data : Option Utf8.Octets)
  /-- in a file -/
  | file (path : FilePath) (tree : FileTree)
  deriving DecidableEq, Repr

/-- A store. -/
structure Store (α : Type) where
  /-- where the data is -/
  shelf : Shelf
  /-- how records are laid out -/
  layout : Json.Layout
  /-- all graphs that were to be saved so far, in order -/
  log : List (Graph α)

/-- What a load gives. -/
structure Loaded (α : Type) where
  /-- the graph -/
  graph : Graph α
  /-- whether data was there that could not be used -/
  discarded : Bool

/-- Why a store gives no graph. -/
inductive StoreFault where
  /-- the place of the file cannot be looked at -/
  | place (fault : FileFault)
  /-- the data cannot be read for reasons other than its form -/
  | data (fault : LoadFault)

/-- The wording of a fault. -/
def StoreFault.message : StoreFault → String
  | place f => "The graph cannot be looked for: " ++ f.message
  | data f => f.message

namespace Store

variable {α : Type}

/-- A store in memory. -/
def inMemory (data : Option Utf8.Octets) (layout : Json.Layout) : Store α :=
  ⟨.memory data, layout, []⟩

/-- A store in a file. -/
def inFile (path : FilePath) (tree : FileTree) (layout : Json.Layout) : Store α :=
  ⟨.file path tree, layout, []⟩

/-- What is there to load. -/
inductive Holding where
  /-- nothing -/
  | nothing
  /-- something that cannot be read -/
  | unreadable (fault : FileFault)
  /-- octets -/
  | octets (data : Utf8.Octets)
  deriving DecidableEq, Repr

/-- What the store holds; a fault if its place cannot be looked at. -/
def holding (s : Store α) : Except FileFault Holding :=
  match s.shelf with
  | .memory none => .ok .nothing
  | .memory (some data) => .ok (.octets data)
  | .file path tree => (tree.look path).map fun
    | none => .nothing
    | some _ =>
      match tree.read path with
      | .ok data => .octets data
      | .error f => .unreadable f

/-- The octets that the store holds, if it holds any. -/
def data? (s : Store α) : Option Utf8.Octets :=
  match s.holding with
  | .ok (.octets data) => some data
  | _ => none

/-- Whether there is a file, or data in memory. -/
def isPresent (s : Store α) : Except FileFault Bool :=
  match s.shelf with
  | .memory data => .ok data.isSome
  | .file path tree => tree.isFile path

/-- The files, if the store has any. -/
def tree? (s : Store α) : Option FileTree :=
  match s.shelf with
  | .memory _ => none
  | .file _ tree => some tree

/-- The store with other files. -/
def withTree (s : Store α) (tree : FileTree) : Store α :=
  match s.shelf with
  | .memory _ => s
  | .file path _ => { s with shelf := .file path tree }

variable [Scalar α] [StateFormat α]

/-- Loads the graph. -/
def load (s : Store α) : Except StoreFault (Loaded α) :=
  match s.holding with
  | .error f => .error (.place f)
  | .ok .nothing => .ok ⟨Graph.initial, false⟩
  | .ok (.unreadable _) => .ok ⟨Graph.initial, true⟩
  | .ok (.octets data) =>
    match StateFormat.decode data with
    | .ok g => .ok ⟨g, false⟩
    | .error f => if f.isFormat then .ok ⟨Graph.initial, true⟩ else .error (.data f)

omit [Scalar α] in
/-- Saves a graph in the place of what was there. -/
def save (s : Store α) (g : Graph α) : Outcome (Store α) FileFault Unit :=
  let data := StateFormat.encode s.layout g
  let s := { s with log := s.log ++ [g] }
  match s.shelf with
  | .memory _ => .done { s with shelf := .memory (some data) } ()
  | .file path tree => (tree.save FileTree.noTrouble path data).mapState s.withTree

omit [Scalar α] [StateFormat α] in
/-- Removes what is stored. -/
def clear (s : Store α) : Except FileFault (Store α) :=
  match s.shelf with
  | .memory _ => .ok { s with shelf := .memory none }
  | .file path tree => (tree.remove path).map s.withTree

end Store

end FlowCanvas
