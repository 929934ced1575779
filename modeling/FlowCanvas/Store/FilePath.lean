import FlowCanvas.Text.Lines

/-!
# File paths

A path is a list of names, absolute or relative. Empty names and names that mean "here" are dropped
when a path is read; names that mean "one up" stay, since what they lead to depends on the files
that are there. Two slashes in front are kept as two.
-/

namespace FlowCanvas

/-- A path. -/
structure FilePath where
  /-- the slashes in front: none for a relative path -/
  root : String
  /-- the names, none of them empty or a single dot -/
  parts : List String
  deriving DecidableEq, Repr

namespace FilePath

/-- The slashes in front of a path: two if it starts with exactly two, else one or none. -/
def rootOf (s : List Char) : String :=
  match (s.takeWhile (· = '/')).length with
  | 0 => ""
  | 2 => "//"
  | _ => "/"

/-- The path that a text writes. -/
def ofText (s : String) : FilePath :=
  ⟨rootOf s.toList,
    ((Text.pieces (· == '/') s.toList).map String.ofList).filter fun p => p ≠ "" && p ≠ "."⟩

/-- The text of a path. -/
def text (p : FilePath) : String :=
  if p.root = "" ∧ p.parts = [] then "." else p.root ++ "/".intercalate p.parts

/-- Whether a path does not depend on a directory that it is seen from. -/
def isAbsolute (p : FilePath) : Bool := p.root != ""

/-- A path seen from a directory. -/
def join (p q : FilePath) : FilePath :=
  if q.isAbsolute then q else ⟨p.root, p.parts ++ q.parts⟩

/-- The path of the directory that holds it: itself if it has no names. -/
def parent (p : FilePath) : FilePath := ⟨p.root, p.parts.dropLast⟩

/-- The last name, or nothing. -/
def name (p : FilePath) : String := p.parts.getLastD ""

/-- An absolute path with the names `parts`. -/
def absolute (parts : List String) : FilePath := ⟨"/", parts⟩

/-- The directories from a place up to the root: the place first. -/
def ancestors (place : List String) : List (List String) :=
  (List.range (place.length + 1)).map fun n => place.take (place.length - n)

end FilePath

end FlowCanvas
