import FlowCanvas.Outcome
import FlowCanvas.Store.FilePath
import FlowCanvas.Text.Digits
import FlowCanvas.Text.Utf8

/-!
# File trees

The files and directories that a program sees, as a value: entries by their place, which is the list
of names from the root. A path is resolved from a current directory, name by name, and every name
but the last has to be a directory. Names and paths have a greatest size, in octets, and none of
them holds the null character. The faults are those that an operating system reports.

A save is a sequence of steps: the record is made, the directories above the file are made, a new
temporary file is made beside it and written, and at last it takes the file's place. Any of the
steps may fail for reasons that no tree shows, so a save has a parameter for that. A temporary file
is removed when a later step fails; directories that have been made stay.
-/

namespace FlowCanvas

open Text

/-- Why an operation on files fails. -/
inductive FileFault where
  /-- there is nothing at the place, or no directory for it -/
  | notFound
  /-- a name that should be a directory is a file -/
  | notDirectory
  /-- there is a directory where a file is wanted -/
  | isDirectory
  /-- there is something at the place already -/
  | alreadyExists
  /-- the place is in use -/
  | busy
  /-- a name or a path has too many octets -/
  | tooLong
  /-- a path holds the null character -/
  | nullCharacter
  deriving DecidableEq, Repr

/-- The wording of a fault. -/
def FileFault.message : FileFault → String
  | notFound => "no such file or directory"
  | notDirectory => "not a directory"
  | isDirectory => "is a directory"
  | alreadyExists => "exists already"
  | busy => "is in use"
  | tooLong => "has too long a name"
  | nullCharacter => "embedded null byte"

/-- What is at a place. -/
inductive FileEntry where
  /-- a file with its contents -/
  | file (data : Utf8.Octets)
  /-- a directory -/
  | directory
  deriving DecidableEq, Repr

/-- A place: the names from the root. -/
abbrev Place := List String

/-- Files and directories. -/
structure FileTree where
  /-- what is at which place, no place twice -/
  entries : List (Place × FileEntry)
  /-- the current directory -/
  current : Place
  deriving DecidableEq, Repr

namespace FileTree

/-- What is at a place. The root is always a directory. -/
def entry? (t : FileTree) (p : Place) : Option FileEntry :=
  if p = [] then some .directory else (t.entries.find? fun x => x.1 == p).map Prod.snd

/-- The tree with something put at a place. -/
def put (t : FileTree) (p : Place) (e : FileEntry) : FileTree :=
  if t.entries.any fun x => x.1 == p then
    { t with entries := t.entries.map fun x => if x.1 = p then (p, e) else x }
  else { t with entries := t.entries ++ [(p, e)] }

/-- The tree with nothing at a place. -/
def erase (t : FileTree) (p : Place) : FileTree :=
  { t with entries := t.entries.filter fun x => x.1 ≠ p }

/-- The tree with directories at a place and at all places above it. -/
def putDirectories (t : FileTree) (p : Place) : FileTree :=
  ((FilePath.ancestors p).filter fun q => (t.entry? q).isNone).foldl
    (fun t q => t.put q .directory) t

/-- The greatest size of a name. -/
def nameLimit : Nat := 255

/-- The greatest size of a path. -/
def pathLimit : Nat := 4095

/-- What is wrong with a name, if anything. -/
def nameFault? (name : String) : Option FileFault :=
  if name.toList.contains '\x00' then some .nullCharacter
  else if nameLimit < name.utf8ByteSize then some .tooLong
  else none

/-- The place that names lead to from a place. -/
def walk (t : FileTree) (here : Place) : List String → Except FileFault Place
  | [] => .ok here
  | name :: rest =>
    match t.entry? here with
    | none => .error .notFound
    | some (.file _) => .error .notDirectory
    | some .directory =>
      match nameFault? name with
      | some f => .error f
      | none => walk t (onward here name) rest
where
  /-- The place that one name leads to. -/
  onward (here : Place) (name : String) : Place :=
    if name = "." then here else if name = ".." then here.dropLast else here ++ [name]

/-- What is wrong with a path as a text, whatever the files are. -/
def pathFault? (p : FilePath) : Option FileFault :=
  if p.text.toList.contains '\x00' then some .nullCharacter
  else if pathLimit < p.text.utf8ByteSize then some .tooLong
  else none

/-- The place of a path. Nothing has to be there. -/
def resolve (t : FileTree) (p : FilePath) : Except FileFault Place :=
  match pathFault? p with
  | some f => .error f
  | none => t.walk (if p.isAbsolute then [] else t.current) p.parts

/-- The places that lead to a path, from the root or the current directory on. -/
def trail (t : FileTree) (p : FilePath) : List Place :=
  let start := if p.isAbsolute then [] else t.current
  (List.range (p.parts.length + 1)).map fun n =>
    (p.parts.take n).foldl
      (fun here name => if name = ".." then here.dropLast else here ++ [name]) start

/-- What is at a path, if anything. There is nothing at a path that leads nowhere, but one that is
too long cannot be looked at. -/
def look (t : FileTree) (p : FilePath) : Except FileFault (Option FileEntry) :=
  match t.resolve p with
  | .ok place => .ok (t.entry? place)
  | .error .tooLong => .error .tooLong
  | .error _ => .ok none

/-- What is at a path, if anything can be seen there. -/
def at? (t : FileTree) (p : FilePath) : Option FileEntry :=
  match t.look p with
  | .ok entry => entry
  | .error _ => none

/-- Whether there is a file at a path. -/
def isFile (t : FileTree) (p : FilePath) : Except FileFault Bool :=
  (t.look p).map fun
    | some (.file _) => true
    | _ => false

/-- Whether there is a directory at a path. -/
def isDirectory (t : FileTree) (p : FilePath) : Bool := t.at? p = some .directory

/-- The contents of the file at a path. -/
def read (t : FileTree) (p : FilePath) : Except FileFault Utf8.Octets :=
  match t.resolve p with
  | .error f => .error f
  | .ok place =>
    match t.entry? place with
    | none => .error .notFound
    | some .directory => .error .isDirectory
    | some (.file data) => .ok data

/-- Writes a file, in a directory that is there. -/
def write (t : FileTree) (p : FilePath) (data : Utf8.Octets) : Except FileFault FileTree :=
  match t.resolve p with
  | .error f => .error f
  | .ok place =>
    match t.entry? place with
    | some .directory => .error .isDirectory
    | _ => .ok (t.put place (.file data))

/-- The place of a path as it is typed. A name that means "here", and a slash at the end, stand for
the directory before them, which has to be there: the last of the names is not looked at if a slash
follows it, since a new file cannot have such a name. -/
def resolveTyped (t : FileTree) (path : String) : Except FileFault Place :=
  let names := ((pieces (· == '/') path.toList).filter (· ≠ [])).map String.ofList
  if path.toList.contains '\x00' then .error .nullCharacter
  else if pathLimit < path.utf8ByteSize then .error .tooLong
  else
    t.walk (if path.toList.head? = some '/' then [] else t.current)
      (if path.toList.getLast? = some '/' then names.dropLast ++ ["."] else names)

/-- Writes a file at a path as it is typed. -/
def writeTyped (t : FileTree) (path : String) (data : Utf8.Octets) :
    Except FileFault FileTree :=
  match t.resolveTyped path with
  | .error f => .error f
  | .ok place =>
    match t.entry? place with
    | some .directory => .error .isDirectory
    | _ => .ok (t.put place (.file data))

/-- Removes a file, if it is there. -/
def remove (t : FileTree) (p : FilePath) : Except FileFault FileTree :=
  match t.resolve p with
  | .error .notFound => .ok t
  | .error f => .error f
  | .ok place =>
    match t.entry? place with
    | none => .ok t
    | some .directory => .error .isDirectory
    | some (.file _) => .ok (t.erase place)

/-- Makes a directory, in one that is there. -/
def makeDirectory (t : FileTree) (p : FilePath) : Except FileFault FileTree :=
  match t.resolve p with
  | .error f => .error f
  | .ok place =>
    match t.entry? place with
    | some _ => .error .alreadyExists
    | none => .ok (t.put place .directory)

/-- Puts the file at a place in the place of a path. -/
def replace (t : FileTree) (source : Place) (p : FilePath) : Except FileFault FileTree :=
  if p.parts = [] ∨ p.name = ".." then .error .busy
  else match t.resolve p, t.entry? source with
    | .error f, _ => .error f
    | .ok _, none => .error .notFound
    | .ok place, some e =>
      match t.entry? place with
      | some .directory => .error .isDirectory
      | _ => .ok ((t.erase source).put place e)

/-! ### Saving -/

/-- A step of a save. -/
inductive SaveStep where
  /-- the record is made -/
  | encode
  /-- a directory above the file is made, or is made `again` once the one above it is there -/
  | makeDirectory (path : FilePath) (again : Bool)
  /-- the temporary file is made -/
  | makeTemporary
  /-- the temporary file is written -/
  | writeTemporary
  /-- the temporary file takes the file's place -/
  | replaceTarget
  deriving DecidableEq, Repr

/-- Which steps of a save fail for reasons of their own. -/
abbrev Trouble := SaveStep → Option FileFault

/-- Nothing fails for reasons of its own. -/
def noTrouble : Trouble := fun _ => none

/-- Makes a directory unless it is there or there is trouble; `missing` says what to do if the one
above it is not there. -/
def ensureDirectory (trouble : Option FileFault) (t : FileTree) (p : FilePath)
    (missing : Outcome FileTree FileFault Unit) : Outcome FileTree FileFault Unit :=
  match trouble with
  | some f => .failed t f
  | none =>
    match t.makeDirectory p with
    | .ok t => .done t ()
    | .error .notFound => missing
    | .error f => if t.isDirectory p then .done t () else .failed t f

/-- Makes a directory and those above it, as far as they are missing; `height` bounds their number.
-/
def ensureDirectories (trouble : Trouble) :
    (height : Nat) → FileTree → FilePath → Outcome FileTree FileFault Unit
  | 0, t, p => ensureDirectory (trouble (.makeDirectory p false)) t p (.failed t .notFound)
  | height + 1, t, p =>
    ensureDirectory (trouble (.makeDirectory p false)) t p
      (if p.parent = p then .failed t .notFound
      else (ensureDirectories trouble height t p.parent).andThen fun t _ =>
        ensureDirectory (trouble (.makeDirectory p true)) t p (.failed t .notFound))

/-- Makes the directory of a path and those above it, as far as they are missing. -/
def makeDirectories (trouble : Trouble) (t : FileTree) (p : FilePath) :
    Outcome FileTree FileFault Unit :=
  ensureDirectories trouble p.parts.length t p

/-- The name of a temporary file for a file: eight digits tell one from another. -/
def temporaryName (name : String) (k : Nat) : String :=
  "." ++ name ++ "." ++ String.ofList (padLeft 8 '0' (decimal k)) ++ ".tmp"

/-- A free name for a temporary file beside a file, by the least number; `fuel` bounds the search.
-/
def freeName (t : FileTree) (directory : Place) (name : String) : (fuel k : Nat) → String
  | 0, k => temporaryName name k
  | fuel + 1, k =>
    if (t.entry? (directory ++ [temporaryName name k])).isSome then
      freeName t directory name fuel (k + 1)
    else temporaryName name k

/-- A temporary file is written and takes the place of a file; it is removed if that fails. -/
def replaceBy (trouble : Trouble) (t : FileTree) (temporary : Place) (p : FilePath)
    (data : Utf8.Octets) : Outcome FileTree FileFault Unit :=
  match trouble .writeTemporary with
  | some f => .failed (t.erase temporary) f
  | none =>
    let t := t.put temporary (.file data)
    match trouble .replaceTarget with
    | some f => .failed (t.erase temporary) f
    | none =>
      match t.replace temporary p with
      | .error f => .failed (t.erase temporary) f
      | .ok t => .done t ()

/-- A new temporary file is made beside a file and takes its place. -/
def saveBeside (trouble : Trouble) (t : FileTree) (p : FilePath) (data : Utf8.Octets) :
    Outcome FileTree FileFault Unit :=
  match trouble .makeTemporary with
  | some f => .failed t f
  | none =>
    match t.resolve p.parent with
    | .error f => .failed t f
    | .ok directory =>
      let name := t.freeName directory p.name t.entries.length 0
      match nameFault? name with
      | some f => .failed t f
      | none =>
        let temporary := directory ++ [name]
        replaceBy trouble (t.put temporary (.file [])) temporary p data

/-- Saves a file all at once, with the directories above it. -/
def save (trouble : Trouble) (t : FileTree) (p : FilePath) (data : Utf8.Octets) :
    Outcome FileTree FileFault Unit :=
  match trouble .encode with
  | some f => .failed t f
  | none => (makeDirectories trouble t p.parent).andThen fun t _ => saveBeside trouble t p data

end FileTree

end FlowCanvas
