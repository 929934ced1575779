/-!
# TOML documents

A document is a table of entries, each a value, a table or a list of tables. It is built by three
statements: a header declares a table, a doubled header adds a table to a list, and a line gives a
value to a key in the table of the last header. Keys and headers are paths.

What keeps a document from saying a thing twice is how its tables came about. A table that a header
or an earlier section has made is closed: no header may declare it again and no dotted key may reach
into it from outside. A table that is only on the way to others is open. A table in braces takes
nothing more at all, which is why it is a value here.
-/

namespace FlowCanvas.Toml

/-- Something in a document. -/
inductive Item where
  /-- a text -/
  | text (s : String)
  /-- a whole number -/
  | whole (n : Int)
  /-- a double -/
  | real (x : Float)
  /-- a truth value -/
  | truth (b : Bool)
  /-- a date, a time or both -/
  | moment
  /-- a list of values in brackets -/
  | list (items : List Item)
  /-- a table in braces -/
  | inline (entries : List (String × Item))
  /-- a table -/
  | table (closed : Bool) (entries : List (String × Item))
  /-- a list of tables: the earlier ones, and the one that is added to -/
  | tables (earlier : List (List (String × Item))) (last : List (String × Item))

/-- The entries of a table. -/
abbrev Entries := List (String × Item)

/-- A path of names. -/
abbrev Key := List String

namespace Entries

/-- The entry with a name. -/
def get? (es : Entries) (name : String) : Option Item :=
  (es.find? fun e => e.1 == name).map Prod.snd

/-- Entries with one put under a name. -/
def put (es : Entries) (name : String) (item : Item) : Entries :=
  if es.any fun e => e.1 == name then es.map fun e => if e.1 = name then (name, item) else e
  else es ++ [(name, item)]

/-- Changes the table at the end of a path, which is made if it is not there. A list of tables
stands for its last one, and a value is the end of the way. -/
def alter (change : Entries → Option Entries) : Key → Entries → Option Entries
  | [], es => change es
  | name :: rest, es =>
    match es.get? name with
    | none => (alter change rest []).map fun sub => es.put name (.table false sub)
    | some (.table closed sub) =>
      (alter change rest sub).map fun sub => es.put name (.table closed sub)
    | some (.tables earlier last) =>
      (alter change rest last).map fun last => es.put name (.tables earlier last)
    | some _ => none

/-- Declares a table, unless it is closed or something else bears its name. -/
def declare (name : String) (es : Entries) : Option Entries :=
  match es.get? name with
  | none => some (es.put name (.table true []))
  | some (.table false sub) => some (es.put name (.table true sub))
  | some _ => none

/-- Adds a table to a list of tables, which is made if it is not there. -/
def extend (name : String) (es : Entries) : Option Entries :=
  match es.get? name with
  | none => some (es.put name (.tables [] []))
  | some (.tables earlier last) => some (es.put name (.tables (earlier ++ [last]) []))
  | some _ => none

/-- Gives a value to a key that has none, through open tables only. -/
def assign (value : Item) : Key → Entries → Option Entries
  | [], _ => none
  | [name], es => if (es.get? name).isSome then none else some (es.put name value)
  | name :: rest, es =>
    match es.get? name with
    | none => (assign value rest []).map fun sub => es.put name (.table false sub)
    | some (.table false sub) =>
      (assign value rest sub).map fun sub => es.put name (.table false sub)
    | some _ => none

/-- Closes the tables that a dotted key goes through. -/
def close : Key → Entries → Entries
  | [], es => es
  | [_], es => es
  | name :: rest, es =>
    match es.get? name with
    | some (.table _ sub) => es.put name (.table true (close rest sub))
    | _ => es

end Entries

/-- A document that is being built. -/
structure Draft where
  /-- the entries so far -/
  entries : Entries
  /-- the last header -/
  header : Key
  /-- the keys given since then -/
  keys : List Key

namespace Draft

/-- A document without entries. -/
def empty : Draft := ⟨[], [], []⟩

/-- The entries with the tables closed that the last section has reached by dotted keys. -/
def settled (d : Draft) : Entries :=
  d.keys.foldl
    (fun es key => (es.alter (fun sub => some (Entries.close key sub)) d.header).getD es) d.entries

/-- A header, by what it does to the table that its last name is in. -/
def openBy (d : Draft) (act : String → Entries → Option Entries) (key : Key) : Option Draft :=
  match key.getLast? with
  | none => none
  | some name => (d.settled.alter (act name) key.dropLast).map fun es => ⟨es, key, []⟩

/-- A header that declares a table. -/
def openTable (d : Draft) (key : Key) : Option Draft := d.openBy Entries.declare key

/-- A header that adds a table to a list. -/
def openNext (d : Draft) (key : Key) : Option Draft := d.openBy Entries.extend key

/-- A line that gives a value to a key. -/
def assign (d : Draft) (key : Key) (value : Item) : Option Draft :=
  (d.entries.alter (Entries.assign value key) d.header).map fun es =>
    { d with entries := es, keys := d.keys ++ [key] }

end Draft

namespace Item

/-- The entries of something that is a table. -/
def entries? : Item → Option Entries
  | inline es => some es
  | table _ es => some es
  | _ => none

/-- Whether something is neither empty nor zero nor false. -/
def isSet : Item → Bool
  | text s => s != ""
  | whole n => n != 0
  | real x => !(x == 0.0)
  | truth b => b
  | moment => true
  | list items => !items.isEmpty
  | inline es => !es.isEmpty
  | table _ es => !es.isEmpty
  | tables .. => true

end Item

end FlowCanvas.Toml
