import FlowCanvas.Graph.Identifier
import FlowCanvas.Json.Printer
import FlowCanvas.Json.Reader
import FlowCanvas.Text.Utf8

/-!
# Records of graphs

A graph is saved as a JSON object with its nodes, its edges, the recorded entry point and its name.
Records can be edited by hand, so reading is lenient where that is harmless: ids and labels may be
any value and are taken by their plain text, coordinates may be texts or truth values, absent lists
are empty, an absent position is the origin, and the name is stripped to what code can hold. What it
cannot use, it refuses, at the first fault in the order of the fields.

Three faults are not faults of the record as such: an integer that is no double, one with so many
digits that it is not read at all, and lists and objects too deep inside each other.
-/

namespace FlowCanvas

open Text

/-! ### Writing -/

/-- A point as a record. -/
def Point.toJson (p : Point Number) : Json := .object [("x", .number p.x), ("y", .number p.y)]

/-- A node as a record. -/
def Node.toJson (n : Node Number) : Json :=
  .object [("id", .string n.id), ("category", .string n.category.name), ("label", .string n.label),
    ("code_identifier", .string n.identifier), ("implementation_ref", n.implementation),
    ("position", n.position.toJson)]

/-- An edge as a record. -/
def Edge.toJson (e : Edge Number) : Json :=
  .object [("id", .string e.id), ("source", .string e.source), ("target", .string e.target),
    ("control_point", (e.control.map Point.toJson).getD .null),
    ("control_point_user_positioned", .bool e.pinned)]

/-- The fields of the record of a graph. -/
def Graph.toFields (g : Graph Number) : Fields :=
  [("nodes", .array (g.nodes.map Node.toJson)), ("edges", .array (g.edges.map Edge.toJson)),
    ("entry_point", g.entryPoint), ("graph_name", .string g.name)]

/-- A graph as a record. -/
def Graph.toJson (g : Graph Number) : Json := .object g.toFields

/-! ### Faults -/

/-- What is wrong with a record. -/
inductive RecordFault where
  /-- a field is missing -/
  | missing (field : String)
  /-- a value is no category -/
  | badCategory (value : Json)
  /-- a text is no number -/
  | badNumeral (text : String)
  /-- a value of the wrong kind -/
  | wrongKind
  /-- a value that should have fields has none -/
  | noFields

/-- The wording for a value that is no category. -/
def badCategoryMessage (v : Json) : String :=
  String.ofList v.shown ++ " is not a valid NodeCategory"

/-- The wording for a text that is no number. -/
def badNumeralMessage (s : String) : String := "could not convert string to float: " ++ quoted s

/-- The wording of a fault. -/
def RecordFault.message : RecordFault → String
  | missing field => "KeyError(" ++ quoted field ++ ")"
  | badCategory v => "ValueError(" ++ quoted (badCategoryMessage v) ++ ")"
  | badNumeral s => "ValueError(" ++ quoted (badNumeralMessage s) ++ ")"
  | wrongKind => "TypeError"
  | noFields => "AttributeError"

/-- Why stored data is no graph. -/
inductive LoadFault where
  /-- the octets are no text -/
  | notUtf8 (fault : Utf8.Fault)
  /-- the text is no JSON -/
  | notJson (problem : Json.Problem) (place : Json.Place)
  /-- the value is no object but of another kind -/
  | notObject (kind : String)
  /-- the object is no record of a graph -/
  | malformed (fault : RecordFault)
  /-- an integer has too many digits to be read -/
  | tooManyDigits (digits : Nat)
  /-- a coordinate is an integer beyond the greatest double -/
  | outOfRange
  /-- lists and objects are too deep inside each other -/
  | tooDeep

namespace LoadFault

/-- Whether a fault is one of the data's form. The other faults are not expected of stored data, and
a store passes them on. -/
def isFormat : LoadFault → Bool
  | tooManyDigits _ => false
  | outOfRange => false
  | tooDeep => false
  | _ => true

/-- The wording of octets that are no text. -/
def utf8Message (f : Utf8.Fault) : String :=
  let which :=
    if f.count = 1 then
      "byte 0x" ++ String.ofList (hex 2 f.octet.toNat) ++ " in position " ++ toString f.start
    else "bytes in position " ++ toString f.start ++ "-" ++ toString (f.start + f.count - 1)
  let reason := match f.reason with
    | .invalidStart => "invalid start byte"
    | .invalidContinuation => "invalid continuation byte"
    | .unexpectedEnd => "unexpected end of data"
  "'utf-8' codec can't decode " ++ which ++ ": " ++ reason

/-- The wording of a fault. -/
def message : LoadFault → String
  | notUtf8 f => "State is not valid JSON: " ++ utf8Message f
  | notJson problem place =>
    "State is not valid JSON: " ++ problem.message ++ ": " ++ place.message
  | notObject kind => "State must be a JSON object, got " ++ kind
  | malformed f => "Malformed graph state: " ++ f.message
  | tooManyDigits digits => tooManyDigitsMessage digits
  | outOfRange => "int too large to convert to float"
  | tooDeep => "lists and objects are too deep inside each other"

end LoadFault

/-! ### Reading -/

namespace Record

/-- A fault of the record. -/
def fault {β : Type} (f : RecordFault) : Except LoadFault β := .error (.malformed f)

/-- The fields of a value that has to have some. -/
def fields : Json → Except LoadFault Fields
  | .object fields => .ok fields
  | _ => fault .noFields

/-- The value of a field that has to be there. -/
def field (fields : Fields) (name : String) : Except LoadFault Json :=
  match Json.field? fields name with
  | some v => .ok v
  | none => fault (.missing name)

/-- The value of a field, or null. -/
def optional (fields : Fields) (name : String) : Json := (Json.field? fields name).getD .null

/-- The plain text of a field that has to be there. -/
def text (fs : Fields) (name : String) : Except LoadFault String :=
  (field fs name).map Json.plain

/-- A coordinate, which becomes a double. -/
def coordinate : Json → Except LoadFault Number
  | .number (.real x) => .ok (.real x)
  | .number (.whole n) =>
    match Number.finite? n with
    | some x => .ok (.real x)
    | none => .error .outOfRange
  | .bool b => .ok (.real (if b then 1.0 else 0.0))
  | .string s =>
    match Numeral.read? s.toList with
    | some n => .ok (.real n.toFloat)
    | none => fault (.badNumeral s)
  | _ => fault .wrongKind

/-- A point. -/
def point : Json → Except LoadFault (Point Number)
  | .object fs => do
    let x ← (field fs "x").bind coordinate
    let y ← (field fs "y").bind coordinate
    return ⟨x, y⟩
  | _ => fault .wrongKind

/-- A point, or the one to take for null. -/
def pointOr {β : Type} (absent : β) (present : Point Number → β) :
    Json → Except LoadFault β
  | .null => .ok absent
  | v => (point v).map present

/-- A category. -/
def category : Json → Except LoadFault Category
  | .string s =>
    match Category.ofName? s with
    | some c => .ok c
    | none => fault (.badCategory (.string s))
  | v => fault (.badCategory v)

/-- A node. -/
def node (v : Json) : Except LoadFault (Node Number) := do
  let fs ← fields v
  let id ← text fs "id"
  let c ← (field fs "category").bind category
  let label ← text fs "label"
  let identifier ← text fs "code_identifier"
  let position ← pointOr Point.origin (fun p => p) (optional fs "position")
  return ⟨id, c, label, identifier, optional fs "implementation_ref", position⟩

/-- An edge. -/
def edge (v : Json) : Except LoadFault (Edge Number) := do
  let fs ← fields v
  let id ← text fs "id"
  let source ← text fs "source"
  let target ← text fs "target"
  let control ← pointOr none some (optional fs "control_point")
  return ⟨id, source, target, control, (optional fs "control_point_user_positioned").isSet⟩

/-- The items of a field that lists records; a value that is not set lists none. -/
def items (v : Json) : Except LoadFault (List Json) :=
  if v.isSet then
    match v with
    | .array items => .ok items
    | .string s => .ok (s.toList.map fun c => .string (String.ofList [c]))
    | .object fs => .ok (fs.map fun f => .string f.1)
    | _ => fault .wrongKind
  else .ok []

/-- A graph. -/
def graph : Json → Except LoadFault (Graph Number)
  | .object fs => do
    let nodes ← (items (optional fs "nodes")).bind fun vs => vs.mapM node
    let edges ← (items (optional fs "edges")).bind fun vs => vs.mapM edge
    let name := optional fs "graph_name"
    let raw := if name.isSet then name.plain else ""
    return ⟨nodes, edges, optional fs "entry_point", Identifier.ofGraphName raw⟩
  | v => .error (.notObject v.kind)

end Record

/-! ### Stored data -/

/-- How graphs become stored data and come back. -/
class StateFormat (α : Type) where
  /-- the stored form of a graph -/
  encode : Json.Layout → Graph α → Utf8.Octets
  /-- the graph of stored data -/
  decode : Utf8.Octets → Except LoadFault (Graph α)

namespace Graph

/-- The text of the record of a graph. -/
def recordText (l : Json.Layout) (g : Graph Number) : String := g.toJson.text l

/-- The graph whose record is a text. -/
def ofText (s : List Char) : Except LoadFault (Graph Number) :=
  match Json.read s with
  | .ok v => Record.graph v
  | .error (.malformed p left) => .error (.notJson p (Json.placeOf s left))
  | .error (.tooManyDigits n) => .error (.tooManyDigits n)
  | .error .tooDeep => .error .tooDeep

/-- The graph of stored data. -/
def ofOctets (data : Utf8.Octets) : Except LoadFault (Graph Number) :=
  match Utf8.decode data with
  | .ok s => ofText s.toList
  | .error f => .error (.notUtf8 f)

end Graph

instance : StateFormat Number where
  encode l g := Utf8.encode (g.recordText l)
  decode := Graph.ofOctets

end FlowCanvas
