import FlowCanvas.Number.Text
import FlowCanvas.Text.Quoted

/-!
# JSON values

Saved graphs are JSON values. The fields of an object keep the order in which they were first
written, and a field written twice keeps its later value. Besides its JSON text a value has a plain
form, used where one stands inside a message or inside generated code.
-/

namespace FlowCanvas

open Text

/-- A JSON value. -/
inductive Json where
  /-- the empty value -/
  | null
  /-- a truth value -/
  | bool (b : Bool)
  /-- a number -/
  | number (n : Number)
  /-- a text -/
  | string (s : String)
  /-- a list of values -/
  | array (items : List Json)
  /-- named values, no name twice -/
  | object (fields : List (String × Json))

/-- Fields of an object, in order. -/
abbrev Fields := List (String × Json)

namespace Json

instance : Inhabited Json := ⟨.null⟩

/-- The value of a field. -/
def field? (fields : Fields) (name : String) : Option Json :=
  (fields.find? fun f => f.1 == name).map Prod.snd

/-- The fields after one is written: a field already there keeps its place. -/
def setField (fields : Fields) (name : String) (value : Json) : Fields :=
  if fields.any fun f => f.1 == name then
    fields.map fun f => if f.1 == name then (name, value) else f
  else fields ++ [(name, value)]

/-- Whether a value counts as set: zero, `false`, the null value and whatever is empty do not. -/
def isSet : Json → Bool
  | null => false
  | bool b => b
  | number (.whole n) => n != 0
  | number (.real x) => !(x == 0.0)
  | string s => s != ""
  | array items => !items.isEmpty
  | object fields => !fields.isEmpty

/-- The kind of a value, as messages name it. -/
def kind : Json → String
  | null => "NoneType"
  | bool _ => "bool"
  | number (.whole _) => "int"
  | number (.real _) => "float"
  | string _ => "str"
  | array _ => "list"
  | object _ => "dict"

mutual

/-- A value inside a message or inside another value. -/
def shown : Json → List Char
  | null => "None".toList
  | bool true => "True".toList
  | bool false => "False".toList
  | number n => n.text
  | string s => quotedChars s.toList
  | array items => '[' :: shownItems items ++ [']']
  | object fields => '\x7b' :: shownFields fields ++ ['\x7d']

/-- Values with commas between them. -/
def shownItems : List Json → List Char
  | [] => []
  | [v] => shown v
  | v :: rest => shown v ++ ',' :: ' ' :: shownItems rest

/-- Named values with commas between them. -/
def shownFields : List (String × Json) → List Char
  | [] => []
  | [(name, v)] => quotedChars name.toList ++ ':' :: ' ' :: shown v
  | (name, v) :: rest =>
    quotedChars name.toList ++ ':' :: ' ' :: shown v ++ ',' :: ' ' :: shownFields rest

end

/-- The number that a truth value counts as. -/
def truthNumber (b : Bool) : Number := .whole (if b then 1 else 0)

mutual

/-- Equality of value: numbers by what they are, truth values as the numbers zero and one, objects
whatever the order of their fields. -/
def same : Json → Json → Bool
  | null, null => true
  | bool a, bool b => a == b
  | bool a, number b => (truthNumber a).same b
  | number a, bool b => a.same (truthNumber b)
  | number a, number b => a.same b
  | string s, string t => s == t
  | array items, array others => sameItems items others
  | object fields, object others => fields.length == others.length && sameFields fields others
  | _, _ => false

/-- Equality of value, item by item. -/
def sameItems : List Json → List Json → Bool
  | [], [] => true
  | v :: rest, w :: others => same v w && sameItems rest others
  | _, _ => false

/-- Whether each field is one of the others, with the same value. -/
def sameFields : List (String × Json) → List (String × Json) → Bool
  | [], _ => true
  | (name, v) :: rest, others =>
    match field? others name with
    | some w => same v w && sameFields rest others
    | none => false

end

/-- A value on its own: a text without quotes. -/
def plain : Json → String
  | string s => s
  | v => String.ofList (shown v)

end Json

end FlowCanvas
