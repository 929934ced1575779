import FlowCanvas.Json.Basic

/-!
# JSON text

Writing a value. The text is pure ASCII: a character outside the printable part of ASCII is written
by its UTF-16 units, in hexadecimal. A compact text is one line; an indented one has every item on a
line of its own, and its commas end their lines.
-/

namespace FlowCanvas

open Text

/-- The words of JSON texts for what is no finite number. -/
def NumberWords.json : NumberWords := ⟨['N', 'a', 'N'], "Infinity".toList⟩

namespace Json

/-- A UTF-16 unit in hexadecimal. -/
def unitEscape (n : Nat) : List Char := '\\' :: 'u' :: hex 4 n

/-- A character inside a JSON string. -/
def escaped (c : Char) : List Char :=
  if c = '\x22' ∨ c = '\\' then ['\\', c]
  else if c = '\n' then ['\\', 'n']
  else if c = '\r' then ['\\', 'r']
  else if c = '\t' then ['\\', 't']
  else if c = '\x08' then ['\\', 'b']
  else if c = '\x0c' then ['\\', 'f']
  else if 0x20 ≤ c.toNat ∧ c.toNat < 0x7F then [c]
  else if c.toNat < 0x10000 then unitEscape c.toNat
  else
    let n := c.toNat - 0x10000
    unitEscape (0xD800 + n / 0x400) ++ unitEscape (0xDC00 + n % 0x400)

/-- A text as a JSON string. -/
def stringText (s : String) : List Char := '\x22' :: s.toList.flatMap escaped ++ ['\x22']

/-- A number in a JSON text. -/
def numberText : Number → List Char
  | .whole n => integer n
  | .real x => realText .json x

/-- How a text is laid out. -/
structure Layout where
  /-- blanks per level, or a single line -/
  indent : Option Nat
  deriving DecidableEq, Repr

namespace Layout

/-- On one line. -/
def compact : Layout := ⟨none⟩

/-- Two blanks per level. -/
def standard : Layout := ⟨some 2⟩

/-- The break before an item or a closing bracket at a level. -/
def newline (l : Layout) (level : Nat) : List Char :=
  match l.indent with
  | none => []
  | some n => '\n' :: List.replicate (n * level) ' '

/-- What stands between two items. -/
def comma (l : Layout) (level : Nat) : List Char :=
  match l.indent with
  | none => [',', ' ']
  | some _ => ',' :: l.newline level

end Layout

mutual

/-- The text of a value that stands at a level. -/
def render (l : Layout) (level : Nat) : Json → List Char
  | null => "null".toList
  | bool true => "true".toList
  | bool false => "false".toList
  | number n => numberText n
  | string s => stringText s
  | array [] => ['[', ']']
  | array (v :: rest) =>
    '[' :: l.newline (level + 1) ++ renderItems l (level + 1) (v :: rest) ++ l.newline level
      ++ [']']
  | object [] => ['\x7b', '\x7d']
  | object (f :: rest) =>
    '\x7b' :: l.newline (level + 1) ++ renderFields l (level + 1) (f :: rest) ++ l.newline level
      ++ ['\x7d']

/-- The texts of the items of a list. -/
def renderItems (l : Layout) (level : Nat) : List Json → List Char
  | [] => []
  | [v] => render l level v
  | v :: rest => render l level v ++ l.comma level ++ renderItems l level rest

/-- The texts of the fields of an object. -/
def renderFields (l : Layout) (level : Nat) : List (String × Json) → List Char
  | [] => []
  | [(name, v)] => stringText name ++ ':' :: ' ' :: render l level v
  | (name, v) :: rest =>
    stringText name ++ ':' :: ' ' :: render l level v ++ l.comma level ++ renderFields l level rest

end

/-- The text of a value. -/
def text (l : Layout) (v : Json) : String := String.ofList (render l 0 v)

end Json

end FlowCanvas
