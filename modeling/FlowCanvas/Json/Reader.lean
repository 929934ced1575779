import FlowCanvas.Json.Basic
import FlowCanvas.Number.Numeral

/-!
# Reading JSON

A reader for JSON values that finds the first character at fault. Each part of it takes the text
that is left and returns a value with the text after it, which is shorter; so the whole reader ends,
and a place in the text is told by how many characters are left there. `NaN` and the two infinities
are numbers, an integer may have no more than `digitLimit` digits, and lists and objects may stand
inside each other no deeper than `depthLimit`; a text that goes deeper is not read on.
-/

namespace FlowCanvas.Json

open Text

/-- What is wrong with a text. -/
inductive Problem where
  /-- a value was expected -/
  | value
  /-- the name of a field was expected -/
  | name
  /-- a colon was expected after the name of a field -/
  | colon
  /-- a comma or a closing bracket was expected -/
  | comma
  /-- text after the end of the value -/
  | extra
  /-- a string without an end -/
  | unterminated
  /-- a control character inside a string -/
  | control
  /-- a backslash before a character that needs none -/
  | escape
  /-- not four hexadecimal digits -/
  | unitEscape
  /-- a byte order mark in front -/
  | mark
  deriving DecidableEq, Repr

/-- The wording of a problem. -/
def Problem.message : Problem → String
  | value => "Expecting value"
  | name => "Expecting property name enclosed in double quotes"
  | colon => "Expecting ':' delimiter"
  | comma => "Expecting ',' delimiter"
  | extra => "Extra data"
  | unterminated => "Unterminated string starting at"
  | control => "Invalid control character at"
  | escape => "Invalid \\escape"
  | unitEscape => "Invalid \\uXXXX escape"
  | mark => "Unexpected UTF-8 BOM (decode using utf-8-sig)"

/-- The greatest number of lists and objects that are open at once. -/
def depthLimit : Nat := 990

/-- Why a text could not be read. -/
inductive Fault where
  /-- a problem, at the character with `left` characters from it to the end -/
  | malformed (problem : Problem) (left : Nat)
  /-- an integer with too many digits -/
  | tooManyDigits (digits : Nat)
  /-- lists and objects inside each other beyond the limit -/
  | tooDeep
  deriving DecidableEq, Repr

/-- What is read from `s`: a value and the rest of the text, which is shorter. -/
abbrev Step (β : Type) (s : List Char) :=
  Except Fault (β × { r : List Char // r.length < s.length })

/-- The blanks of JSON. -/
def isSpace (c : Char) : Bool := c == ' ' || c == '\n' || c == '\r' || c == '\t'

theorem length_dropWhile_le (p : Char → Bool) (s : List Char) :
    (s.dropWhile p).length ≤ s.length := by
  induction s with
  | nil => simp
  | cons c s ih =>
    simp only [List.dropWhile_cons]
    split
    · exact Nat.le_succ_of_le ih
    · exact Nat.le_refl _

/-- A text without the blanks in front. -/
def skip (s : List Char) : { r : List Char // r.length ≤ s.length } :=
  ⟨s.dropWhile isSpace, length_dropWhile_le _ _⟩

/-- The text after the character `c`, if it starts with that. -/
def after? (c : Char) (s : List Char) : Option { r : List Char // r.length < s.length } :=
  match s with
  | [] => none
  | d :: r => if d = c then some ⟨r, Nat.lt_succ_self _⟩ else none

/-- A problem at the start of `s`. -/
def problem {β : Type} (p : Problem) (s : List Char) : Except Fault β :=
  .error (.malformed p s.length)

/-! ### Strings -/

/-- The character that a backslash and a letter stand for. -/
def simpleEscape? (c : Char) : Option Char :=
  if c = '\x22' ∨ c = '\\' ∨ c = '/' then some c
  else if c = 'b' then some '\x08'
  else if c = 'f' then some '\x0c'
  else if c = 'n' then some '\n'
  else if c = 'r' then some '\r'
  else if c = 't' then some '\t'
  else none

/-- The unit that four hexadecimal digits write. -/
def unit? (a b c d : Char) : Option Nat := do
  let a ← hexValue? a
  let b ← hexValue? b
  let c ← hexValue? c
  let d ← hexValue? d
  return ((a * 16 + b) * 16 + c) * 16 + d

/-- Whether a unit is the first of a pair. -/
def isHigh (n : Nat) : Bool := decide (0xD800 ≤ n) && decide (n < 0xDC00)

/-- Whether a unit is the second of a pair. -/
def isLow (n : Nat) : Bool := decide (0xDC00 ≤ n) && decide (n < 0xE000)

/-- The character of a unit. Half of a pair on its own is no character and gives the replacement
character. Here the reader departs from the program, whose texts hold any code points: there half of
a pair is kept as it is. Texts that escape no half pairs are read alike. -/
def unitChar (n : Nat) : Char :=
  if isHigh n || isLow n then '\uFFFD' else Char.ofNat n

/-- The second unit of a pair, if an escape for one comes first. -/
def lowUnit (s : List Char) :
    Except Fault (Option (Nat × { r : List Char // r.length < s.length })) :=
  match s with
  | '\\' :: 'u' :: a :: b :: c :: d :: e :: rest =>
    match unit? a b c d with
    | none => .error (.malformed .unitEscape (rest.length + 6))
    | some n =>
      .ok (if isLow n then some (n, ⟨e :: rest, by simp only [List.length_cons]; omega⟩) else none)
  | _ => .ok none

/-- The character after a backslash and `u`. The text has to go on after the digits. -/
def unicodeEscape (s : List Char) : Step Char s :=
  match s with
  | a :: b :: c :: d :: e :: rest =>
    match unit? a b c d with
    | none => .error (.malformed .unitEscape (rest.length + 6))
    | some n =>
      match if isHigh n then lowUnit (e :: rest) else .ok none with
      | .error e => .error e
      | .ok (some (m, ⟨r, _⟩)) =>
        .ok (Char.ofNat (0x10000 + (n - 0xD800) * 0x400 + (m - 0xDC00)),
          ⟨r, by simp only [List.length_cons] at *; omega⟩)
      | .ok none => .ok (unitChar n, ⟨e :: rest, by simp only [List.length_cons]; omega⟩)
  | s => .error (.malformed .unitEscape (s.length + 1))

/-- The rest of a string, up to and with its closing quote; `opened` counts the characters from its
opening quote to the end of the text. -/
def stringRest (opened : Nat) (s : List Char) : Step (List Char) s :=
  match s with
  | [] => .error (.malformed .unterminated opened)
  | c :: rest =>
    if c = '\x22' then .ok ([], ⟨rest, Nat.lt_succ_self _⟩)
    else if c = '\\' then
      match rest with
      | [] => .error (.malformed .unterminated opened)
      | d :: rest =>
        if d = 'u' then
          match unicodeEscape rest with
          | .error e => .error e
          | .ok (x, ⟨r, _⟩) =>
            match stringRest opened r with
            | .error e => .error e
            | .ok (xs, ⟨r', _⟩) =>
              .ok (x :: xs, ⟨r', by simp only [List.length_cons]; omega⟩)
        else match simpleEscape? d with
          | none => .error (.malformed .escape (rest.length + 2))
          | some x =>
            match stringRest opened rest with
            | .error e => .error e
            | .ok (xs, ⟨r', _⟩) => .ok (x :: xs, ⟨r', by simp only [List.length_cons]; omega⟩)
    else if c.toNat < 0x20 then .error (.malformed .control (rest.length + 1))
    else
      match stringRest opened rest with
      | .error e => .error e
      | .ok (xs, ⟨r', _⟩) => .ok (c :: xs, ⟨r', by simp only [List.length_cons]; omega⟩)
termination_by s.length
decreasing_by all_goals (simp only [List.length_cons]; omega)

/-! ### Numbers -/

/-- The digits of a numeral in its parts. -/
structure Digits where
  /-- whether a minus sign stands in front -/
  negative : Bool
  /-- the digits in front of the point -/
  whole : List Char
  /-- the digits behind the point, if there is one -/
  fraction : Option (List Char)
  /-- the power of ten, if one is given -/
  exponent : Option Int

/-- The number of a numeral: whole if it has neither point nor exponent. -/
def Digits.number (d : Digits) : Except Fault Number :=
  match d.fraction, d.exponent with
  | none, none =>
    if digitLimit < d.whole.length then .error (.tooManyDigits d.whole.length)
    else .ok (.whole (if d.negative then -(digitsValue d.whole : Int) else digitsValue d.whole))
  | fraction, exponent =>
    let fraction := fraction.getD []
    .ok (.real (Numeral.nearest d.negative (digitsValue (d.whole ++ fraction))
      (exponent.getD 0 - fraction.length)))

/-- The digits behind a point, if a point with a digit behind it comes first. -/
def fractionPart : List Char → Option (List Char) × List Char
  | '.' :: c :: rest =>
    if isDigit c then (some (c :: rest.takeWhile isDigit), rest.dropWhile isDigit)
    else (none, '.' :: c :: rest)
  | s => (none, s)

/-- An exponent, if one with at least one digit comes first. -/
def exponentPart : List Char → Option Int × List Char
  | [] => (none, [])
  | c :: rest =>
    if c = 'e' ∨ c = 'E' then
      let (negative, after) := Numeral.sign rest
      let ds := after.takeWhile isDigit
      if ds = [] then (none, c :: rest)
      else (some (if negative then -(digitsValue ds : Int) else digitsValue ds),
        after.dropWhile isDigit)
    else (none, c :: rest)

theorem length_fractionPart_le (s : List Char) : (fractionPart s).2.length ≤ s.length := by
  unfold fractionPart
  split
  · split
    · have := length_dropWhile_le isDigit ‹_›
      simp only [List.length_cons]
      omega
    · exact Nat.le_refl _
  · exact Nat.le_refl _

theorem length_sign_le (s : List Char) : (Numeral.sign s).2.length ≤ s.length := by
  unfold Numeral.sign
  split <;> simp

theorem length_exponentPart_le (s : List Char) : (exponentPart s).2.length ≤ s.length := by
  unfold exponentPart
  split
  · exact Nat.le_refl _
  · next c rest =>
    split
    · simp only
      split
      · exact Nat.le_refl _
      · have h := length_dropWhile_le isDigit (Numeral.sign rest).2
        have := length_sign_le rest
        simp only [List.length_cons]
        omega
    · exact Nat.le_refl _

/-- The digits in front of a point: a zero, or digits that do not start with zero. -/
def wholePart? : (s : List Char) → Option (List Char × { r : List Char // r.length < s.length })
  | [] => none
  | c :: rest =>
    if c = '0' then some (['0'], ⟨rest, Nat.lt_succ_self _⟩)
    else if isDigit c then
      some (c :: rest.takeWhile isDigit,
        ⟨rest.dropWhile isDigit, Nat.lt_succ_of_le (length_dropWhile_le _ _)⟩)
    else none

/-- A minus sign, if one comes first. -/
def minusPart : List Char → Bool × List Char
  | '-' :: rest => (true, rest)
  | s => (false, s)

/-- A number at the start of a text. -/
def readNumber (s : List Char) : Step Number s :=
  let sign := minusPart s
  match wholePart? sign.2 with
  | none => problem .value s
  | some (whole, ⟨r, _⟩) =>
    let fraction := fractionPart r
    let exponent := exponentPart fraction.2
    if h : exponent.2.length < s.length then
      (Digits.number ⟨sign.1, whole, fraction.1, exponent.1⟩).map fun n => (n, ⟨exponent.2, h⟩)
    else problem .value s

/-! ### Values -/

/-- The words that are values, with their values. -/
def words : List (List Char × Json) :=
  [("null".toList, null), ("true".toList, bool true), ("false".toList, bool false),
   ("NaN".toList, number (.real (0.0 / 0.0))),
   ("Infinity".toList, number (.real (Binary64.infinity false))),
   ("-Infinity".toList, number (.real (Binary64.infinity true)))]

/-- A value that is a word, if the text starts with one. -/
def word? (s : List Char) : Option (Json × List Char) :=
  (words.find? fun w => w.1.isPrefixOf s).map fun w => (w.2, s.drop w.1.length)

mutual

/-- A value at the start of a text; `room` says how many more lists and objects may be opened inside
each other. -/
def readValue (room : Nat) (s : List Char) : Step Json s :=
  match s with
  | [] => problem .value []
  | c :: rest =>
    if c = '\x22' then
      match stringRest (rest.length + 1) rest with
      | .error e => .error e
      | .ok (xs, ⟨r, h⟩) => .ok (string (String.ofList xs), ⟨r, Nat.lt_succ_of_lt h⟩)
    else if c = '[' then
      match room with
      | 0 => .error .tooDeep
      | room + 1 =>
        match skip rest with
        | ⟨inside, _⟩ =>
          match after? ']' inside with
          | some ⟨r, _⟩ => .ok (array [], ⟨r, by simp only [List.length_cons]; omega⟩)
          | none =>
            match readItems room inside with
            | .error e => .error e
            | .ok (vs, ⟨r, _⟩) => .ok (array vs, ⟨r, by simp only [List.length_cons]; omega⟩)
    else if c = '\x7b' then
      match room with
      | 0 => .error .tooDeep
      | room + 1 =>
        match skip rest with
        | ⟨inside, _⟩ =>
          match after? '\x7d' inside with
          | some ⟨r, _⟩ => .ok (object [], ⟨r, by simp only [List.length_cons]; omega⟩)
          | none =>
            match readFields room inside [] with
            | .error e => .error e
            | .ok (fs, ⟨r, _⟩) => .ok (object fs, ⟨r, by simp only [List.length_cons]; omega⟩)
    else
      match word? (c :: rest) with
      | some (v, r) =>
        if h : r.length < (c :: rest).length then .ok (v, ⟨r, h⟩) else problem .value (c :: rest)
      | none => (readNumber (c :: rest)).map fun n => (number n.1, n.2)
termination_by (s.length, 0)
decreasing_by all_goals (simp only [List.length_cons]; omega)

/-- The items of a list, up to and with its closing bracket. -/
def readItems (room : Nat) (s : List Char) : Step (List Json) s :=
  match readValue room s with
  | .error e => .error e
  | .ok (v, ⟨r, _⟩) =>
    match skip r with
    | ⟨r, _⟩ =>
      match after? ']' r with
      | some ⟨r, _⟩ => .ok ([v], ⟨r, by omega⟩)
      | none =>
        match after? ',' r with
        | none => problem .comma r
        | some ⟨r, _⟩ =>
          match skip r with
          | ⟨r, _⟩ =>
            match readItems room r with
            | .error e => .error e
            | .ok (vs, ⟨r, _⟩) => .ok (v :: vs, ⟨r, by omega⟩)
termination_by (s.length, 1)

/-- The fields of an object, up to and with its closing brace, after the fields `before`. -/
def readFields (room : Nat) (s : List Char) (before : Fields) : Step Fields s :=
  match after? '\x22' s with
  | none => problem .name s
  | some ⟨r, _⟩ =>
    match stringRest s.length r with
    | .error e => .error e
    | .ok (name, ⟨r, _⟩) =>
      match skip r with
      | ⟨r, _⟩ =>
        match after? ':' r with
        | none => problem .colon r
        | some ⟨r, _⟩ =>
          match skip r with
          | ⟨r, _⟩ =>
            match readValue room r with
            | .error e => .error e
            | .ok (v, ⟨r, _⟩) =>
              match skip r with
              | ⟨r, _⟩ =>
                match after? '\x7d' r with
                | some ⟨r, _⟩ => .ok (setField before (String.ofList name) v, ⟨r, by omega⟩)
                | none =>
                  match after? ',' r with
                  | none => problem .comma r
                  | some ⟨r, _⟩ =>
                    match skip r with
                    | ⟨r, _⟩ =>
                      match readFields room r (setField before (String.ofList name) v) with
                      | .error e => .error e
                      | .ok (fs, ⟨r, _⟩) => .ok (fs, ⟨r, by omega⟩)
termination_by (s.length, 1)

end

/-- The value that a text writes. -/
def read (s : List Char) : Except Fault Json :=
  match s with
  | '\uFEFF' :: _ => problem .mark s
  | s =>
    match readValue depthLimit (skip s).1 with
    | .error e => .error e
    | .ok (v, ⟨r, _⟩) =>
      match (skip r).1 with
      | [] => .ok v
      | rest => problem .extra rest

/-! ### Places -/

/-- A place in a text: line and column from one, and offset from zero. -/
structure Place where
  /-- the line -/
  line : Nat
  /-- the column -/
  column : Nat
  /-- the offset -/
  offset : Nat
  deriving DecidableEq, Repr

/-- The place with `left` characters from it to the end. -/
def placeOf (s : List Char) (left : Nat) : Place :=
  let offset := s.length - left
  let before := s.take offset
  ⟨before.count '\n' + 1, (before.reverse.takeWhile (· ≠ '\n')).length + 1, offset⟩

/-- The wording of a place. -/
def Place.message (p : Place) : String :=
  "line " ++ toString p.line ++ " column " ++ toString p.column ++ " (char "
    ++ toString p.offset ++ ")"

end FlowCanvas.Json
