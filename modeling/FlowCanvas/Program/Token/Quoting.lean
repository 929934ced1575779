import FlowCanvas.Program.Token.Number
import FlowCanvas.Text.WordCharacter

/-!
# Strings in listings

How strings are opened and closed, and how long the parts are that mean something in them: escape
sequences, and the two kinds of places for values, one that a percent sign starts and one in braces.
A place counts only where it is well-formed; what is no place is text.
-/

namespace FlowCanvas.Token

open Text

/-- How a string is written. -/
structure Quoting where
  /-- the quotation mark -/
  mark : Char
  /-- whether three marks open and close it, so that it may go over several lines -/
  isTriple : Bool
  /-- whether a backslash stands for itself -/
  isRaw : Bool
  /-- whether braces in it hold expressions -/
  hasHoles : Bool
  /-- whether it holds octets and no characters -/
  isOctets : Bool
  deriving DecidableEq, Repr

/-! ### Opening and closing -/

/-- Whether a character is a quotation mark. -/
def isMark (c : Char) : Bool := c == '"' || c == '\x27'

/-- Letters that may stand before a string, and what they make of it. -/
structure Affix where
  /-- the letters in small -/
  letters : String
  /-- whether they make a backslash stand for itself -/
  isRaw : Bool
  /-- whether they make braces hold expressions -/
  hasHoles : Bool
  /-- whether they make it hold octets -/
  isOctets : Bool
  deriving DecidableEq, Repr

/-- The letters that may stand before a string. -/
def affixes : List Affix :=
  [⟨"", false, false, false⟩, ⟨"u", false, false, false⟩, ⟨"b", false, false, true⟩,
   ⟨"r", true, false, false⟩, ⟨"rb", true, false, true⟩, ⟨"br", true, false, true⟩,
   ⟨"f", false, true, false⟩, ⟨"t", false, true, false⟩, ⟨"rf", true, true, false⟩,
   ⟨"fr", true, true, false⟩, ⟨"rt", true, true, false⟩, ⟨"tr", true, true, false⟩]

/-- How a string is opened. -/
structure Opening where
  /-- the number of letters before the marks -/
  letters : Nat
  /-- the number of marks -/
  marks : Nat
  /-- the string that they open -/
  quoting : Quoting
  deriving DecidableEq, Repr

/-- The string that a text opens. -/
def opening? (s : List Char) : Option Opening := do
  let letters := s.takeWhile Char.isAlpha
  let affix ← affixes.find? fun x => x.letters.toList == letters.map Char.toLower
  let after := s.drop letters.length
  let mark ← after.head?
  let quoting (isTriple : Bool) : Quoting :=
    ⟨mark, isTriple, affix.isRaw, affix.hasHoles, affix.isOctets⟩
  if !isMark mark then none
  else if [mark, mark, mark].isPrefixOf after then some ⟨letters.length, 3, quoting true⟩
  else some ⟨letters.length, 1, quoting false⟩

/-- The number of characters up to the end of three marks. -/
def closing? (mark : Char) : List Char → Option Nat
  | [] => none
  | c :: rest =>
    if [mark, mark, mark].isPrefixOf (c :: rest) then some 3
    else (closing? mark rest).map (1 + ·)

/-- The lengths of the blanks, the letters and the marks with all between them, if a text starts
with a closed string of several lines that has no holes. -/
def documentLengths? (s : List Char) : Option (List Nat) := do
  let blanks := s.takeWhile isBlank
  let s := s.drop blanks.length
  let letters := s.takeWhile fun c => ['r', 'u', 'b'].contains c.toLower
  let s := s.drop letters.length
  let mark ← s.head?
  if 2 < letters.length || !isMark mark || !([mark, mark, mark].isPrefixOf s) then none
  else (closing? mark (s.drop 3)).map fun n => [blanks.length, letters.length, n + 3]

/-! ### Escape sequences -/

/-- The length of a sequence of hexadecimal digits behind a backslash and a letter, if there are
enough of them. -/
def hexEscape (digits : Nat) (s : List Char) : Nat :=
  if ((s.take digits).takeWhile fun c => (hexValue? c).isSome).length = digits then 2 + digits
  else 0

/-- Whether a character is a digit of base eight. -/
def isOctal (c : Char) : Bool := decide ('0' ≤ c) && decide (c ≤ '7')

/-- The length of the escape sequence that a text starts with; those that name a character by more
than two digits, or by its name, have no meaning among octets. -/
def escapeLength (isOctets : Bool) : List Char → Nat
  | '\\' :: c :: rest =>
    if "\\abfnrtv\"\x27\n".toList.contains c then 2
    else if c = 'x' then hexEscape 2 rest
    else if isOctal c then 1 + (((c :: rest).take 3).takeWhile isOctal).length
    else if isOctets then 0
    else if c = 'u' then hexEscape 4 rest
    else if c = 'U' then hexEscape 8 rest
    else if c = 'N' ∧ rest.head? = some '\x7b' then
      let name := rest.takeWhile fun c => c != '\x7d' && c != '\n'
      if (rest.drop name.length).head? = some '\x7d' then 3 + name.length else 0
    else 0
  | _ => 0

/-! ### Places for values -/

/-- A text without one of some characters at its start, if one stands there. -/
def skipOne (p : Char → Bool) : List Char → List Char
  | [] => []
  | c :: rest => if p c then rest else c :: rest

/-- A text without the number or the star at its start, if one stands there. -/
def skipAmount : List Char → List Char
  | '*' :: rest => rest
  | s => s.dropWhile isDigit

/-- What follows the name in brackets that a text starts with; the text if there is none. -/
def skipKey (s : List Char) : List Char :=
  match s with
  | '(' :: inner =>
    let name := inner.takeWhile isWordCharacter
    match name, inner.drop name.length with
    | _ :: _, ')' :: rest => rest
    | _, _ => s
  | _ => s

/-- What follows the point and the amount that a text starts with; the text if they are not there.
-/
def skipPlaces (s : List Char) : List Char :=
  match s with
  | '.' :: rest => if skipAmount rest = rest then s else skipAmount rest
  | _ => s

/-- The letters that say how a value is written behind a percent sign. -/
def percentLetters : List Char := "EFGXcdefgiorsaux%".toList

/-- The length of the place for a value that a percent sign starts: a name in brackets, signs, a
width, places, a size, and a letter, all but the last of them optional. -/
def percentLength (s : List Char) : Nat :=
  match s with
  | '%' :: rest =>
    let rest := (skipKey rest).dropWhile fun c => "-#0 +".toList.contains c
    let rest := skipOne (fun c => "hlL".toList.contains c) (skipPlaces (skipAmount rest))
    match rest with
    | c :: rest => if percentLetters.contains c then s.length - rest.length else 0
    | [] => 0
  | _ => 0

/-- What follows the names behind points and the keys in square brackets that a text starts with;
`count` bounds how many. -/
def skipPath : (count : Nat) → List Char → List Char
  | 0, s => s
  | count + 1, s =>
    match s with
    | '.' :: rest =>
      let name := rest.takeWhile isWordCharacter
      if name = [] then s else skipPath count (rest.drop name.length)
    | '[' :: rest =>
      let key := rest.takeWhile (· ≠ ']')
      match key, rest.drop key.length with
      | _ :: _, ']' :: rest => skipPath count rest
      | _, _ => s
    | _ => s

/-- What follows the alignment that a text starts with: a sign behind a character to fill with, or
alone. -/
def skipAlignment : List Char → List Char
  | c :: d :: rest =>
    if c ≠ '\n' ∧ isAlignment d then rest else if isAlignment c then d :: rest else c :: d :: rest
  | s => skipOne isAlignment s
where
  /-- Whether a sign says where a value stands in its place. -/
  isAlignment (c : Char) : Bool := "<>=^".toList.contains c

/-- What follows the wording of a value that a text starts with. -/
def skipWording (s : List Char) : List Char :=
  match s with
  | ':' :: rest =>
    let rest := skipOne (fun c => "-+ ".toList.contains c) (skipAlignment rest)
    let rest := (skipOne (· == '#') rest).dropWhile isFigure
    let rest := skipOne (· == ',') rest
    let rest := match rest with
      | '.' :: d :: digits => if isFigure d then digits.dropWhile isFigure else rest
      | _ => rest
    skipOne (fun c => "EFGXbcdefgnosx%".toList.contains c) rest
  | _ => s

/-- What follows the conversion that a text starts with. -/
def skipConversion (letters : List Char) (s : List Char) : List Char :=
  match s with
  | '!' :: c :: rest => if letters.contains c then rest else s
  | _ => s

/-- The length of the place for a value in braces: a name with what it is looked up by, a
conversion and a wording, all of them optional. A brace behind the colon is a character to fill with
if a whole wording follows, and else it ends the place. -/
def braceLength (s : List Char) : Nat :=
  match s with
  | '\x7b' :: inner =>
    let name := inner.takeWhile isWordCharacter
    let rest := inner.drop name.length
    let path := if name = [] then rest else skipPath rest.length rest
    let rest := skipConversion ['s', 'r', 'a'] path
    match skipWording rest, rest with
    | '\x7d' :: behind, _ => s.length - behind.length
    | _, ':' :: '\x7d' :: behind => s.length - behind.length
    | _, _ => 0
  | _ => 0

/-- The length of what ends an expression in a string: an equals sign, a conversion, and a brace or
the colon before a wording. -/
def holeEndLength (s : List Char) : Nat :=
  let rest := match s with
    | '=' :: rest => rest.dropWhile isBlank
    | _ => s
  match skipConversion ['s', 'r', 'a', 'f'] rest with
  | c :: rest => if c = '\x7d' ∨ c = ':' then s.length - rest.length else 0
  | [] => 0

end FlowCanvas.Token
