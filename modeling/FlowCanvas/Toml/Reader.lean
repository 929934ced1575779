import FlowCanvas.Json.Reader
import FlowCanvas.Toml.Basic

/-!
# Reading TOML

A reader for documents. A statement stands on a line of its own; blanks and remarks around it do not
count. Each part of the reader takes the text that is left and returns what it has read with the
text after it. A number or a moment is the longest text at hand that is one, and what is left over
makes the line malformed.

Values nest, so their reader takes fuel: the length of the text, which is never used up because
every level of nesting begins with a character of its own. How deep they may nest is another matter:
lists and tables in braces take of a fixed room, and a text that has none left is not read on.
-/

namespace FlowCanvas.Toml

open Text

/-- Why a text is no document. -/
inductive Fault where
  /-- it breaks a rule -/
  | malformed
  /-- a whole number has too many digits -/
  | tooManyDigits (digits : Nat)
  /-- values are too deep inside each other -/
  | tooDeep
  deriving DecidableEq, Repr

/-- What can be read of a text, unless it breaks a rule. -/
abbrev Reading : Type → Type := Except Fault

/-- A broken rule. -/
def broken {β : Type} : Reading β := .error .malformed

/-- A result that is there only if no rule is broken. -/
def orBroken {β : Type} : Option β → Reading β
  | some b => .ok b
  | none => broken

/-! ### Characters -/

/-- A blank within a line. -/
def isSpace (c : Char) : Bool := c == ' ' || c == '\t'

/-- A blank or the end of a line. -/
def isGap (c : Char) : Bool := isSpace c || c == '\n'

/-- A character that may not stand in a text on one line. -/
def isControl (c : Char) : Bool := (decide (c.toNat < 0x20) || c.toNat == 0x7F) && c != '\t'

/-- A character that may not stand in a text over several lines. -/
def isControlInLines (c : Char) : Bool := isControl c && c != '\n'

/-- A character of a key without quotes. -/
def isBare (c : Char) : Bool :=
  let n := c.toNat
  isDigit c || decide (65 ≤ n ∧ n ≤ 90) || decide (97 ≤ n ∧ n ≤ 122) || c == '-' || c == '_'

/-- The text after `lead`, if that stands in front. -/
def after? (lead s : List Char) : Option (List Char) :=
  if lead.isPrefixOf s then some (s.drop lead.length) else none

/-- A text without a remark in front of it. -/
def skipRemark (s : List Char) : Reading (List Char) :=
  match s with
  | '#' :: rest =>
    if (rest.takeWhile (· != '\n')).any isControl then broken
    else .ok (rest.dropWhile (· != '\n'))
  | s => .ok s

/-- A text without the blanks, line ends and remarks in front of it; `fuel` bounds their number. -/
def skipGaps : (fuel : Nat) → List Char → Reading (List Char)
  | 0, s => .ok s
  | fuel + 1, s =>
    (skipRemark (s.dropWhile isGap)).bind fun rest =>
      if rest.length = s.length then .ok rest else skipGaps fuel rest

/-- A text with every line ended by a single character. -/
def joinLineEnds : List Char → List Char
  | '\r' :: '\n' :: rest => '\n' :: joinLineEnds rest
  | c :: rest => c :: joinLineEnds rest
  | [] => []

/-! ### Texts -/

/-- The character that a backslash and a letter stand for. -/
def simpleEscape? : Char → Option Char
  | 'b' => some '\x08'
  | 't' => some '\t'
  | 'n' => some '\n'
  | 'f' => some '\x0c'
  | 'r' => some '\r'
  | '\x22' => some '\x22'
  | '\\' => some '\\'
  | _ => none

/-- The character with a number of `width` hexadecimal digits. -/
def hexChar (width : Nat) (s : List Char) : Reading (Char × List Char) :=
  let digits := s.take width
  match digits.mapM hexValue? with
  | none => broken
  | some values =>
    let n := values.foldl (fun acc v => 16 * acc + v) 0
    if digits.length = width ∧ (n < 0xD800 ∨ (0xE000 ≤ n ∧ n < 0x110000)) then
      .ok (Char.ofNat n, s.drop width)
    else broken

/-- What a backslash stands for, from the character after it on. -/
def escape (s : List Char) : Reading (Char × List Char) :=
  match s with
  | 'u' :: rest => hexChar 4 rest
  | 'U' :: rest => hexChar 8 rest
  | c :: rest => (orBroken (simpleEscape? c)).map fun c => (c, rest)
  | [] => broken

/-- The text after a backslash that ends its line, without the blanks and lines that follow. -/
def joinLines? (s : List Char) : Option (Reading (List Char)) :=
  match s with
  | [] => none
  | c :: _ =>
    if isGap c then
      some (match s.dropWhile isSpace with
        | [] => .ok []
        | '\n' :: rest => .ok (rest.dropWhile isGap)
        | _ => broken)
    else none

/-- A text on one line up to its closing quote, with escapes; `fuel` bounds its length. -/
def quotedLine : (fuel : Nat) → List Char → Reading (List Char × List Char)
  | 0, _ => broken
  | fuel + 1, s =>
    match s with
    | [] => broken
    | '\x22' :: rest => .ok ([], rest)
    | '\\' :: rest => do
      let (c, rest) ← escape rest
      let (cs, rest) ← quotedLine fuel rest
      return (c :: cs, rest)
    | c :: rest =>
      if isControl c then broken
      else (quotedLine fuel rest).map fun r => (c :: r.1, r.2)

/-- A text over several lines up to its three closing quotes, with escapes; `fuel` bounds its
length. -/
def quotedLines : (fuel : Nat) → List Char → Reading (List Char × List Char)
  | 0, _ => broken
  | fuel + 1, s =>
    match s with
    | [] => broken
    | '\x22' :: '\x22' :: '\x22' :: rest => .ok ([], rest)
    | '\\' :: rest =>
      match joinLines? rest with
      | some joined => joined.bind (quotedLines fuel)
      | none => do
        let (c, rest) ← escape rest
        let (cs, rest) ← quotedLines fuel rest
        return (c :: cs, rest)
    | c :: rest =>
      if isControlInLines c then broken
      else (quotedLines fuel rest).map fun r => (c :: r.1, r.2)

/-- A text on one line up to its closing apostrophe. -/
def literalLine (s : List Char) : Reading (List Char × List Char) :=
  let text := s.takeWhile (· != '\x27')
  match s.dropWhile (· != '\x27') with
  | [] => broken
  | _ :: rest => if text.any isControl then broken else .ok (text, rest)

/-- A text over several lines up to its three closing apostrophes. -/
def literalLines : List Char → Reading (List Char × List Char)
  | [] => broken
  | '\x27' :: '\x27' :: '\x27' :: rest => .ok ([], rest)
  | c :: rest =>
    if isControlInLines c then broken else (literalLines rest).map fun r => (c :: r.1, r.2)

/-- A text with up to two quotes more that stand behind the three closing ones. -/
def withSpareQuotes (quote : Char) (r : List Char × List Char) : List Char × List Char :=
  let spare := (r.2.take 2).takeWhile (· == quote)
  (r.1 ++ spare, r.2.drop spare.length)

/-- A text without the line end right behind its opening quotes. -/
def dropFirstLineEnd : List Char → List Char
  | '\n' :: rest => rest
  | s => s

/-- A text in quotes or apostrophes, from the first of them on. -/
def text (s : List Char) : Reading (String × List Char) :=
  let result : Reading (List Char × List Char) := match s with
    | '\x22' :: '\x22' :: '\x22' :: rest =>
      (quotedLines (s.length + 1) (dropFirstLineEnd rest)).map (withSpareQuotes '\x22')
    | '\x22' :: rest => quotedLine (s.length + 1) rest
    | '\x27' :: '\x27' :: '\x27' :: rest =>
      (literalLines (dropFirstLineEnd rest)).map (withSpareQuotes '\x27')
    | '\x27' :: rest => literalLine rest
    | _ => broken
  result.map fun r => (String.ofList r.1, r.2)

/-! ### Keys -/

/-- A name in a key. -/
def name (s : List Char) : Reading (String × List Char) :=
  match s with
  | '\x22' :: rest => (quotedLine (s.length + 1) rest).map fun r => (String.ofList r.1, r.2)
  | '\x27' :: rest => (literalLine rest).map fun r => (String.ofList r.1, r.2)
  | s =>
    match s.span isBare with
    | ([], _) => broken
    | (cs, rest) => .ok (String.ofList cs, rest)

/-- A key: names with dots between them, and blanks behind; `fuel` bounds their number. -/
def keyNames : (fuel : Nat) → List Char → Reading (Key × List Char)
  | 0, _ => broken
  | fuel + 1, s => do
    let (first, rest) ← name s
    match rest.dropWhile isSpace with
    | '.' :: rest =>
      let (others, rest) ← keyNames fuel (rest.dropWhile isSpace)
      return (first :: others, rest)
    | rest => return ([first], rest)

/-- A key. -/
def key (s : List Char) : Reading (Key × List Char) := keyNames (s.length + 1) s

/-! ### Moments -/

/-- A number of `width` decimal digits between two bounds, both included. -/
def field (width low high : Nat) (s : List Char) : Option (Nat × List Char) :=
  let digits := s.take width
  let n := digitsValue digits
  if digits.length = width ∧ digits.all isDigit ∧ low ≤ n ∧ n ≤ high then some (n, s.drop width)
  else none

/-- The text after a time of day. -/
def afterTime? (s : List Char) : Option (List Char) := do
  let (_, s) ← field 2 0 23 s
  let s ← after? [':'] s
  let (_, s) ← field 2 0 59 s
  let s ← after? [':'] s
  let (_, s) ← field 2 0 59 s
  return match s with
    | '.' :: d :: rest => if isDigit d then rest.dropWhile isDigit else s
    | s => s

/-- The text after the distance of a time zone, if there is one. -/
def afterZone (s : List Char) : List Char :=
  match s with
  | [] => []
  | c :: rest =>
    if c = 'Z' ∨ c = 'z' then rest
    else if c = '+' ∨ c = '-' then
      (do
        let (_, rest) ← field 2 0 23 rest
        let rest ← after? [':'] rest
        let (_, rest) ← field 2 0 59 rest
        return rest : Option (List Char)).getD s
    else s

/-- How many days a month has. -/
def daysIn (year month : Nat) : Nat :=
  if month = 2 then if year % 4 = 0 ∧ (year % 100 ≠ 0 ∨ year % 400 = 0) then 29 else 28
  else if month = 4 ∨ month = 6 ∨ month = 9 ∨ month = 11 then 30
  else 31

/-- A date with whether there is such a day, and the text after it. -/
def date? (s : List Char) : Option (Bool × List Char) := do
  let (year, s) ← field 4 0 9999 s
  let s ← after? ['-'] s
  let (month, s) ← field 2 1 12 s
  let s ← after? ['-'] s
  let (day, s) ← field 2 1 31 s
  return (decide (1 ≤ year ∧ day ≤ daysIn year month), s)

/-- The text after the time that follows a date, if one does. -/
def afterDateTime (s : List Char) : List Char :=
  match s with
  | [] => []
  | c :: rest =>
    if c = 'T' ∨ c = 't' ∨ c = ' ' then
      match afterTime? rest with
      | some rest => afterZone rest
      | none => s
    else s

/-- A date, a time or both, if the text starts with one. -/
def moment? (s : List Char) : Option (Reading (Item × List Char)) :=
  match date? s with
  | some (real, rest) =>
    some (if real then .ok (.moment, afterDateTime rest) else broken)
  | none => (afterTime? s).map fun rest => .ok (.moment, rest)

/-! ### Numbers -/

/-- The rest of digits with single underscores between them, and the text after them; `late` says
whether a digit has just been read. -/
def moreGroups (isDigit : Char → Bool) : (late : Bool) → List Char → List Char × List Char
  | _, [] => ([], [])
  | late, c :: rest =>
    if isDigit c then
      let (ds, rest) := moreGroups isDigit true rest
      (c :: ds, rest)
    else if late && c == '_' && rest.head?.any isDigit then moreGroups isDigit false rest
    else ([], c :: rest)

/-- Digits with single underscores between them, and the text after them. -/
def groups (isDigit : Char → Bool) (s : List Char) : List Char × List Char :=
  moreGroups isDigit false s

/-- The whole number of digits to a base that is a power of two. -/
def basedNumber (base : Nat) (isDigit : Char → Bool) (s : List Char) : Option (Item × List Char) :=
  match groups isDigit s with
  | ([], _) => none
  | (ds, rest) =>
    some (.whole ((ds.filterMap hexValue?).foldl (fun acc v => base * acc + v) 0 : Nat), rest)

/-- A number with a letter for its base. -/
def lettered? : List Char → Option (Item × List Char)
  | '0' :: 'x' :: rest => basedNumber 16 (fun c => (hexValue? c).isSome) rest
  | '0' :: 'b' :: rest => basedNumber 2 (fun c => c == '0' || c == '1') rest
  | '0' :: 'o' :: rest => basedNumber 8 (fun c => (digitValue? c).any fun v => decide (v < 8)) rest
  | _ => none

/-- The digits in front of the point: none of several may be a leading zero. -/
def wholeDigits (s : List Char) : List Char × List Char :=
  match s with
  | '0' :: rest => (['0'], rest)
  | s => groups isDigit s

/-- The digits behind the point, if there is a point with digits behind it. -/
def fractionDigits (s : List Char) : List Char × List Char :=
  match s with
  | '.' :: rest =>
    match groups isDigit rest with
    | ([], _) => ([], s)
    | r => r
  | s => ([], s)

/-- The exponent, if there is one. -/
def exponent? (s : List Char) : Option Int × List Char :=
  match s with
  | [] => (none, [])
  | c :: rest =>
    if c = 'e' ∨ c = 'E' then
      let (negative, rest) := Numeral.sign rest
      match groups isDigit rest with
      | ([], _) => (none, s)
      | (ds, rest) =>
        (some (if negative then -(digitsValue ds : Int) else digitsValue ds), rest)
    else (none, s)

/-- A decimal number, if the text starts with one. -/
def decimal? (s : List Char) : Option (Reading (Item × List Char)) :=
  let (negative, s) := Numeral.sign s
  match wholeDigits s with
  | ([], _) => none
  | (digits, rest) =>
    let (fraction, rest) := fractionDigits rest
    let (exponent, rest) := exponent? rest
    some (if fraction = [] ∧ exponent = none then
        if digitLimit < digits.length then .error (.tooManyDigits digits.length)
        else
          let n : Int := digitsValue digits
          .ok (.whole (if negative then -n else n), rest)
      else
        .ok (.real (Numeral.nearest negative (digitsValue (digits ++ fraction))
          (exponent.getD 0 - fraction.length)), rest))

/-- Infinity and what is no number, if the text starts with one of them. -/
def special? (s : List Char) : Option (Item × List Char) :=
  let (negative, rest) := Numeral.sign s
  match after? ['i', 'n', 'f'] rest, after? ['n', 'a', 'n'] rest with
  | some rest, _ => some (.real (Binary64.infinity negative), rest)
  | _, some rest => some (.real Numeral.nan.toFloat, rest)
  | none, none => none

/-- A value that is neither a text nor made of others. -/
def plain (s : List Char) : Reading (Item × List Char) :=
  match after? "true".toList s, after? "false".toList s, moment? s with
  | some rest, _, _ => .ok (.truth true, rest)
  | _, some rest, _ => .ok (.truth false, rest)
  | _, _, some moment => moment
  | none, none, none =>
    match lettered? s, decimal? s, special? s with
    | some r, _, _ => .ok r
    | _, some number, _ => number
    | _, _, some r => .ok r
    | none, none, none => broken

/-! ### Values -/

/-- The room for values inside each other. -/
def depthLimit : Nat := 975

/-- What a list takes of the room. -/
def listDepth : Nat := 2

/-- What a table in braces takes of the room. -/
def inlineDepth : Nat := 3

/-- The room that is left when `depth` of it is taken. -/
def take (depth room : Nat) : Reading Nat :=
  if room < depth then .error .tooDeep else .ok (room - depth)

mutual

/-- A value; `fuel` bounds the nesting and the number of items. -/
def value : (fuel room : Nat) → List Char → Reading (Item × List Char)
  | 0, _, _ => broken
  | fuel + 1, room, s =>
    match s with
    | '[' :: rest => do
      let (items, rest) ← listItems fuel (← take listDepth room) rest
      return (.list items, rest)
    | '\x7b' :: rest => do
      let room ← take inlineDepth room
      match rest.dropWhile isSpace with
      | '\x7d' :: rest => return (.inline [], rest)
      | rest =>
        let (es, rest) ← inlineEntries fuel room [] rest
        return (.inline es, rest)
    | c :: _ =>
      if c = '\x22' ∨ c = '\x27' then (text s).map fun r => (.text r.1, r.2) else plain s
    | [] => broken

/-- The items of a list up to its closing bracket. -/
def listItems : (fuel room : Nat) → List Char → Reading (List Item × List Char)
  | 0, _, _ => broken
  | fuel + 1, room, s => do
    match ← skipGaps s.length s with
    | ']' :: rest => return ([], rest)
    | rest =>
      let (item, rest) ← value fuel room rest
      match ← skipGaps rest.length rest with
      | ']' :: rest => return ([item], rest)
      | ',' :: rest =>
        let (items, rest) ← listItems fuel room rest
        return (item :: items, rest)
      | _ => broken

/-- The entries of a table in braces after those read so far, up to its closing brace. -/
def inlineEntries : (fuel room : Nat) → Entries → List Char → Reading (Entries × List Char)
  | 0, _, _, _ => broken
  | fuel + 1, room, es, s => do
    let (path, rest) ← key s
    match rest with
    | '=' :: rest =>
      let (item, rest) ← value fuel room (rest.dropWhile isSpace)
      let es ← orBroken (es.assign item path)
      match rest.dropWhile isSpace with
      | '\x7d' :: rest => return (es, rest)
      | ',' :: rest => inlineEntries fuel room es (rest.dropWhile isSpace)
      | _ => broken
    | _ => broken

end

/-! ### Documents -/

/-- A statement, from its first character on. -/
def statement (d : Draft) (s : List Char) : Reading (Draft × List Char) :=
  match s with
  | '[' :: '[' :: rest => do
    let (path, rest) ← key (rest.dropWhile isSpace)
    let rest ← orBroken (after? [']', ']'] rest)
    return (← orBroken (d.openNext path), rest)
  | '[' :: rest => do
    let (path, rest) ← key (rest.dropWhile isSpace)
    let rest ← orBroken (after? [']'] rest)
    return (← orBroken (d.openTable path), rest)
  | '#' :: _ => .ok (d, s)
  | s => do
    let (path, rest) ← key s
    let rest ← orBroken (after? ['='] rest)
    let (item, rest) ← value (rest.length + 1) depthLimit (rest.dropWhile isSpace)
    return (← orBroken (d.assign path item), rest)

/-- The statements of a text, one to a line; `fuel` bounds their number. -/
def statements : (fuel : Nat) → Draft → List Char → Reading Draft
  | 0, _, _ => broken
  | fuel + 1, d, s =>
    match s.dropWhile isSpace with
    | [] => .ok d
    | '\n' :: rest => statements fuel d rest
    | s => do
      let (d, rest) ← statement d s
      match ← skipRemark (rest.dropWhile isSpace) with
      | [] => return d
      | '\n' :: rest => statements fuel d rest
      | _ => broken

/-- The document that a text writes. -/
def read (s : List Char) : Reading Entries :=
  let s := joinLineEnds s
  (statements (s.length + 1) .empty s).map Draft.entries

end FlowCanvas.Toml
