import FlowCanvas.Number.Power
import FlowCanvas.Program.Token.Quoting
import FlowCanvas.Text.CharacterName
import FlowCanvas.Text.Lines

/-!
# Literals

A tag in a title may hand values to what it calls. They have to be literals: numbers, texts, octets,
the constants, and tuples, sets and tables of literals. Nothing is done with the values, so a reader
only tells whether a text is a literal, and of which kind as far as that decides what may stand
around it: a sign stands before a number, a complex number is the sum of a real and an imaginary
one, and what a set or a table is looked up by is no set and no table.

A literal stands on one line unless it is in brackets; a backslash joins a line with the next one.
Lines of blanks and remarks may stand before it and behind it.

Such tags belong to the markup of the library for terminal output; the program writes none.
-/

namespace FlowCanvas

open Text

/-- What kind of literal has been read. -/
inductive Literal where
  /-- a real number; a vast one is a whole number that no double is near to -/
  | real (isSigned isVast : Bool)
  /-- an imaginary number without a sign -/
  | imaginary
  /-- another value that can be looked up -/
  | fixed
  /-- a set or a table, or a tuple that holds one -/
  | loose
  /-- the name of what makes sets, which is no value before it is called -/
  | setMaker
  deriving DecidableEq, Repr

namespace Literal

/-- What has been read, and the rest of the text. -/
abbrev Found (α : Type) := α × List Char

/-- The greatest number of brackets that are open at once. -/
def levelLimit : Nat := 200

/-! ### Gaps -/

/-- A text without the gap at its start: blanks, remarks, and line feeds behind a backslash unless
the text ends there. In brackets, of which `level` are open, other line feeds count too. -/
def skip (level : Nat) : List Char → List Char
  | [] => []
  | '\\' :: '\n' :: c :: rest => skip level (c :: rest)
  | c :: rest =>
    if c = ' ' ∨ c = '\t' ∨ c = '\x0c' ∨ (c = '\n' ∧ 0 < level) then skip level rest
    else if c = '#' then skip level (rest.dropWhile (· ≠ '\n'))
    else c :: rest
  termination_by s => s.length
  decreasing_by
    · simp
    · simp
    · have := (List.dropWhile_suffix (· ≠ '\n') (l := rest)).length_le
      rw [List.length_cons]
      exact Nat.lt_succ_of_le this

/-- A text without the lines of blanks and remarks at its start, if the first of the other lines is
not indented. `isIndented` tells whether blanks stand before the text on its line, and `isJoined`
whether they did before a backslash joined the line with the next one. -/
def unindented? (isIndented isJoined : Bool) : List Char → Option (List Char)
  | [] => none
  | '\\' :: '\n' :: c :: rest => unindented? isIndented (isJoined || isIndented) (c :: rest)
  | c :: rest =>
    if c = ' ' ∨ c = '\t' then unindented? true isJoined rest
    else if c = '\x0c' then unindented? false isJoined rest
    else if c = '\n' then unindented? false false rest
    else if c = '#' then unindented? isIndented isJoined (rest.dropWhile (· ≠ '\n'))
    else if isIndented || isJoined then none
    else some (c :: rest)
  termination_by s => s.length
  decreasing_by
    · simp
    · simp
    · simp
    · simp
    · have := (List.dropWhile_suffix (· ≠ '\n') (l := rest)).length_le
      rw [List.length_cons]
      exact Nat.lt_succ_of_le this

/-! ### Numbers -/

/-- Whether a whole number is so great that no double is near to it. -/
def isVast (n : Nat) : Bool := decide (twoTo 1024 - twoTo 970 ≤ n)

/-- The number that digits of a base write. -/
def valueOf (base : Nat) (digits : List Char) : Nat :=
  digits.foldl (fun n c => base * n + (hexValue? c).getD 0) 0

/-- The base that a letter behind a zero announces. -/
def base? (letter : Char) : Option Nat :=
  if (Token.radixDigit? letter).isNone then none
  else if letter.toLower = 'o' then some 8
  else if letter.toLower = 'b' then some 2
  else some 16

/-- The kind of a whole number, if it can be written so: one with a zero in front is zero, and there
may not be too many digits. -/
def whole? (digits : List Char) : Option Literal :=
  if digits.head? = some '0' then
    if digits.all (· == '0') then some (.real false false) else none
  else if digitLimit < digits.length then none
  else some (.real false (isVast (digitsValue digits)))

/-- A number without a sign. -/
def number? (s : List Char) : Option (Found Literal) :=
  let n := Token.numberLength s
  let digits := (s.take n).filter (· ≠ '_')
  let rest := s.drop n
  if n = 0 ∨ digits.any fun c => decide (127 < c.toNat) then none
  else
    match (digits.drop 1).head?.bind base? with
    | some base => some (.real false (isVast (valueOf base (digits.drop 2))), rest)
    | none =>
      if digits.getLast? = some 'j' then some (.imaginary, rest)
      else
        match rest with
        | 'j' :: rest => some (.imaginary, rest)
        | 'J' :: rest => some (.imaginary, rest)
        | _ =>
          if digits.all isDigit then (whole? digits).map fun kind => (kind, rest)
          else some (.real false false, rest)

/-! ### Texts -/

/-- Whether the escape sequence that a text starts with stands for a character: one that begins like
those that write a code point or a name has to go on like them. -/
def isSound (isOctets : Bool) (s : List Char) : Bool :=
  let sequence := s.take (Token.escapeLength isOctets s)
  match s with
  | '\\' :: 'x' :: _ => sequence != []
  | '\\' :: 'u' :: _ => isOctets || sequence != []
  | '\\' :: 'U' :: _ =>
    isOctets || (sequence != [] && decide (valueOf 16 (sequence.drop 2) ≤ 0x10ffff))
  | '\\' :: 'N' :: _ => isOctets || CharacterName.isKnown ((sequence.drop 3).dropLast)
  | _ => true

/-- What follows a text of which the opening marks have been read. -/
def afterText? (q : Token.Quoting) : List Char → Option (List Char)
  | [] => none
  | '\\' :: c :: rest =>
    if q.isOctets && decide (127 < c.toNat) then none
    else if q.isRaw || isSound q.isOctets ('\\' :: c :: rest) then afterText? q rest
    else none
  | c :: rest =>
    if q.isOctets && decide (127 < c.toNat) then none
    else if q.isTriple then
      if [q.mark, q.mark, q.mark].isPrefixOf (c :: rest) then some (rest.drop 2)
      else afterText? q rest
    else if c = q.mark then some rest
    else if c = '\n' then none
    else afterText? q rest

/-- One or more texts, or one or more runs of octets, one behind the other; `count` bounds how
many. -/
def texts? (level : Nat) : (count : Nat) → List Char → Option (List Char)
  | 0, _ => none
  | count + 1, s => do
    let opening ← Token.opening? s
    if opening.quoting.hasHoles then none
    else
      let rest ← afterText? opening.quoting (s.drop (opening.letters + opening.marks))
      let others := skip level rest
      match Token.opening? others with
      | none => some rest
      | some next =>
        if next.quoting.isOctets = opening.quoting.isOctets then texts? level count others else none

/-! ### Words -/

/-- The forms of a letter that count as that letter in a name: the long s, the raised and lowered
letters, the wide one, and those of mathematical alphabets. -/
def formsOf : Char → List Nat
  | 's' => [0x73, 0x17f, 0x2e2, 0x209b, 0xff53] ++ mathematical 18
  | 'e' => [0x65, 0x1d49, 0x2091, 0x212f, 0x2147, 0xff45] ++ (mathematical 4).erase 0x1d4ba
  | 't' => [0x74, 0x1d57, 0x209c, 0xff54] ++ mathematical 19
  | c => [c.toNat]
where
  /-- The small letter of a number in each of the thirteen mathematical alphabets. -/
  mathematical (letter : Nat) : List Nat :=
    (List.range 13).map fun n => 0x1d41a + 52 * n + letter

/-- Whether a word is a name, whatever the forms of its letters are. -/
def isNamed (name : String) (word : List Char) : Bool :=
  word.length == name.length
    && (word.zip name.toList).all fun x => (formsOf x.2).contains x.1.toNat

/-- Whether a character may be part of a word. -/
def isPart (c : Char) : Bool := c.isAlphanum || c == '_' || decide (127 < c.toNat)

/-- A literal that is a single word or sign. -/
def word? (s : List Char) : Option (Found Literal) :=
  let word := s.takeWhile isPart
  let rest := s.drop word.length
  if ["True", "False", "None"].any fun x => x.toList == word then some (.fixed, rest)
  else if isNamed "set" word then some (.setMaker, rest)
  else if "...".toList.isPrefixOf s then some (.fixed, s.drop 3)
  else none

/-! ### Values -/

/-- The kind of a tuple, by the kinds of its members. -/
def tuple? (members : List Literal) : Option Literal :=
  if members.contains .setMaker then none
  else some (if members.contains .loose then .loose else .fixed)

/-- The kind of a value behind a sign. -/
def signed? : Literal → Option Literal
  | .real false isVast => some (.real true isVast)
  | .imaginary => some .fixed
  | _ => none

/-- The kind of a sum. -/
def sum? : Literal → Literal → Option Literal
  | .real _ false, .imaginary => some .fixed
  | _, _ => none

mutual

/-- A literal with `level` brackets open around it; `depth` bounds how many readers may be at work
within each other. -/
def value (level : Nat) : (depth : Nat) → List Char → Option (Found Literal)
  | 0, _ => none
  | depth + 1, s => do
    let (kind, rest) ← term level depth (skip level s)
    match skip level rest with
    | c :: others =>
      if c = '+' ∨ c = '-' then
        let (second, rest) ← primary level depth (skip level others)
        (sum? kind second).map fun kind => (kind, rest)
      else some (kind, c :: others)
    | [] => some (kind, [])

/-- A literal that is no sum. -/
def term (level : Nat) : (depth : Nat) → List Char → Option (Found Literal)
  | 0, _ => none
  | depth + 1, s =>
    match s with
    | [] => none
    | c :: rest =>
      if c = '+' ∨ c = '-' then do
        let (kind, rest) ← primary level depth (skip level rest)
        (signed? kind).map fun kind => (kind, rest)
      else primary level depth s

/-- A literal that is no sum and has no sign, with the empty brackets that call it. -/
def primary (level : Nat) : (depth : Nat) → List Char → Option (Found Literal)
  | 0, _ => none
  | depth + 1, s => do
    let (kind, rest) ← atom level depth s
    match kind, skip level rest with
    | .setMaker, '(' :: others =>
      if levelLimit ≤ level then none
      else
        match skip (level + 1) others with
        | ')' :: others => some (.loose, others)
        | _ => none
    | _, _ => some (kind, rest)

/-- A literal that is not called. -/
def atom (level : Nat) : (depth : Nat) → List Char → Option (Found Literal)
  | 0, _ => none
  | depth + 1, s =>
    match s with
    | '(' :: rest =>
      if levelLimit ≤ level then none
      else do
        let ((members, isTuple), rest) ← members (level + 1) depth rest
        match members, isTuple with
        | [kind], false => some (kind, rest)
        | _, _ => (tuple? members).map fun kind => (kind, rest)
    | '\x7b' :: rest =>
      if levelLimit ≤ level then none
      else (entries (level + 1) depth none rest).map fun rest => (.loose, rest)
    | _ =>
      match number? s with
      | some found => some found
      | none =>
        match Token.opening? s with
        | some _ => (texts? level s.length s).map fun rest => (.fixed, rest)
        | none => word? s

/-- The members of a tuple up to its closing bracket, and whether there is a comma among them. -/
def members (level : Nat) : (depth : Nat) → List Char → Option (Found (List Literal × Bool))
  | 0, _ => none
  | depth + 1, s =>
    match skip level s with
    | ')' :: rest => some (([], false), rest)
    | s => do
      let (kind, rest) ← value level depth s
      match skip level rest with
      | ',' :: rest =>
        let ((more, _), rest) ← members level depth rest
        some ((kind :: more, true), rest)
      | ')' :: rest => some (([kind], false), rest)
      | _ => none

/-- The members of a set or the entries of a table up to the closing brace; `isTable` tells which of
the two it is once that is settled. -/
def entries (level : Nat) :
    (depth : Nat) → (isTable : Option Bool) → List Char → Option (List Char)
  | 0, _, _ => none
  | depth + 1, isTable, s =>
    match skip level s with
    | '\x7d' :: rest => some rest
    | s => do
      let (kind, rest) ← value level depth s
      let (found, rest) ← match skip level rest with
        | ':' :: rest => do
          let (content, rest) ← value level depth rest
          if content = .setMaker then none else some (true, rest)
        | _ => some (false, rest)
      if kind = .loose ∨ kind = .setMaker ∨ isTable = some !found then none
      else match skip level rest with
        | ',' :: rest => entries level depth (some found) rest
        | '\x7d' :: rest => some rest
        | _ => none

end

/-- What follows one or more literals with commas between them, which stand in no brackets. -/
def row? : (depth : Nat) → List Char → Option (List Char)
  | 0, _ => none
  | depth + 1, s => do
    let (kind, rest) ← value 0 depth s
    if kind = .setMaker then none
    else match skip 0 rest with
      | ',' :: rest =>
        match skip 0 rest with
        | [] => some []
        | '\n' :: rest => some ('\n' :: rest)
        | rest => row? depth rest
      | rest => some rest

/-- Whether a text is a literal, or a tuple of literals without brackets. -/
def isLiteral (s : List Char) : Bool :=
  let s := unifyLineEnds s
  !s.contains '\x00' &&
    match unindented? false false (s.dropWhile fun c => c == ' ' || c == '\t') with
    | none => false
    | some s =>
      match row? (8 * s.length + 8) s with
      | none => false
      | some rest =>
        match rest with
        | [] => true
        | '\n' :: rest => skip 1 rest == []
        | _ => false

end Literal

end FlowCanvas
