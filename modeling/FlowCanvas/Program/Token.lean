import FlowCanvas.Program.Token.Quoting
import FlowCanvas.Program.Token.Word

/-!
# Tokens

A listing cut into the pieces that are coloured on their own: remarks, words, numbers, operators,
runs of blanks, and the parts of strings. An expression that stands in braces in a string is cut
like the listing itself. Words that announce a name, a module or a choice between patterns change
what the next pieces are, up to what they announce. Every other character is a piece of its own.

Where the pieces part is up to the highlighter that the library for terminal output uses, and is
written down here and in the modules below after what that highlighter does.

The main statement is `flatten_tokens`: the pieces together are the listing, so that colouring loses
nothing and adds nothing.
-/

namespace FlowCanvas.Token

open Text

/-- What a piece of a listing may lie in. -/
inductive Place where
  /-- in a string -/
  | quoted (q : Quoting)
  /-- in an expression in a string -/
  | hole
  /-- between brackets in such an expression -/
  | bracket
  /-- where a function is named -/
  | functionName
  /-- where a class is named; all up to its name is skipped -/
  | className
  /-- where modules are named that are taken in as a whole -/
  | modules
  /-- where a module is named of which parts are taken in -/
  | origin
  /-- behind a word that opens a choice between patterns -/
  | pattern
  deriving DecidableEq, Repr

/-- A part of a listing by its size. -/
structure Part where
  /-- the number of characters -/
  length : Nat
  /-- whether it is cut like a listing of its own, and is no single piece -/
  isListing : Bool
  deriving DecidableEq, Repr

/-- What a text starts with, and what it leads to. -/
structure Step where
  /-- the number of characters in the first piece, without its first one -/
  more : Nat
  /-- the parts behind the first piece -/
  others : List Part
  /-- what the next piece lies in, innermost first -/
  places : List Place
  deriving DecidableEq, Repr

namespace Step

/-- The number of characters in all parts. -/
def total (s : Step) : Nat := s.others.foldl (fun n p => n + p.length) (1 + s.more)

/-- A single piece. -/
def one (length : Nat) (places : List Place) : Step := ⟨length - 1, [], places⟩

/-- Pieces of some lengths; there is none of length zero. -/
def ofLengths (lengths : List Nat) (places : List Place) : Step :=
  match lengths.filter (0 < ·) with
  | [] => one 1 places
  | n :: rest => ⟨n - 1, rest.map (⟨·, false⟩), places⟩

/-- A single piece unless its length is zero. -/
def one? (length : Nat) (places : List Place) : Option Step :=
  if length = 0 then none else some (one length places)

end Step

/-! ### Strings -/

/-- Whether a character in a string ends a piece. -/
def isSign (q : Quoting) (c : Char) : Bool :=
  isMark c || c == '\\' || c == '\n' || c == '\x7b'
    || (if q.hasHoles then c == '\x7d' else c == '%')

/-- The next piece in a string, when neither an escape sequence nor the end of the string comes. -/
def innerStep (q : Quoting) (outer : List Place) (c : Char) (rest : List Char) : Step :=
  let here := .quoted q :: outer
  if c = '\n' then .one 1 (if q.isTriple then here else [])
  else if q.hasHoles then
    if c = '\x7b' then .one 1 (.hole :: here)
    else if isSign q c then .one 1 here
    else .one (1 + (rest.takeWhile fun c => !isSign q c).length) here
  else
    let value := max (percentLength (c :: rest)) (braceLength (c :: rest))
    if 0 < value then .one value here
    else if c = '\x7b' then .one (if rest.head? = some '\x7b' then 2 else 1) here
    else if isSign q c then .one 1 here
    else .one (1 + (rest.takeWhile fun c => !isSign q c).length) here

/-- The next piece in a string. -/
def quotedStep (q : Quoting) (outer : List Place) (c : Char) (rest : List Char) : Step :=
  let here := .quoted q :: outer
  let escape := if q.isRaw then 0 else escapeLength q.isOctets (c :: rest)
  let next := rest.head?
  if q.hasHoles ∧ (c = '\x7b' ∨ c = '\x7d') ∧ next = some c then .one 2 here
  else if 0 < escape then .one escape here
  else if q.isTriple then
    if [q.mark, q.mark, q.mark].isPrefixOf (c :: rest) then .one 3 outer
    else innerStep q outer c rest
  else if c = q.mark then .one 1 outer
  else if c = '\\' ∧ (next = some '\\' ∨ next = some q.mark ∨ next = some '\n') then .one 2 here
  else innerStep q outer c rest

/-! ### Expressions -/

/-- The operators of two characters. -/
def operators : List (List Char) := ["!=", "==", "<<", ">>", ":="].map String.toList

/-- The length of the next piece of an expression, unless it is a string; `before` is the character
before it. -/
def plainLength (before : Option Char) (c : Char) (rest : List Char) : Nat :=
  let number := numberLength (c :: rest)
  let word := expressionWordLength before (c :: rest)
  let name := nameLength (if c = '@' then rest else c :: rest)
  if c ≠ '\n' ∧ isBlank c then 1 + (rest.takeWhile fun c => c != '\n' && isBlank c).length
  else if 0 < number then number
  else if operators.contains (c :: rest.take 1) then 2
  else if 0 < word then word
  else if c = '@' then 1 + name
  else max 1 name

/-- The next pieces of an expression. -/
def plainStep (places : List Place) (before : Option Char) (c : Char) (rest : List Char) : Step :=
  match opening? (c :: rest) with
  | some o => .ofLengths [o.letters, o.marks] (.quoted o.quoting :: places)
  | none => .one (plainLength before c rest) places

/-- The next piece of an expression in a string; brackets open a place of their own. -/
def holeStep (outer : List Place) (before : Option Char) (c : Char) (rest : List Char) : Step :=
  let last := holeEndLength (c :: rest)
  if ['(', '[', '\x7b'].contains c then .one 1 (.bracket :: .hole :: outer)
  else if 0 < last then .one last outer
  else if isBlank c then .one (blankLength (c :: rest)) (.hole :: outer)
  else plainStep (.hole :: outer) before c rest

/-- The next piece between brackets in such an expression. -/
def bracketStep (outer : List Place) (before : Option Char) (c : Char) (rest : List Char) : Step :=
  if ['(', '[', '\x7b'].contains c then .one 1 (.bracket :: .bracket :: outer)
  else if [')', ']', '\x7d'].contains c then .one 1 outer
  else if isBlank c then .one (blankLength (c :: rest)) (.bracket :: outer)
  else plainStep (.bracket :: outer) before c rest

/-! ### Statements -/

/-- The length of a run of blanks, before each of which a backslash may stand. -/
def gapLength : List Char → Nat
  | [] => 0
  | '\\' :: c :: rest => if isBlank c then 2 + gapLength rest else 0
  | c :: rest => if isBlank c then 1 + gapLength rest else 0

/-- The words that announce something, with what they announce. -/
def announcers : List (String × Place) :=
  [("def", .functionName), ("class", .className), ("from", .origin), ("import", .modules)]

/-- A word that announces something and the gap behind it. -/
def announcement? (s : List Char) : Option Step := do
  let (word, place) ← announcers.find? fun x => x.1.toList.isPrefixOf s
  let gap := gapLength (s.drop word.length)
  if gap = 0 then none else some (.ofLengths [word.length, gap] [place])

/-- Whether what follows a word shows that it is a name, and does not open a choice between
patterns. -/
def isBarred (s : List Char) : Bool :=
  let s := s.dropWhile fun c => c == ' ' || c == '\t'
  s.head?.any (fun c => ":,;=^&|@~)]\x7d".toList.contains c)
    || decide (0 < wordLength barringWords s)

/-- A word at the start of a line that opens a choice between patterns, with the blanks before it.
-/
def choice? (s : List Char) : Option Step :=
  let indent := (s.takeWhile fun c => c == ' ' || c == '\t').length
  let word := wordLength ["match".toList, "case".toList] (s.drop indent)
  if word = 0 ∨ isBarred (s.drop (indent + word)) then none
  else some (.ofLengths [indent, word] [.pattern])

/-- The next pieces outside of strings; `before` is the character before them. -/
def openStep (before : Option Char) (c : Char) (rest : List Char) : Step :=
  let s := c :: rest
  let opensLine := before.all (· == '\n')
  if c = '\n' then .one 1 []
  else
    match if opensLine then documentLengths? s else none with
    | some lengths => .ofLengths lengths []
    | none =>
      if c = '#' then .one (1 + (rest.takeWhile (· != '\n')).length) []
      else if c = '\\' then .one (if rest.head? = some '\n' then 2 else 1) []
      else
        ((Step.one? (wordLength statementWords s) []).or
          ((if opensLine then choice? s else none).or (announcement? s))).getD
            (plainStep [] before c rest)

/-- The next piece where a function is named. -/
def functionStep? (s : List Char) : Option Step :=
  (Step.one? (wordLength methodWords s) [.functionName]).or (Step.one? (nameLength s) [])

/-- The next piece where a class is named. -/
def classStep (c : Char) (rest : List Char) : Step :=
  (Step.one? (nameLength (c :: rest)) []).getD
    (.one 1 (if c = '\n' then [] else [.className]))

/-- The next pieces where modules are named. -/
def modulesStep? (s : List Char) : Option Step :=
  let gap := blankLength s
  match s.drop gap with
  | 'a' :: 's' :: rest =>
    if 0 < gap ∧ 0 < blankLength rest then
      some (.ofLengths [gap, 2, blankLength rest] [.modules])
    else single
  | ',' :: rest => some (.ofLengths [gap, 1, blankLength rest] [.modules])
  | _ => single
where
  /-- A point or a name. -/
  single : Option Step :=
    Step.one? (if s.head? = some '.' then 1 else nameLength s) [.modules]

/-- The next pieces where a module is named of which parts are taken in. -/
def originStep? (s : List Char) : Option Step :=
  let gap := blankLength s
  if 0 < gap then
    let word := wordLength ["import".toList] (s.drop gap)
    if word = 0 then none else some (.ofLengths [gap, word] [])
  else if s.head? = some '.' then some (.one 1 [.origin])
  else
    (Step.one? (wordLength ["None".toList] s) []).or (Step.one? (nameLength s) [.origin])

/-- The next parts behind a word that opens a choice between patterns: what stands before a low line
that is no part of a word. -/
def patternStep? (s : List Char) : Option Step :=
  let gap := blankLength s
  let inner := (s.drop gap).takeWhile fun c => c != '\n' && c != '_'
  match s.drop (gap + inner.length) with
  | '_' :: rest =>
    if 0 < gap ∧ endsWord rest then
      some ⟨gap - 1, [⟨inner.length, true⟩, ⟨1, false⟩], [.pattern]⟩
    else none
  | _ => none

/-! ### Pieces -/

/-- What a text in some places starts with; `before` is the character before it. -/
def step (places : List Place) (before : Option Char) (c : Char) (rest : List Char) : Step :=
  match places with
  | [] => openStep before c rest
  | .quoted q :: outer => quotedStep q outer c rest
  | .hole :: outer => holeStep outer before c rest
  | .bracket :: outer => bracketStep outer before c rest
  | .functionName :: _ => (functionStep? (c :: rest)).getD (openStep before c rest)
  | .className :: _ => classStep c rest
  | .modules :: _ => (modulesStep? (c :: rest)).getD (openStep before c rest)
  | .origin :: _ => (originStep? (c :: rest)).getD (openStep before c rest)
  | .pattern :: _ => (patternStep? (c :: rest)).getD (openStep before c rest)

/-- The pieces of the parts that a text starts with, and the rest of it; `own` cuts a part that is a
listing of its own. -/
def split (own : List Char → List (List Char)) :
    List Part → List Char → List (List Char) × List Char
  | [], s => ([], s)
  | p :: parts, s =>
    let (pieces, rest) := split own parts (s.drop p.length)
    let here := s.take p.length
    ((if p.isListing then own here else [here]) ++ pieces, rest)

theorem length_split (own : List Char → List (List Char)) (parts : List Part) (s : List Char) :
    (split own parts s).2.length ≤ s.length := by
  induction parts generalizing s with
  | nil => exact Nat.le_refl _
  | cons p parts ih =>
    exact Nat.le_trans (ih (s.drop p.length)) (by rw [List.length_drop]; omega)

/-- The pieces of a text that lies in some places; `before` is the character before it, and `own`
cuts a part that is a listing of its own. -/
def scan (own : List Char → List (List Char)) (places : List Place) (before : Option Char) :
    List Char → List (List Char)
  | [] => []
  | c :: rest =>
    let next := step places before c rest
    let parted := split own next.others (rest.drop next.more)
    let used := (c :: rest).take next.total
    (c :: rest.take next.more) :: parted.1 ++ scan own next.places used.getLast? parted.2
  termination_by s => s.length
  decreasing_by
    have h := length_split own (step places before c rest).others
      (rest.drop (step places before c rest).more)
    rw [List.length_drop] at h
    rw [List.length_cons]
    omega

/-- The pieces of a listing that holds no other. -/
def flatTokens (listing : List Char) : List (List Char) := scan (fun s => [s]) [] none listing

/-- The pieces of a listing. A listing in it stands before a low line on its line and has none, so
that it holds no further one. -/
def tokens (listing : List Char) : List (List Char) := scan flatTokens [] none listing

/-! ### Nothing is lost -/

theorem flatten_split {own : List Char → List (List Char)} (h : ∀ s, (own s).flatten = s)
    (parts : List Part) (s : List Char) :
    (split own parts s).1.flatten ++ (split own parts s).2 = s := by
  induction parts generalizing s with
  | nil => rfl
  | cons p parts ih =>
    have ih := ih (s.drop p.length)
    simp only [split]
    split <;> simp [h, List.append_assoc, ih]

theorem flatten_scan {own : List Char → List (List Char)} (h : ∀ s, (own s).flatten = s)
    (places : List Place) (before : Option Char) (s : List Char) :
    (scan own places before s).flatten = s := by
  fun_induction scan own places before s with
  | case1 => rfl
  | case2 places before c rest next parted used ih =>
    rw [List.cons_append, List.flatten_cons, List.flatten_append, ih, List.cons_append,
      flatten_split h, List.take_append_drop]

theorem flatten_flatTokens (listing : List Char) : (flatTokens listing).flatten = listing :=
  flatten_scan (fun s => by simp) [] none listing

/-- **Nothing is lost.** The pieces of a listing together are the listing. -/
theorem flatten_tokens (listing : List Char) : (tokens listing).flatten = listing :=
  flatten_scan flatten_flatTokens [] none listing

end FlowCanvas.Token
