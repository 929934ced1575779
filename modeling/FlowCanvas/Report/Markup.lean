import FlowCanvas.Report.Literal
import FlowCanvas.Report.Style
import FlowCanvas.Text.Picture

/-!
# Markup

A title may hold tags in square brackets. One that opens a style is closed by its name behind a
slash, or by a slash alone; a tag that stays open counts up to the end of the title. Backslashes
before a tag make it plain text, and two backslashes there stand for one. Names of pictures are
replaced in the text between the tags. What is shown is that text, in pieces that part where a tag
begins or ends to count. A tag that closes what is not open is a fault, and so is a style with a
colour that cannot be read as numbers.

The program knows nothing of tags: it hands a title to a library for terminal output, and this is
the markup of that library, written down after what it documents and what it does. No result on the
program rests on it.
-/

namespace FlowCanvas

open Text

namespace Markup

/-- A tag. -/
structure Tag where
  /-- the name, with a slash in front if the tag closes another one -/
  name : List Char
  /-- what stands behind the first equals sign, if there is one -/
  parameters : Option (List Char)
  deriving DecidableEq, Repr

/-- What a tag says of the text that it counts for: its name and what stands behind it. -/
def Tag.text (t : Tag) : List Char :=
  match t.parameters with
  | none => t.name
  | some parameters => t.name ++ ' ' :: parameters

/-- A part of a title. -/
inductive Part where
  /-- a text -/
  | text (s : List Char)
  /-- a tag -/
  | tag (t : Tag)
  deriving DecidableEq, Repr

/-- Why a title cannot be shown. -/
inductive Fault where
  /-- a tag that closes none of the open ones -/
  | unmatched (t : Tag)
  /-- a tag that closes the last one where none is open -/
  | nothingOpen
  /-- a call with values that are no literals -/
  | badParameters (t : Tag)
  /-- a colour that cannot be read as numbers -/
  | badColor (f : Style.Fault)
  deriving DecidableEq, Repr

/-- The wording of a fault. -/
def Fault.message : Fault → String
  | unmatched t => "the tag '" ++ String.ofList t.name ++ "' closes no open tag"
  | nothingOpen => "a tag closes the last open one where none is open"
  | badParameters t => "the call '" ++ String.ofList t.name ++ "' has values that cannot be read"
  | badColor f => f.message

/-- A range of a text for which a tag counts. -/
structure Span where
  /-- where it begins -/
  start : Nat
  /-- where it ends -/
  stop : Nat
  /-- what the text of the range looks like; nothing for a call -/
  style : Option (List Char)
  deriving DecidableEq, Repr

/-- A text with the ranges for which tags count, in the order in which they are looked at. -/
structure Marked where
  /-- the text -/
  chars : List Char
  /-- the ranges -/
  spans : List Span
  deriving DecidableEq, Repr

/-! ### Parts -/

/-- Whether a tag may start with a character. -/
def startsTag (c : Char) : Bool := c.isLower || c == '#' || c == '/' || c == '@'

/-- What stands in the brackets of the tag that a text starts with. -/
def tag? : List Char → Option (List Char)
  | '[' :: c :: rest =>
    let inner := rest.takeWhile fun d => d != '[' && d != ']'
    if startsTag c ∧ (rest.drop inner.length).head? = some ']' then some (c :: inner) else none
  | _ => none

/-- The tag with a text in its brackets. -/
def Tag.ofInner (inner : List Char) : Tag :=
  let name := inner.takeWhile (· != '=')
  ⟨name, match inner.drop name.length with
    | [] => none
    | _ :: parameters => some parameters⟩

/-- A text without the backslashes before its opening brackets. -/
def unescape : List Char → List Char
  | [] => []
  | '\\' :: '[' :: rest => '[' :: unescape rest
  | c :: rest => c :: unescape rest

/-- Whether a terminal would obey a character instead of showing it: the bell, and the moves back,
down, to the next page and to the start of the line. -/
def isObeyed (c : Char) : Bool :=
  let n := c.toNat
  n == 0x07 || n == 0x08 || n == 0x0B || n == 0x0C || n == 0x0D

/-- What is shown of a text between two tags. -/
def shown (s : List Char) : List Char := (Picture.draw (unescape s)).filter fun c => !isObeyed c

/-- The text of which the characters have been gathered in reverse, if it has any. -/
def gathered (before : List Char) : List Part :=
  if before = [] then [] else [.text before.reverse]

/-- The parts of a title; `before` holds the characters of a text that may go on, in reverse. -/
def parts (before : List Char) : List Char → List Part
  | [] => gathered before
  | c :: rest =>
    let slashes := ((c :: rest).takeWhile (· == '\\')).length
    match tag? ((c :: rest).drop slashes) with
    | none => parts (c :: before) rest
    | some inner =>
      gathered before
        ++ (if slashes < 2 then [] else [.text (List.replicate (slashes / 2) '\\')])
        ++ (if slashes % 2 = 1 then [.text ('[' :: inner ++ [']'])] else [.tag (.ofInner inner)])
        ++ parts [] (rest.drop (slashes + inner.length + 1))
  termination_by s => s.length
  decreasing_by
    · simp
    · rw [List.length_drop, List.length_cons]
      omega

/-! ### Open tags -/

/-- The normal form of a name. -/
def normal (name : List Char) : Except Fault (List Char) := (Style.normal name).mapError .badColor

/-- An open tag, with the number of characters before it. -/
abbrev Opened := Nat × Tag

/-- The open tags without the last one of a name, and that one. -/
def close? (name : List Char) : List Opened → Option (Opened × List Opened)
  | [] => none
  | t :: others =>
    if t.2.name = name then some (t, others)
    else (close? name others).map fun r => (r.1, t :: r.2)

/-- Whether the values that a tag hands to what it calls can be read. They stand in brackets behind
a name, or are a literal without one. -/
def hasReadable (parameters : List Char) : Bool :=
  let s := trim parameters
  let called := s.takeWhile fun c => isWordCharacter c || c == '.'
  match s.drop called.length with
  | [] => true
  | '(' :: rest =>
    if rest.getLast? = some ')' ∧ !rest.contains '\n' then Literal.isLiteral ('(' :: rest)
    else Literal.isLiteral s
  | _ => Literal.isLiteral s

/-- The style of the range of a tag that is closed. A call has none, but its values have to be
readable. -/
def closedStyle (t : Tag) : Except Fault (Option (List Char)) :=
  match t.name, t.parameters with
  | '@' :: _, none => .ok none
  | '@' :: _, some parameters =>
    if parameters = [] ∨ hasReadable parameters then .ok none else .error (.badParameters t)
  | _, _ => .ok (some t.text)

/-- A title that has been read up to some place. -/
structure Reading where
  /-- what is shown -/
  chars : List Char
  /-- the open tags, the last one first -/
  opened : List Opened
  /-- the ranges of the tags that are closed, the last one first -/
  spans : List Span
  deriving DecidableEq, Repr

namespace Reading

/-- A title of which nothing has been read. -/
def start : Reading := ⟨[], [], []⟩

/-- A title with one of its open tags closed; the others are given. -/
def closing (r : Reading) (closed : Opened) (others : List Opened) : Except Fault Reading :=
  (closedStyle closed.2).map fun style =>
    { r with opened := others, spans := ⟨closed.1, r.chars.length, style⟩ :: r.spans }

/-- A title of which one more tag has been read. -/
def addTag (r : Reading) (t : Tag) : Except Fault Reading :=
  match t.name with
  | '/' :: name =>
    let name := trim name
    if name = [] then
      match r.opened with
      | [] => .error .nothingOpen
      | last :: others => r.closing last others
    else
      (normal name).bind fun name =>
        match close? name r.opened with
        | none => .error (.unmatched t)
        | some (closed, others) => r.closing closed others
  | name =>
    (normal name).map fun name =>
      { r with opened := (r.chars.length, ⟨name, t.parameters⟩) :: r.opened }

/-- A title of which one more part has been read. -/
def add (r : Reading) : Part → Except Fault Reading
  | .text s => .ok { r with chars := r.chars ++ shown s }
  | .tag t => r.addTag t

/-- What is shown of a title that has been read to its end. The ranges are in the order of their
beginnings, those of tags that stayed open first and of the others the last one closed first. -/
def marked (r : Reading) : Marked :=
  let opened := r.opened.reverse.map fun t => ⟨t.1, r.chars.length, some t.2.text⟩
  ⟨r.chars, (opened ++ r.spans).mergeSort fun a b => decide (a.start ≤ b.start)⟩

end Reading

/-- What is shown of a title. -/
def read (title : List Char) : Except Fault Marked :=
  ((parts [] title).foldlM Reading.add .start).map Reading.marked

/-! ### Marked texts -/

namespace Marked

/-- What is wrong with the style of a range, if anything: the first such fault. Words that mean
nothing are passed over. -/
def fault? (m : Marked) : Option Fault :=
  m.spans.findSome? fun span =>
    match span.style.map Style.ofText with
    | some (.error .word) => none
    | some (.error f) => some (.badColor f)
    | _ => none

/-- A text with another one before it and one behind it. -/
def surround (left right : List Char) (m : Marked) : Marked :=
  ⟨left ++ m.chars ++ right,
    m.spans.map fun s => ⟨s.start + left.length, s.stop + left.length, s.style⟩⟩

/-- The first part of a text, of which some characters may be others; ranges that do not begin in it
are gone. -/
def cutTo (chars : List Char) (m : Marked) : Marked :=
  if chars.length < m.chars.length then
    ⟨chars, (m.spans.filter fun s => decide (s.start < chars.length)).map fun s =>
      ⟨s.start, min chars.length s.stop, s.style⟩⟩
  else ⟨chars, m.spans⟩

/-- The pieces of a text that ends where `isCut` says; `index` is the number of the characters
before it. -/
def pieces (isCut : Nat → Bool) : (index : Nat) → List Char → List (List Char)
  | _, [] => []
  | index, c :: rest =>
    match pieces isCut (index + 1) rest with
    | [] => [[c]]
    | piece :: others =>
      if isCut (index + 1) then [c] :: piece :: others else (c :: piece) :: others

/-- The pieces of a marked text, which part where a range begins or ends. -/
def parted (m : Marked) : List (List Char) :=
  pieces (fun n => m.spans.any fun s => s.start == n || s.stop == n) 0 m.chars

theorem flatten_pieces (isCut : Nat → Bool) (index : Nat) (s : List Char) :
    (pieces isCut index s).flatten = s := by
  induction s generalizing index with
  | nil => rfl
  | cons c rest ih =>
    have ih := ih (index + 1)
    rw [pieces]
    split
    · simp_all
    · next h => split <;> simp_all

/-- **The pieces of a marked text are the text.** -/
theorem flatten_parted (m : Marked) : m.parted.flatten = m.chars := flatten_pieces _ 0 m.chars

/-- The parts of a text with its tabs, each of which but the last one ended at a tab, set to the
stops. `column` is where the first part begins, `before` the number of characters before it with a
tab as one, and `placed` their number as they are set. A range is cut where a part ends, and goes on
over the blanks that a tab leads to. -/
def setTabs (stop : Nat) (spans : List Span) :
    (column before placed : Nat) → List (List Char) → Marked
  | _, _, _, [] => ⟨[], []⟩
  | column, before, placed, part :: rest =>
    let isLast := rest = []
    let line := if isLast then part else part ++ [' ']
    let reached := column + width line
    let fill := if isLast then 0 else (reached + stop - 1) / stop * stop - reached
    let here := spans.filterMap fun s =>
      let start := max before s.start - before
      let stop := min line.length (s.stop - before)
      if start < stop then
        some ⟨placed + start, placed + stop + (if stop = line.length then fill else 0), s.style⟩
      else none
    let others := setTabs stop spans (reached + fill) (before + line.length)
      (placed + line.length + fill) rest
    ⟨line ++ List.replicate fill ' ' ++ others.chars, here ++ others.spans⟩

/-- A text without tabs: they become blanks up to the next stop. -/
def expandTabs (stop : Nat) (m : Marked) : Marked :=
  if m.chars.contains '\t' then setTabs stop m.spans 0 0 0 (Text.pieces (· == '\t') m.chars) else m

end Marked

end Markup

end FlowCanvas
