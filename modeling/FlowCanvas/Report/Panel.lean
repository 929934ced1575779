import FlowCanvas.Program.Token
import FlowCanvas.Report.Markup

/-!
# Panels

A listing in a frame with rounded corners, its lines numbered and its title in the middle of the
upper side. The frame is as wide as the widest line needs, at least as wide as the title needs, and
never wider than the terminal; what does not fit is cut. A line is measured as a whole and written
in the pieces in which it is coloured, each of which takes its own width; where pieces part what
would be drawn together, the line is wider than it was measured. The same goes for the title, which
parts where its tags stand.

The program chooses the title, the listing and the frame. All measures, cuts and pieces are those of
the library for terminal output that draws the panel, written down after what it does.
-/

namespace FlowCanvas

open Text

/-- A listing with its title. -/
structure Panel where
  /-- the title -/
  title : String
  /-- the listing -/
  code : String
  deriving DecidableEq, Repr

namespace Panel

/-- The width of the terminal. -/
def terminal : Nat := 200

/-- The columns between two tab stops in a listing. -/
def codeTab : Nat := 4

/-- The columns between two tab stops in a title. -/
def titleTab : Nat := 8

/-- The lines of a text that comes in pieces, each with its own pieces; `before` holds the pieces of
a line that may go on, in reverse. -/
def linesOf (before : List (List Char)) : List (List Char) → List (List (List Char))
  | [] => [before.reverse]
  | piece :: rest =>
    match (pieces (· == '\n') piece).getLast?, (pieces (· == '\n') piece).dropLast with
    | some last, first :: others =>
      (before.reverse ++ [first]) :: others.map ([·]) ++ linesOf [last] rest
    | _, _ => linesOf (piece :: before) rest

/-- A text without the mark of its encoding at its start. -/
def withoutMark : List Char → List Char
  | '\ufeff' :: rest => rest
  | s => s

/-- The lines of a listing as they are shown, in the pieces in which they are coloured. A line feed
at the end of the listing starts a further line. -/
def shownLines (code : List Char) : List (List (List Char)) :=
  let endsLine := code.getLast? = some '\n'
  let ended := if endsLine then code else code ++ ['\n']
  let text := unifyLineEnds (withoutMark (expandTabs codeTab 0 ended))
  let tokens := (Token.tokens text).map fun t => t.filter fun c => !Markup.isObeyed c
  let all := linesOf [] tokens
  if endsLine then all else all.dropLast

/-- The width of the column of line numbers, without the blank behind it. -/
def numbersWidth (code : List Char) : Nat := (decimal (1 + code.count '\n')).length + 2

/-- The title as it is shown, with a blank at either end. An empty one is none. -/
def shownTitle (title : List Char) : Except Markup.Fault (Option Markup.Marked) :=
  if title = [] then .ok none
  else
    (Markup.read title).map fun shown =>
      let line := { shown with chars := shown.chars.map fun c => if c = '\n' then ' ' else c }
      some ((line.expandTabs titleTab).surround [' '] [' '])

/-- The width between the sides of the frame, with a blank at either side of the listing. -/
def innerWidth (title : Option Markup.Marked) (code : List Char) : Nat :=
  let widest := ((measuredLines code).map width).foldl max 0
  let forCode := numbersWidth code + 1 + widest + 2
  min (terminal - 2)
    (match title with
    | none => forCode
    | some title => max forCode (width title.chars + 2))

/-- A title in the middle of a side; of two sides that differ the left one is the shorter. -/
def centred (total : Nat) (title : Markup.Marked) : Markup.Marked :=
  if total < width title.chars then title.cutTo (fit total title.chars)
  else
    let spare := total - width title.chars
    title.surround (List.replicate (spare / 2) '─') (List.replicate (spare - spare / 2) '─')

/-- The sum of the widths of pieces that are written one after the other. -/
def widthOf (line : List (List Char)) : Nat := line.foldl (fun n piece => n + width piece) 0

/-- The pieces that fit into a number of cells, the last one cut. -/
def crop : (room : Nat) → List (List Char) → List (List Char)
  | _, [] => []
  | room, piece :: rest =>
    if width piece < room then piece :: crop (room - width piece) rest else [fit room piece]

/-- A line that comes in pieces, cut or filled up with blanks to a width. A piece that is cut may
still be wider than its room, if it starts with joiners. -/
def fitPieces (total : Nat) (line : List (List Char)) : List (List Char) :=
  if widthOf line ≤ total then line ++ [List.replicate (total - widthOf line) ' ']
  else crop total line

/-- A line that comes in pieces, cut where it goes beyond the terminal. -/
def onTerminal (line : List (List Char)) : List Char :=
  (if widthOf line ≤ terminal then line else crop terminal line).flatten

/-- A numbered line between the sides of the frame, which are `inner` cells apart; the column of
numbers is `numbers` wide. -/
def row (numbers inner : Nat) (number : Nat) (line : List (List Char)) : List Char :=
  let code := fitPieces (inner - numbers - 3) line
  let numbered := fitPieces (inner - 2) ((padLeft numbers ' ' (decimal number) ++ [' ']) :: code)
  let within := fitPieces inner ([' '] :: numbered ++ [[' ']])
  onTerminal (['│'] :: within ++ [['│']])

/-- The upper side of the frame, with the title. It is written in the pieces of the title, and cut
where it goes beyond the terminal. -/
def upperSide (inner : Nat) (title : Option Markup.Marked) : Except Markup.Fault (List Char) :=
  match title with
  | none => .ok ('╭' :: List.replicate inner '─' ++ ['╮'])
  | some title =>
    let title := centred (inner - 2) title
    match title.fault? with
    | some f => .error f
    | none =>
      .ok (onTerminal (['╭', '─'] :: title.parted ++ [['─', '╮']]))

/-- The lines of a panel. -/
def lines (p : Panel) : Except Markup.Fault (List (List Char)) :=
  (shownTitle p.title.toList).bind fun title =>
    let code := p.code.toList
    let inner := innerWidth title code
    let numbers := numbersWidth code
    let rows := (shownLines code).zipIdx.map fun x =>
      row numbers inner (x.2 + 1) x.1
    (upperSide inner title).map fun upper =>
      upper :: rows ++ ['╰' :: List.replicate inner '─' ++ ['╯']]

/-- The text of a panel, with a line feed at the end. -/
def text (p : Panel) : Except Markup.Fault String :=
  p.lines.map fun lines => String.ofList (lines.flatMap fun line => line ++ ['\n'])

/-- The title that announces an edit, or a reset. -/
def announced (name : String) (action : Option String) : String :=
  name ++ " · " ++ action.getD "reset"

end Panel

end FlowCanvas
