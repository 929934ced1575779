import FlowCanvas.Number.Rounded
import FlowCanvas.Plane.Point

/-!
# Tables

Plain tables for a terminal: a line of headers, a rule, and a line per row. Columns are as wide as
their widest cell, two blanks apart. A row may be shorter than the headers; what it has beyond them
is dropped. Widths count characters.
-/

namespace FlowCanvas

open Text

namespace Report

/-- A text of at most `limit` characters; a longer one is cut and ends with an ellipsis. A limit
below one counts from the end of the text. -/
def truncate (text : List Char) (limit : Int) : List Char :=
  if (text.length : Int) ≤ limit then text
  else
    let kept := limit - 1
    text.take (if 0 ≤ kept then kept else text.length + kept).toNat ++ ['…']

/-- A point, both sides with one place. -/
def pointText (p : Point Number) : List Char :=
  '(' :: p.x.oneDecimal ++ ',' :: ' ' :: p.y.oneDecimal ++ [')']

end Report

/-- A table. -/
structure Table where
  /-- the headers -/
  headers : List String
  /-- the rows, each a list of cells -/
  rows : List (List String)
  deriving DecidableEq, Repr

namespace Table

/-- Widths that leave room for the cells of a row. -/
def widen : List Nat → List String → List Nat
  | [], _ => []
  | ws, [] => ws
  | w :: ws, cell :: cells => max w cell.length :: widen ws cells

/-- The widths of the columns. -/
def widths (t : Table) : List Nat := t.rows.foldl widen (t.headers.map String.length)

/-- What stands between two columns. -/
def gap : List Char := [' ', ' ']

/-- The cells of a line, each as wide as its column. -/
def cells (ws : List Nat) (row : List String) : List (List Char) :=
  List.zipWith (fun w cell => padRight w ' ' cell.toList) ws row

/-- A line of a table behind `indent` blanks. -/
def line (indent : Nat) (cells : List (List Char)) : List Char :=
  List.replicate indent ' ' ++ gap.intercalate cells

/-- The rule below the headers. -/
def rule (ws : List Nat) : List (List Char) := ws.map fun w => List.replicate w '─'

/-- The lines of a table; one without rows has none. -/
def lines (indent : Nat) (t : Table) : List (List Char) :=
  if t.rows = [] then []
  else
    let ws := t.widths
    (cells ws t.headers :: rule ws :: t.rows.map (cells ws)).map (line indent)

end Table

end FlowCanvas
