import FlowCanvas.Program.Printer
import FlowCanvas.Text.Lines

/-!
# Listings

A source text as it is handed out: it can be cut into lines, searched, and shown by its size.
-/

namespace FlowCanvas

universe u

/-- A source text. -/
structure Listing where
  /-- the text -/
  source : String
  deriving DecidableEq, Repr

/-- Whether a text stands somewhere in another one. -/
def occursIn (s : List Char) : List Char → Bool
  | [] => s.isEmpty
  | c :: rest => s.isPrefixOf (c :: rest) || occursIn s rest

namespace Listing

/-- The listing of a graph. -/
def ofGraph {α : Type u} (g : Graph α) : Listing := ⟨g.source⟩

/-- The lines of a listing. -/
def lines (l : Listing) : List String := (Text.pieces (· == '\n') l.source.toList).map String.ofList

/-- Whether a listing contains a text. -/
def contains (l : Listing) (s : String) : Bool := occursIn s.toList l.source.toList

/-- A listing in short. -/
def summary (l : Listing) : String := "GeneratedCode(" ++ toString l.lines.length ++ " lines)"

/-- A listing as each of the media types that it can be handed out as. -/
def renderings (l : Listing) : List (String × String) :=
  [("text/x-python", l.source), ("text/plain", l.source)]

end Listing

end FlowCanvas
