/-!
# Lines

Texts cut into pieces, and the pieces that are lines. A line ends at a line feed, at a carriage
return, or at both together as one; a listing that is measured also takes the other separators of
lines and paragraphs for ends.
-/

namespace FlowCanvas.Text

/-- Whether a character ends a line on its own, in a text that is measured. -/
def isLineEnd (c : Char) : Bool :=
  let n := c.toNat
  decide (0x0A ≤ n ∧ n ≤ 0x0D) || decide (0x1C ≤ n ∧ n ≤ 0x1E) || n == 0x85 || n == 0x2028
    || n == 0x2029

/-- A text in which every line ends with a line feed. -/
def unifyLineEnds : List Char → List Char
  | [] => []
  | '\r' :: '\n' :: rest => '\n' :: unifyLineEnds rest
  | c :: rest => (if c = '\r' then '\n' else c) :: unifyLineEnds rest

/-- The pieces of a text between the characters that end one, of which there is always one more. -/
def pieces (isEnd : Char → Bool) : List Char → List (List Char)
  | [] => [[]]
  | c :: rest =>
    if isEnd c then [] :: pieces isEnd rest
    else match pieces isEnd rest with
      | [] => [[c]]
      | piece :: others => (c :: piece) :: others

/-- The lines of a text without their ends; an end at the end of the text starts no further line. -/
def linesBy (isEnd : Char → Bool) (s : List Char) : List (List Char) :=
  let all := pieces isEnd s
  if all.getLast? = some [] then all.dropLast else all

/-- The lines that are typed at a prompt. -/
def typedLines (s : List Char) : List (List Char) := linesBy (· == '\n') (unifyLineEnds s)

/-- The lines of a text that is measured. -/
def measuredLines (s : List Char) : List (List Char) := linesBy isLineEnd (unifyLineEnds s)

end FlowCanvas.Text
