/-!
# Blank characters

Which characters count as white space in labels and numbers, and the two edits that labels need of
them: trimming both ends, and replacing each run by one character. The table is that of the
characters with a white-space, paragraph or segment bidirectional class, which is wider than the six
blanks of ASCII and wider than the Unicode property of the same name.
-/

namespace FlowCanvas.Text

/-- The code points that are blank, as ranges with both ends included. -/
def blankRanges : List (Nat × Nat) :=
  [(0x09, 0x0D), (0x1C, 0x20), (0x85, 0x85), (0xA0, 0xA0), (0x1680, 0x1680), (0x2000, 0x200A),
   (0x2028, 0x2029), (0x202F, 0x202F), (0x205F, 0x205F), (0x3000, 0x3000)]

/-- Membership of a code point in a list of ranges. -/
def inRanges (ranges : List (Nat × Nat)) (c : Char) : Bool :=
  ranges.any fun r => decide (r.1 ≤ c.toNat) && decide (c.toNat ≤ r.2)

/-- A blank separates words and is trimmed from the ends of labels. -/
def isBlank (c : Char) : Bool := inRanges blankRanges c

/-- A text without the blanks at its two ends. -/
def trim (s : List Char) : List Char :=
  ((s.dropWhile isBlank).reverse.dropWhile isBlank).reverse

/-- Every run of characters that satisfy `p` becomes the one character `mark`. -/
def squeeze (p : Char → Bool) (mark : Char) : List Char → List Char
  | [] => []
  | c :: rest =>
    if p c then
      match rest with
      | [] => [mark]
      | d :: _ => if p d then squeeze p mark rest else mark :: squeeze p mark rest
    else c :: squeeze p mark rest

end FlowCanvas.Text
