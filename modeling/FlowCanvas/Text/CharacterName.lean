import FlowCanvas.Text.CharacterNames
import FlowCanvas.Text.Digits

/-!
# Characters by name

Which texts name a character. Most names are in the table, where the case of their letters does not
count. The names of the unified ideographs end with their code points, and those of the syllables of
Hangul with the letters that they are made of; these are read by rule, and only in capitals.
-/

namespace FlowCanvas.Text.CharacterName

/-- Whether an entry of the tree goes on below it. -/
def goesOn (entry : List Char) : Bool :=
  match entry.getLast? with
  | some c => c == ' ' || c == '-'
  | none => false

/-- Whether a tree of names holds one of which `left` is the part below the entries that have been
found, `depth` in number. -/
def isBelow (depth : Nat) (left : List Char) : List Char → Bool
  | [] => false
  | c :: rest =>
    let entry := rest.takeWhile fun d => !d.isLower
    let here := c.toNat - 'a'.toNat
    if here < depth then false
    else if here = depth ∧ entry = left ∧ !goesOn entry then true
    else if here = depth ∧ goesOn entry ∧ entry.isPrefixOf left then
      isBelow (depth + 1) (left.drop entry.length) (rest.drop entry.length)
    else isBelow depth left (rest.drop entry.length)
  termination_by tree => tree.length
  decreasing_by
    all_goals
      rw [List.length_drop, List.length_cons]
      omega

/-- The tree of the names, without its line feeds. -/
def tree : List Char := characterNames.toList.filter (· ≠ '\n')

/-- The code points of the unified ideographs, as ranges with both ends included. -/
def ideographRanges : List (Nat × Nat) :=
  [(0x3400, 0x4dbf), (0x4e00, 0x9fff), (0x20000, 0x2a6df), (0x2a700, 0x2b738), (0x2b740, 0x2b81d),
   (0x2b820, 0x2cea1), (0x2ceb0, 0x2ebe0), (0x30000, 0x3134a)]

/-- Whether four or five hexadecimal digits are the code point of a unified ideograph. -/
def isIdeograph (digits : List Char) : Bool :=
  let value := digits.foldl (fun n c => 16 * n + (hexValue? c).getD 0) 0
  (digits.length == 4 || digits.length == 5)
    && digits.all (fun c => (hexValue? c).isSome && !c.isLower)
    && ideographRanges.any fun r => decide (r.1 ≤ value) && decide (value ≤ r.2)

/-- The letters that a syllable of Hangul starts with. -/
def initials : List (List Char) :=
  ["", "G", "GG", "N", "D", "DD", "R", "M", "B", "BB", "S", "SS", "J", "JJ", "C", "K", "T", "P",
   "H"].map String.toList

/-- The letters in the middle of a syllable of Hangul. -/
def medials : List (List Char) :=
  ["A", "AE", "YA", "YAE", "EO", "E", "YEO", "YE", "O", "WA", "WAE", "OE", "YO", "U", "WEO", "WE",
   "WI", "YU", "EU", "YI", "I"].map String.toList

/-- The letters that a syllable of Hangul ends with. -/
def finals : List (List Char) :=
  ["", "G", "GG", "GS", "N", "NJ", "NH", "D", "L", "LG", "LM", "LB", "LS", "LT", "LP", "LH", "M",
   "B", "BS", "S", "SS", "NG", "J", "C", "K", "T", "P", "H"].map String.toList

/-- What follows the longest of some parts that a text starts with, if there is one. -/
def behind? (parts : List (List Char)) (s : List Char) : Option (List Char) :=
  let lengths := (parts.filter fun p => p.isPrefixOf s).map List.length
  lengths.max?.map s.drop

/-- Whether letters make up a syllable of Hangul. -/
def isSyllable (s : List Char) : Bool :=
  (((behind? initials s).bind (behind? medials)).bind (behind? finals)).any (· == [])

/-- What follows a beginning in a text that has it. -/
def after? (beginning : String) (s : List Char) : Option (List Char) :=
  if beginning.toList.isPrefixOf s then some (s.drop beginning.length) else none

/-- Whether a text names a character. -/
def isKnown (name : List Char) : Bool :=
  match after? "HANGUL SYLLABLE " name, after? "CJK UNIFIED IDEOGRAPH-" name with
  | some letters, _ => isSyllable letters
  | none, some digits => isIdeograph digits
  | none, none => isBelow 0 (name.map Char.toUpper) tree

end FlowCanvas.Text.CharacterName
