import FlowCanvas.Text.PictureNames
import FlowCanvas.Text.SmallLetter
import FlowCanvas.Text.Width

/-!
# Pictures

A picture may be written by its name between two colons. Behind the name, `-emoji` or `-text` asks
for the coloured or for the plain form of the picture. A name that is not known stays as it is
written, colons included.
-/

namespace FlowCanvas.Text.Picture

/-- Whether a character ends an entry of the table. -/
def isEntryEnd (c : Char) : Bool := c == ';' || c == '\n'

/-- The picture of a name in a table of entries; `start` tells whether an entry starts here. -/
def lookup (name : List Char) : (start : Bool) → List Char → Option (List Char)
  | _, [] => none
  | start, c :: rest =>
    if start && (name ++ [' ']).isPrefixOf (c :: rest) then
      some (((c :: rest).drop (name.length + 1)).takeWhile fun d => !isEntryEnd d)
    else lookup name (isEntryEnd c) rest

/-- The forms that can be asked for behind a name, each with the selector that asks for it. -/
def forms : List (String × Char) := [("-emoji", pictureSelector), ("-text", '\ufe0e')]

/-- The picture of a name, in any case, with a form behind it if one is asked for. -/
def named? (name : List Char) : Option (List Char) :=
  let (plain, selector) := match forms.find? fun form => form.1.toList.isSuffixOf name with
    | some (ending, selector) => (name.take (name.length - ending.length), [selector])
    | none => (name, [])
  (lookup (toSmall plain) true pictureNames.toList).map (· ++ selector)

/-- A text with its pictures in place of their names. -/
def draw : List Char → List Char
  | [] => []
  | c :: rest =>
    if c = ':' then
      let name := rest.takeWhile fun d => d != ':' && !isBlank d
      match rest.drop name.length with
      | ':' :: _ =>
        (named? name).getD (':' :: name ++ [':']) ++ draw (rest.drop (name.length + 1))
      | _ => c :: draw rest
    else c :: draw rest
  termination_by s => s.length
  decreasing_by
    · rw [List.length_drop, List.length_cons]
      omega
    · simp
    · simp

end FlowCanvas.Text.Picture
