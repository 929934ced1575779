import FlowCanvas.Text.Digits
import FlowCanvas.Text.Lines
import FlowCanvas.Text.SmallLetter

/-!
# Styles

How a tag in a title says what its text looks like: attributes that are on or off, a colour, a
colour for the ground, and a link. Two definitions of the same style have the same normal form, by
which a closing tag finds the tag that it closes. A panel shows no styles; it only needs their
normal forms. Like the tags, they belong to the library for terminal output.
-/

namespace FlowCanvas

open Text

/-- What a style may switch on or off. -/
inductive Attribute where
  | bold
  | dim
  | italic
  | underline
  | blink
  | blink2
  | reverse
  | conceal
  | strike
  | underline2
  | frame
  | encircle
  | overline
  deriving DecidableEq, Repr

namespace Attribute

/-- The attributes in the order of a normal form. -/
def all : List Attribute :=
  [bold, dim, italic, underline, blink, blink2, reverse, conceal, strike, underline2, frame,
   encircle, overline]

/-- The name of an attribute. -/
def name : Attribute → String
  | bold => "bold"
  | dim => "dim"
  | italic => "italic"
  | underline => "underline"
  | blink => "blink"
  | blink2 => "blink2"
  | reverse => "reverse"
  | conceal => "conceal"
  | strike => "strike"
  | underline2 => "underline2"
  | frame => "frame"
  | encircle => "encircle"
  | overline => "overline"

/-- The short name of an attribute, if it has one. -/
def short? : Attribute → Option String
  | bold => some "b"
  | dim => some "d"
  | italic => some "i"
  | underline => some "u"
  | reverse => some "r"
  | conceal => some "c"
  | strike => some "s"
  | underline2 => some "uu"
  | overline => some "o"
  | blink | blink2 | frame | encircle => none

/-- The attribute that a word names. -/
def ofWord? (word : List Char) : Option Attribute :=
  all.find? fun a => a.name.toList == word || a.short?.map String.toList == some word

end Attribute

/-- A style. -/
structure Style where
  /-- the attributes that are on or off; of two that tell of the same one, the first counts -/
  attributes : List (Attribute × Bool)
  /-- the colour of the text -/
  color : Option (List Char)
  /-- the colour of the ground -/
  ground : Option (List Char)
  /-- where a link leads -/
  link : Option (List Char)
  deriving DecidableEq, Repr

namespace Style

/-- Why a definition defines no style. -/
inductive Fault where
  /-- a word that means nothing where it stands -/
  | word
  /-- a colour that leaves one of its three parts empty -/
  | emptyPart
  /-- a colour with a part that has too many digits -/
  | longPart (digits : Nat)
  deriving DecidableEq, Repr

/-- The wording of a fault. -/
def Fault.message : Fault → String
  | word => "a word means nothing where it stands"
  | emptyPart => "invalid literal for int() with base 10: \x27\x27"
  | longPart digits => tooManyDigitsMessage digits

/-- The style that changes nothing. -/
def plain : Style := ⟨[], none, none, none⟩

/-! ### Colours -/

/-- The names of the colours of terminals. -/
def colorNames : String :=
  "black red green yellow blue magenta cyan white bright_black bright_red bright_green
bright_yellow bright_blue bright_magenta bright_cyan bright_white grey0 gray0 navy_blue
dark_blue blue3 blue1 dark_green deep_sky_blue4 dodger_blue3 dodger_blue2 green4 spring_green4
turquoise4 deep_sky_blue3 dodger_blue1 green3 spring_green3 dark_cyan light_sea_green
deep_sky_blue2 deep_sky_blue1 spring_green2 cyan3 dark_turquoise turquoise2 green1 spring_green1
medium_spring_green cyan2 cyan1 dark_red deep_pink4 purple4 purple3 blue_violet orange4 grey37
gray37 medium_purple4 slate_blue3 royal_blue1 chartreuse4 dark_sea_green4 pale_turquoise4
steel_blue steel_blue3 cornflower_blue chartreuse3 cadet_blue sky_blue3 steel_blue1 pale_green3
sea_green3 aquamarine3 medium_turquoise chartreuse2 sea_green2 sea_green1 aquamarine1
dark_slate_gray2 dark_magenta dark_violet purple light_pink4 plum4 medium_purple3 slate_blue1
yellow4 wheat4 grey53 gray53 light_slate_grey light_slate_gray medium_purple light_slate_blue
dark_olive_green3 dark_sea_green light_sky_blue3 sky_blue2 dark_sea_green3 dark_slate_gray3
sky_blue1 chartreuse1 light_green pale_green1 dark_slate_gray1 red3 medium_violet_red magenta3
dark_orange3 indian_red hot_pink3 medium_orchid3 medium_orchid medium_purple2 dark_goldenrod
light_salmon3 rosy_brown grey63 gray63 medium_purple1 gold3 dark_khaki navajo_white3 grey69
gray69 light_steel_blue3 light_steel_blue yellow3 dark_sea_green2 light_cyan3 light_sky_blue1
green_yellow dark_olive_green2 dark_sea_green1 pale_turquoise1 deep_pink3 magenta2 hot_pink2
orchid medium_orchid1 orange3 light_pink3 pink3 plum3 violet light_goldenrod3 tan misty_rose3
thistle3 plum2 khaki3 light_goldenrod2 light_yellow3 grey84 gray84 light_steel_blue1 yellow2
dark_olive_green1 honeydew2 light_cyan1 red1 deep_pink2 deep_pink1 magenta1 orange_red1
indian_red1 hot_pink dark_orange salmon1 light_coral pale_violet_red1 orchid2 orchid1 orange1
sandy_brown light_salmon1 light_pink1 pink1 plum1 gold1 navajo_white1 misty_rose1 thistle1
yellow1 light_goldenrod1 khaki1 wheat1 cornsilk1 grey100 gray100 grey3 gray3 grey7 gray7 grey11
gray11 grey15 gray15 grey19 gray19 grey23 gray23 grey27 gray27 grey30 gray30 grey35 gray35
grey39 gray39 grey42 gray42 grey46 gray46 grey50 gray50 grey54 gray54 grey58 gray58 grey62
gray62 grey66 gray66 grey70 gray70 grey74 gray74 grey78 gray78 grey82 gray82 grey85 gray85
grey89 gray89 grey93 gray93"

/-- What stands between a word with an opening bracket and a closing one. -/
def between? (opening : String) (s : List Char) : Option (List Char) :=
  if opening.toList.isPrefixOf s ∧ s.getLast? = some ')' then
    some ((s.drop opening.length).dropLast)
  else none

/-- Whether a text is a number of at most 255. -/
def isByte (digits : List Char) : Bool :=
  digits != [] && digits.all isDigit && decide (digitsValue digits ≤ 255)

/-- What is wrong with a part of a colour as a number, if anything. -/
def partFault? (part : List Char) : Option Fault :=
  if part = [] then some .emptyPart
  else if digitLimit < part.length then some (.longPart part.length)
  else none

/-- The colour that a word names, in small letters: a name, six hexadecimal digits, a number of the
palette of terminals, or three parts. -/
def color? (word : List Char) : Except Fault (List Char) :=
  let s := toSmall word
  if s = "default".toList
      ∨ (pieces (fun c => c == ' ' || c == '\n') colorNames.toList).contains s then .ok s
  else
    match s with
    | '#' :: digits =>
      if digits.length = 6 ∧ digits.all fun c => (hexValue? c).isSome then .ok s
      else .error .word
    | _ =>
      match between? "color(" s, between? "rgb(" s with
      | some number, _ => if number.length ≤ 3 ∧ isByte number then .ok s else .error .word
      | none, some inner =>
        let parts := pieces (· == ',') inner
        if inner = [] ∨ !(inner.all fun c => c == ',' || (asciiDigit? c).isSome) then
          .error .word
        else if parts.length ≠ 3 then .error .word
        else
          match parts.findSome? partFault? with
          | some f => .error f
          | none =>
            if parts.all fun p => isByte (p.filterMap asciiDigit?) then .ok s else .error .word
      | none, none => .error .word

/-! ### Definitions -/

/-- A style with the words of a definition put on it. -/
def addWords (style : Style) : List (List Char) → Except Fault Style
  | [] => .ok style
  | word :: rest =>
    let small := toSmall word
    if small = "on".toList then
      match rest with
      | [] => .error .word
      | color :: rest => (color? color).bind fun c => addWords { style with ground := c } rest
    else if small = "not".toList then
      match rest with
      | [] => .error .word
      | name :: rest =>
        match Attribute.ofWord? name with
        | none => .error .word
        | some a => addWords { style with attributes := (a, false) :: style.attributes } rest
    else if small = "link".toList then
      match rest with
      | [] => .error .word
      | place :: rest => addWords { style with link := place } rest
    else
      match Attribute.ofWord? small with
      | some a => addWords { style with attributes := (a, true) :: style.attributes } rest
      | none => (color? small).bind fun c => addWords { style with color := c } rest

/-- The words of a text. -/
def words (s : List Char) : List (List Char) := (pieces isBlank s).filter (· != [])

/-- The style that a text defines. -/
def ofText (s : List Char) : Except Fault Style :=
  if trim s = "none".toList then .ok plain else addWords plain (words s)

/-- The words of the normal form of a style. -/
def toWords (style : Style) : List (List Char) :=
  (Attribute.all.flatMap fun a =>
    match style.attributes.lookup a with
    | none => []
    | some true => [a.name.toList]
    | some false => ["not".toList, a.name.toList])
    ++ style.color.toList
    ++ (match style.ground with
      | none => []
      | some c => ["on".toList, c])
    ++ (match style.link with
      | none => []
      | some place => ["link".toList, place])

/-- The definition of a style in its normal form. -/
def text (style : Style) : List Char :=
  if style.toWords = [] then "none".toList else [' '].intercalate style.toWords

/-- The normal form of a definition: that of its style, and of one that defines no style the
definition itself, trimmed and in small letters. A colour with a part that is no number has none.
-/
def normal (s : List Char) : Except Fault (List Char) :=
  match ofText s with
  | .ok style => .ok style.text
  | .error .word => .ok (toSmall (trim s))
  | .error f => .error f

end Style

end FlowCanvas
