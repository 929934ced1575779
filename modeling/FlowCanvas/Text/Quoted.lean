import FlowCanvas.Text.Digits
import FlowCanvas.Text.Printable

/-!
# Quoted text

How a text stands inside a message: between single quotes, unless it holds a single quote and no
double quote. The quote in use and the backslash are escaped by a backslash, line feed, carriage
return and tab have escapes of one letter, and any other character that is not printable is written
by its code point in two, four or eight hexadecimal digits.
-/

namespace FlowCanvas.Text

/-- The single quote. -/
def singleQuote : Char := '\x27'

/-- The double quote. -/
def doubleQuote : Char := '\x22'

/-- The quote that encloses a text. -/
def enclosingQuote (s : List Char) : Char :=
  if s.contains singleQuote && !s.contains doubleQuote then doubleQuote else singleQuote

/-- How one character is written between the quotes `quote`. -/
def quotedChar (quote c : Char) : List Char :=
  if c = quote ∨ c = '\\' then ['\\', c]
  else if c = '\n' then ['\\', 'n']
  else if c = '\r' then ['\\', 'r']
  else if c = '\t' then ['\\', 't']
  else if isPrintable c then [c]
  else if c.toNat < 0x100 then '\\' :: 'x' :: hex 2 c.toNat
  else if c.toNat < 0x10000 then '\\' :: 'u' :: hex 4 c.toNat
  else '\\' :: 'U' :: hex 8 c.toNat

/-- A text between quotes. -/
def quotedChars (s : List Char) : List Char :=
  let quote := enclosingQuote s
  quote :: s.flatMap (quotedChar quote) ++ [quote]

/-- A text between quotes. -/
def quoted (s : String) : String := String.ofList (quotedChars s.toList)

end FlowCanvas.Text
