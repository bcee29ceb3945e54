import Chip8.Text.Hex
import Chip8.Text.Printable

/-!
# Quoted text

Text between single quotes, or between double quotes if it holds a single quote and no double one.
The quote in use and the backslash stand behind a backslash; newline, carriage return and tab have
letters; every other character that cannot be shown as itself is written as its code point, with
two, four or eight digits.
-/

namespace Chip8.Quoted

/-- The quote that needs the fewest escapes; the single one if nothing speaks against it. -/
def quoteFor (s : List Char) : Char := if s.contains '\'' && !s.contains '"' then '"' else '\''

/-- A code point in the shortest of the three escapes that holds it. -/
def codePoint (c : Char) : List Char :=
  let code := c.toNat
  if code < 0x100 then '\\' :: 'x' :: Hex.places Hex.lowerDigit 2 code
  else if code < 0x10000 then '\\' :: 'u' :: Hex.places Hex.lowerDigit 4 code
  else '\\' :: 'U' :: Hex.places Hex.lowerDigit 8 code

/-- How a character stands between quotes. -/
def escape (quote c : Char) : List Char :=
  if c = quote ∨ c = '\\' then ['\\', c]
  else if c = '\n' then ['\\', 'n']
  else if c = '\r' then ['\\', 'r']
  else if c = '\t' then ['\\', 't']
  else if isPrintable c then [c]
  else codePoint c

/-- The characters of quoted text, quotes included. -/
def chars (s : List Char) : List Char :=
  let quote := quoteFor s
  quote :: s.flatMap (escape quote) ++ [quote]

end Chip8.Quoted

namespace Chip8

/-- Text in quotes. -/
def quoted (s : String) : String := String.ofList (Quoted.chars s.toList)

end Chip8
