import Chip8.Text.CodeRange

/-!
# Blank characters

The characters with the property of white space, and text without them at its ends.
-/

namespace Chip8

/-- The blank characters as closed ranges of code points. -/
def blankRanges : List CodeRange := [
  ⟨0x09, 0x0D⟩, ⟨0x20, 0x20⟩, ⟨0x85, 0x85⟩, ⟨0xA0, 0xA0⟩, ⟨0x1680, 0x1680⟩, ⟨0x2000, 0x200A⟩,
  ⟨0x2028, 0x2029⟩, ⟨0x202F, 0x202F⟩, ⟨0x205F, 0x205F⟩, ⟨0x3000, 0x3000⟩]

/-- Whether a character is blank. -/
def isBlank (c : Char) : Bool := CodeRange.anyHolds blankRanges c

/-- Text without the blank characters at both ends. -/
def trimBlank (s : List Char) : List Char :=
  ((s.dropWhile isBlank).reverse.dropWhile isBlank).reverse

end Chip8
