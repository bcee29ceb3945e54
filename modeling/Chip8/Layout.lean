import Chip8.Word

/-!
# Layout

Sizes and places that are fixed for every machine, the rates a host uses when nothing else is asked
for, and the built-in font.
-/

namespace Chip8.Layout

/-- Cells of memory. -/
abbrev memorySize : Nat := 4096

/-- Where a program is loaded and where execution begins. -/
abbrev programStart : Nat := 0x200

/-- The longest program that fits between `programStart` and the end of memory. -/
abbrev maxRomSize : Nat := memorySize - programStart

/-- The last address. -/
abbrev lastAddress : Nat := 0xFFF

/-- Registers `V0` to `VF`. -/
abbrev registerCount : Nat := 16

/-- Return addresses the stack can hold. -/
abbrev stackDepth : Nat := 16

/-- Keys of the keypad. -/
abbrev keyCount : Nat := 16

/-- Columns of the screen. -/
abbrev width : Nat := 64

/-- Rows of the screen. -/
abbrev height : Nat := 32

/-- Window pixels per screen cell, along each side. -/
abbrev defaultScale : Nat := 10

/-- Steps per second. -/
abbrev defaultCpuHz : Nat := 600

/-- Ticks per second of timers that run on a clock of their own. -/
abbrev defaultTimerHz : Nat := 60

/-- Bytes per glyph of the font. -/
abbrev glyphSize : Nat := 5

/-- The glyphs of the sixteen hexadecimal digits, stored from address 0. Each row of a glyph is a
byte whose high four bits are the pixels. -/
def font : List Byte := [
  0xF0, 0x90, 0x90, 0x90, 0xF0,
  0x20, 0x60, 0x20, 0x20, 0x70,
  0xF0, 0x10, 0xF0, 0x80, 0xF0,
  0xF0, 0x10, 0xF0, 0x10, 0xF0,
  0x90, 0x90, 0xF0, 0x10, 0x10,
  0xF0, 0x80, 0xF0, 0x10, 0xF0,
  0xF0, 0x80, 0xF0, 0x90, 0xF0,
  0xF0, 0x10, 0x20, 0x40, 0x40,
  0xF0, 0x90, 0xF0, 0x90, 0xF0,
  0xF0, 0x90, 0xF0, 0x10, 0xF0,
  0xF0, 0x90, 0xF0, 0x90, 0x90,
  0xE0, 0x90, 0xE0, 0x90, 0xE0,
  0xF0, 0x80, 0x80, 0x80, 0xF0,
  0xE0, 0x90, 0x90, 0x90, 0xE0,
  0xF0, 0x80, 0xF0, 0x80, 0xF0,
  0xF0, 0x80, 0xF0, 0x80, 0x80]

end Chip8.Layout
