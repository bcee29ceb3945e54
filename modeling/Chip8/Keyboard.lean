import Chip8.Word

/-!
# Keyboard

Where the sixteen keys of the keypad are on a keyboard: a block of four by four, whose places stand
for the keypad

```
1 2 3 4      1 2 3 C
Q W E R  for 4 5 6 D
A S D F      7 8 9 E
Z X C V      A 0 B F
```

A key of the keyboard reports a symbol, which for these keys is the code of its character.
-/

namespace Chip8

/-- A key of the keyboard and the key of the keypad it stands for. -/
structure KeyBinding where
  name : String
  symbol : Int
  key : Nibble
deriving DecidableEq, Repr

namespace Keyboard

/-- The keys of the block, row by row. -/
def bindings : List KeyBinding := [
  ⟨"_1", 49, 0x1⟩, ⟨"_2", 50, 0x2⟩, ⟨"_3", 51, 0x3⟩, ⟨"_4", 52, 0xC⟩,
  ⟨"Q", 113, 0x4⟩, ⟨"W", 119, 0x5⟩, ⟨"E", 101, 0x6⟩, ⟨"R", 114, 0xD⟩,
  ⟨"A", 97, 0x7⟩, ⟨"S", 115, 0x8⟩, ⟨"D", 100, 0x9⟩, ⟨"F", 102, 0xE⟩,
  ⟨"Z", 122, 0xA⟩, ⟨"X", 120, 0x0⟩, ⟨"C", 99, 0xB⟩, ⟨"V", 118, 0xF⟩]

/-- The key that closes the window. -/
def escape : Int := 0xFF1B

/-- The key that turns logging on and off. -/
def toggleLogging : Int := 0xFFBE

/-- The key of the keypad that a symbol stands for. -/
def key? (symbol : Int) : Option Nibble := (bindings.find? (·.symbol == symbol)).map KeyBinding.key

end Keyboard

end Chip8
