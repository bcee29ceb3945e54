import Chip8.Screen

/-!
# Pictures

A grid of cells as coloured pixels. The rows of a picture go upward, so the last row of the grid
comes first, and each cell becomes a square of pixels.
-/

namespace Chip8

/-- A colour with its opacity. -/
structure Color where
  red : Byte
  green : Byte
  blue : Byte
  alpha : Byte
deriving DecidableEq, Repr

namespace Color

/-- The opaque shade of gray of a cell: black for 0, white for 1. -/
def ofCell (cell : Byte) : Color := ⟨cell * 255, cell * 255, cell * 255, 255⟩

/-- The four bytes of a colour. -/
def bytes (c : Color) : List Byte := [c.red, c.green, c.blue, c.alpha]

/-- Opaque white. -/
def white : Color := ⟨255, 255, 255, 255⟩

end Color

/-- Rows of pixels, from the bottom up. -/
structure Picture where
  rows : List (List Color)
deriving DecidableEq, Repr

/-- A picture cannot have a negative size. -/
inductive PictureError where
  | negativeSize
deriving DecidableEq, Repr

/-- The text of a picture error. -/
def PictureError.message : PictureError → String
  | negativeSize => "negative dimensions are not allowed"

namespace Picture

/-- The pixels in order. -/
def pixels (p : Picture) : List Color := p.rows.flatten

/-- The bytes of the pixels in order. -/
def bytes (p : Picture) : List Byte := p.pixels.flatMap Color.bytes

/-- Every element `scale` times. -/
def enlarge {α : Type} (scale : Nat) (xs : List α) : List α := xs.flatMap (List.replicate scale)

/-- The picture of a grid whose rows go downward, with one pixel for each cell. -/
def ofCells (grid : List (List Byte)) : Picture := ⟨grid.reverse.map (·.map Color.ofCell)⟩

/-- The picture with a square of `scale` by `scale` pixels for each of its own: first the rows are
repeated, then the pixels of each row. -/
def upscale (p : Picture) (scale : Nat) : Picture := ⟨(enlarge scale p.rows).map (enlarge scale)⟩

/-- The picture of a grid with squares of `scale` by `scale` pixels. Single pixels need no
repetition. -/
def ofGrid (grid : List (List Byte)) (scale : Nat) : Picture :=
  if scale = 1 then ofCells grid else (ofCells grid).upscale scale

/-- The picture of a grid at a scale that may be negative. -/
def render (grid : List (List Byte)) (scale : Int) : Except PictureError Picture :=
  if scale < 0 then .error .negativeSize else .ok (ofGrid grid scale.toNat)

end Picture

/-- The cells of the screen as bytes, from the top row. -/
def Screen.grid (s : Screen) : List (List Byte) :=
  s.rows.map (·.map fun lit => if lit then 1 else 0)

end Chip8
