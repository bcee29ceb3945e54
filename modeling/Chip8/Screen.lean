import Chip8.Layout

/-!
# Screen

A grid of lit and dark cells. Drawing flips the cells under the lit pixels of a sprite; a sprite
that leaves the screen at one side comes in at the other.
-/

namespace Chip8

/-- The cells of the screen, row by row from the top. -/
structure Screen where
  cells : Vector Bool (Layout.width * Layout.height)
deriving DecidableEq, Repr

namespace Screen

/-- The place of a cell; rows and columns beyond the edge count on from the other side. -/
def position (row column : Nat) : Fin (Layout.width * Layout.height) :=
  ⟨row % Layout.height * Layout.width + column % Layout.width, by
    simp only [Layout.width, Layout.height]; omega⟩

/-- A screen without a lit cell. -/
def blank : Screen := ⟨Vector.replicate _ false⟩

/-- Whether the cell at a row and column is lit. -/
def isLit (s : Screen) (row column : Nat) : Bool := s.cells[position row column]

/-- The screen with one cell flipped. -/
def flip (s : Screen) (place : Fin (Layout.width * Layout.height)) : Screen :=
  ⟨s.cells.set place.val (!s.cells[place])⟩

/-- Whether the cell at a place is lit. -/
def litAt (s : Screen) (place : Fin (Layout.width * Layout.height)) : Bool := s.cells[place]

/-- The cells under the lit pixels of a sprite whose upper left corner is at column `x` and row `y`.
Each byte is a row of eight pixels, the high bit at the left. -/
def spriteCells (x y : Byte) (sprite : List Byte) : List (Fin (Layout.width * Layout.height)) :=
  sprite.zipIdx.flatMap fun (pixels, row) =>
    (List.range 8).filterMap fun column =>
      if pixels.getMsbD column then some (position (y.toNat + row) (x.toNat + column)) else none

/-- The screen with the cells of a list flipped. -/
def flipAll (s : Screen) (places : List (Fin (Layout.width * Layout.height))) : Screen :=
  places.foldl flip s

/-- Whether one of the cells is lit. -/
def hits (s : Screen) (places : List (Fin (Layout.width * Layout.height))) : Bool :=
  places.any (s.cells[·])

/-- The rows of the screen from the top, each from the left. -/
def rows (s : Screen) : List (List Bool) :=
  (List.range Layout.height).map fun row => (List.range Layout.width).map fun column =>
    s.isLit row column

end Screen

end Chip8
