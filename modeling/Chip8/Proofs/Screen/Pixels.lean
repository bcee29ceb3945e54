import Mathlib.Tactic.Lemma
import Mathlib.Tactic.Ring
import Chip8.Proofs.Screen.Picture

/-!
# Pixels

Which cell a pixel of a picture shows. A list put together from blocks of one length is read block
by block (`take_drop_flatMap`); the rows of a picture, the pixels of an enlarged list and the bytes
of a colour are such blocks, so the place of a pixel among the bytes says the row and the column of
its cell (`pixel_formula`). A shade of gray keeps the value of its cell, so one pixel from each
square gives the grid back (`sampled_bytes`).
-/

namespace Chip8.Picture

variable {α β : Type} {height width scale : Nat} {grid : List (List Byte)}

/-- A grid of so many rows of so many cells. -/
structure Rectangle (height width : Nat) (grid : List (List Byte)) : Prop where
  rows : grid.length = height
  columns : ∀ row ∈ grid, row.length = width

/-- Where all elements become equally long, what one of them becomes is cut out by its place. -/
lemma take_drop_flatMap {f : α → List β} {xs : List α} {n i : Nat} {x : α}
    (each : ∀ y ∈ xs, (f y).length = n) (place : xs[i]? = some x) :
    ((xs.flatMap f).drop (i * n)).take n = f x := by
  induction xs generalizing i with
  | nil => cases place
  | cons y xs ih =>
    have first : (f y).length = n := each y List.mem_cons_self
    rw [List.flatMap_cons]
    cases i with
    | zero =>
      cases place
      rw [Nat.zero_mul, List.drop_zero, List.take_left' first]
    | succ i =>
      rw [Nat.succ_mul, Nat.add_comm, ← List.drop_drop, List.drop_left' first]
      exact ih (fun z inside => each z (List.mem_cons_of_mem y inside)) place

/-- The same for a single element of what it becomes. -/
lemma getElem?_flatMap {f : α → List β} {xs : List α} {n i j : Nat} {x : α}
    (each : ∀ y ∈ xs, (f y).length = n) (place : xs[i]? = some x) (inside : j < n) :
    (xs.flatMap f)[i * n + j]? = (f x)[j]? := by
  rw [← take_drop_flatMap each place, List.getElem?_take_of_lt inside, List.getElem?_drop]

/-- An element of an enlarged list is the one at its place divided by the scale. -/
lemma getElem?_enlarge {xs : List α} {i : Nat} {x : α} (visible : 1 ≤ scale)
    (place : xs[i / scale]? = some x) :
    (enlarge scale xs)[i]? = some x := by
  have inside : i % scale < scale := Nat.mod_lt i visible
  have split : i = i / scale * scale + i % scale := (Nat.div_add_mod' i scale).symm
  rw [split, enlarge, getElem?_flatMap (fun _ _ => List.length_replicate) place inside]
  exact List.getElem?_replicate_of_lt inside

/-- The shade of a cell is its value times 255, which is its negation, so doing it again gives the
value back. -/
lemma shade_twice (cell : Byte) : cell * 255 * 255 = cell := by
  rw [BitVec.mul_assoc]
  exact BitVec.mul_one cell

/-- The shade of a cell is a product of bytes. -/
lemma toNat_shade (cell : Byte) : (cell * 255).toNat = cell.toNat * 255 % 256 :=
  BitVec.toNat_mul cell 255

section Place

variable {row column : Nat} {cells : List Byte} {cell : Byte}

/-- The rows of a picture go upward, so the row of the grid is counted from its end. -/
lemma getElem?_rows (shape : Rectangle height width grid) (visible : 1 ≤ scale)
    (low : row < height * scale) (found : grid[height - 1 - row / scale]? = some cells) :
    (ofGrid grid scale).rows[row]? = some (enlarge scale (cells.map Color.ofCell)) := by
  have below : row / scale < grid.length := by
    rw [shape.rows]
    exact Nat.div_lt_of_lt_mul (Nat.mul_comm height scale ▸ low)
  have upward : grid.reverse[row / scale]? = some cells := by
    rw [List.getElem?_reverse below, shape.rows]
    exact found
  have colored : (ofCells grid).rows[row / scale]? = some (cells.map Color.ofCell) := by
    rw [ofCells, List.getElem?_map, upward]
    rfl
  rw [ofGrid_eq_upscale, upscale, List.getElem?_map, getElem?_enlarge visible colored]
  rfl

/-- A pixel has the colour of the cell that it lies in. -/
lemma getElem?_pixels (shape : Rectangle height width grid) (visible : 1 ≤ scale)
    (low : row < height * scale) (left : column < width * scale)
    (found : grid[height - 1 - row / scale]? = some cells)
    (here : cells[column / scale]? = some cell) :
    (ofGrid grid scale).pixels[row * (width * scale) + column]? = some (Color.ofCell cell) := by
  have each : ∀ line ∈ (ofGrid grid scale).rows, (id line).length = width * scale := fun _ inside =>
    length_of_mem_rows_ofGrid shape.columns inside
  have colored : (cells.map Color.ofCell)[column / scale]? = some (Color.ofCell cell) := by
    rw [List.getElem?_map, here]
    rfl
  rw [pixels, ← List.flatMap_id, getElem?_flatMap each (getElem?_rows shape visible low found) left]
  exact getElem?_enlarge visible colored

/-- The four bytes of a pixel are those of the colour of its cell. -/
lemma take_drop_bytes (shape : Rectangle height width grid) (visible : 1 ≤ scale)
    (low : row < height * scale) (left : column < width * scale)
    (found : grid[height - 1 - row / scale]? = some cells)
    (here : cells[column / scale]? = some cell) :
    ((ofGrid grid scale).bytes.drop (4 * (row * width * scale + column))).take 4 =
      (Color.ofCell cell).bytes := by
  have place := getElem?_pixels shape visible low left found here
  rw [Nat.mul_comm 4, Nat.mul_assoc row]
  exact take_drop_flatMap (fun _ _ => rfl) place

/-- A rectangle has a cell at every row and column within it. -/
lemma exists_cell (shape : Rectangle height width grid) (low : row < height)
    (left : column < width) :
    ∃ cells cell, grid[row]? = some cells ∧ cells[column]? = some cell := by
  have inside : row < grid.length := shape.rows.symm ▸ low
  have across : column < grid[row].length := by
    rw [shape.columns _ (List.getElem_mem inside)]
    exact left
  exact ⟨grid[row], grid[row][column], List.getElem?_eq_getElem inside,
    List.getElem?_eq_getElem across⟩

end Place

/-- The cell shown by the lower left pixel of each square, the squares of the top row of the grid
being the last. -/
def sampled (height width scale : Nat) (bytes : List Byte) : List (List Byte) :=
  (List.range height).map fun row => (List.range width).map fun column =>
    bytes.getD (4 * ((height - 1 - row) * scale * width * scale + column * scale)) 0 * 255

/-- The first byte of the first pixel in a cell tells the cell. -/
lemma sampled_cell {row column : Nat} {cells : List Byte} {cell : Byte}
    (shape : Rectangle height width grid) (visible : 1 ≤ scale) (low : row < height)
    (left : column < width) (found : grid[row]? = some cells) (here : cells[column]? = some cell) :
    (ofGrid grid scale).bytes.getD
      (4 * ((height - 1 - row) * scale * width * scale + column * scale)) 0 * 255 =
      cell := by
  have lowest : (height - 1 - row) * scale < height * scale :=
    Nat.mul_lt_mul_of_pos_right (by omega) visible
  have leftmost : column * scale < width * scale := Nat.mul_lt_mul_of_pos_right left visible
  have counted : height - 1 - (height - 1 - row) = row := by omega
  have place :
      (ofGrid grid scale).pixels[(height - 1 - row) * scale * (width * scale) + column * scale]? =
      some (Color.ofCell cell) := by
    apply getElem?_pixels shape visible lowest leftmost
    · rw [Nat.mul_div_cancel _ visible, counted]
      exact found
    · rw [Nat.mul_div_cancel _ visible]
      exact here
  have red :=
    getElem?_flatMap (f := Color.bytes) (j := 0) (fun _ _ => rfl) place (by decide : 0 < 4)
  rw [List.getD_eq_getElem?_getD, Nat.mul_comm 4, Nat.mul_assoc (_ * scale) width, bytes]
  rw [Nat.add_zero] at red
  rw [red]
  exact shade_twice cell

/-- The bytes of a picture tell the grid. -/
lemma sampled_bytes (shape : Rectangle height width grid) (visible : 1 ≤ scale) :
    sampled height width scale (ofGrid grid scale).bytes = grid := by
  apply List.ext_getElem
  · rw [sampled, List.length_map, List.length_range, shape.rows]
  · intro row _ inside
    have low : row < height := shape.rows ▸ inside
    have across : grid[row].length = width := shape.columns _ (List.getElem_mem inside)
    apply List.ext_getElem
    · rw [across]
      simp only [sampled, List.getElem_map, List.length_map, List.length_range]
    · intro column _ inside'
      have left : column < width := across ▸ inside'
      simp only [sampled, List.getElem_map, List.getElem_range]
      exact sampled_cell shape visible low left (List.getElem?_eq_getElem inside)
        (List.getElem?_eq_getElem inside')

/-- A picture has four bytes for each pixel, those of a pixel are the opaque shade of its cell,
single pixels are no exception, and grids of one size with the same picture are the same. -/
theorem pixel_formula (shape : Rectangle height width grid) (visible : 1 ≤ scale) :
    ∃ picture, render grid scale = .ok picture ∧
      picture.bytes.length = 4 * height * width * scale * scale ∧
      (∀ row column, row < height * scale → column < width * scale →
        ∃ cells cell shade, grid[height - 1 - row / scale]? = some cells ∧
        cells[column / scale]? = some cell ∧
          shade.toNat = cell.toNat * 255 % 256 ∧
          (picture.bytes.drop (4 * (row * width * scale + column))).take 4 =
            [shade, shade, shade, 255]) ∧
      picture = (ofCells grid).upscale scale ∧
      sampled height width scale picture.bytes = grid ∧
      ∀ other, Rectangle height width other →
        ∀ picture', render other scale = .ok picture' → picture'.bytes = picture.bytes →
        other = grid := by
  have drawn : ∀ cells, render cells scale = .ok (ofGrid cells scale) := fun _ => rfl
  refine ⟨ofGrid grid scale, drawn grid, ?size, ?pixel, ofGrid_eq_upscale,
    sampled_bytes shape visible, ?told⟩
  case size =>
    rw [length_bytes_ofGrid shape.columns, shape.rows]
    ring
  case pixel =>
    intro row column low left
    have above : height - 1 - row / scale < height := by
      have filled : 0 < height := Nat.pos_of_mul_pos_right (Nat.zero_lt_of_lt low)
      exact Nat.lt_of_le_of_lt (Nat.sub_le (height - 1) (row / scale)) (Nat.sub_one_lt_of_lt filled)
    have across : column / scale < width := Nat.div_lt_of_lt_mul (Nat.mul_comm width scale ▸ left)
    obtain ⟨cells, cell, found, here⟩ := exists_cell shape above across
    exact ⟨cells, cell, cell * 255, found, here, toNat_shade cell,
      take_drop_bytes shape visible low left found here⟩
  case told =>
    intro other shape' picture' rendered same
    rw [drawn] at rendered
    cases rendered
    rw [← sampled_bytes shape' visible, same, sampled_bytes shape visible]

/-- Two rows of three cells in squares of two by two pixels: the first pixel is that of the cell 2
in the last row. -/
theorem small_picture :
    ∃ picture, render [[0, 1, 255], [2, 3, 4]] 2 = .ok picture ∧ picture.bytes.length = 96 ∧
      (picture.bytes.drop 0).take 4 = [254, 254, 254, 255] ∧
      sampled 2 3 2 picture.bytes = [[0, 1, 255], [2, 3, 4]] := by
  have shape : Rectangle 2 3 [[0, 1, 255], [2, 3, 4]] := ⟨rfl, by decide⟩
  obtain ⟨picture, rendered, size, pixel, _, told, _⟩ := pixel_formula shape (by decide : 1 ≤ 2)
  obtain ⟨cells, cell, shade, found, here, value, four⟩ := pixel 0 0 (by decide) (by decide)
  cases found
  cases here
  have dark : shade = 254 := BitVec.eq_of_toNat_eq value
  rw [dark] at four
  exact ⟨picture, rendered, size, four, told⟩

end Chip8.Picture
