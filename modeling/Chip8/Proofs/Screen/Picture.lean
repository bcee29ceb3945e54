import Mathlib.Tactic.Lemma
import Mathlib.Tactic.Ring
import Chip8.Picture

/-!
# The size of a picture

Enlarging multiplies a length (`length_enlarge`), so the picture of a grid whose rows are equally
long has as many pixels as the grid has cells, times the square of the scale, and four bytes for
each (`length_bytes_ofGrid`). The rows of a screen are equally long, so the size of its picture is
that of the window it is shown in (`length_bytes_render`).
-/

namespace Chip8

namespace Picture

variable {α β : Type} {scale : Nat} {grid : List (List Byte)}

/-- A list of lists of one length is flattened to the product of the lengths. -/
lemma length_flatMap_of_length_eq {f : α → List β} {xs : List α} {n : Nat}
    (each : ∀ x ∈ xs, (f x).length = n) :
    (xs.flatMap f).length = xs.length * n := by
  rw [List.length_flatMap, List.map_congr_left each, List.map_const', List.sum_replicate_nat]

/-- Every element becomes `scale` elements. -/
lemma length_enlarge (xs : List α) : (enlarge scale xs).length = xs.length * scale :=
  length_flatMap_of_length_eq fun _ _ => List.length_replicate

/-- An element of an enlarged list is one of the list itself. -/
lemma mem_of_mem_enlarge {x : α} {xs : List α} (inside : x ∈ enlarge scale xs) : x ∈ xs := by
  obtain ⟨y, mem, same⟩ := List.mem_flatMap.1 inside
  rw [List.eq_of_mem_replicate same]
  exact mem

/-- A picture has four bytes for each pixel. -/
lemma length_bytes (p : Picture) : p.bytes.length = p.pixels.length * 4 :=
  length_flatMap_of_length_eq fun _ _ => rfl

/-- Every element once is the list itself. -/
lemma enlarge_one (xs : List α) : enlarge 1 xs = xs := List.flatMap_singleton' xs

/-- Squares of one pixel are the pixels themselves. -/
lemma upscale_one (p : Picture) : p.upscale 1 = p := by
  have same : enlarge 1 = (id : List Color → List Color) := funext enlarge_one
  rw [upscale, enlarge_one, same, List.map_id]

/-- Single pixels are squares as well, so repetition is always what makes a picture. -/
lemma ofGrid_eq_upscale : ofGrid grid scale = (ofCells grid).upscale scale := by
  rw [ofGrid]
  split
  · next single => rw [single, upscale_one]
  · rfl

/-- A picture has a row for each row of the grid, `scale` times. -/
lemma length_rows_ofGrid : (ofGrid grid scale).rows.length = grid.length * scale := by
  rw [ofGrid_eq_upscale, upscale, List.length_map, length_enlarge, ofCells, List.length_map,
    List.length_reverse]

/-- A row of a picture has a pixel for each cell of a row of the grid, `scale` times. -/
lemma length_of_mem_rows_ofGrid {columns : Nat} (uniform : ∀ row ∈ grid, row.length = columns)
    {row : List Color} (inside : row ∈ (ofGrid grid scale).rows) :
    row.length = columns * scale := by
  rw [ofGrid_eq_upscale] at inside
  obtain ⟨colors, repeated, rfl⟩ := List.mem_map.1 inside
  obtain ⟨cells, mem, rfl⟩ := List.mem_map.1 (mem_of_mem_enlarge repeated)
  rw [length_enlarge, List.length_map, uniform cells (List.mem_reverse.1 mem)]

/-- The bytes of a picture: four for each pixel of each row. -/
lemma length_bytes_ofGrid {columns : Nat} (uniform : ∀ row ∈ grid, row.length = columns) :
    (ofGrid grid scale).bytes.length = grid.length * scale * (columns * scale) * 4 := by
  have each : ∀ row ∈ (ofGrid grid scale).rows, (id row).length = columns * scale := fun _ inside =>
    length_of_mem_rows_ofGrid uniform inside
  rw [length_bytes, pixels, ← List.flatMap_id, length_flatMap_of_length_eq each, length_rows_ofGrid]

end Picture

namespace Screen

/-- Cell by cell, a one stands for a cell that is lit. -/
lemma grid_eq (s : Screen) :
    s.grid = (List.range 32).map fun row => (List.range 64).map fun column =>
      if s.isLit row column then 1 else 0 := by
  rw [grid, rows, List.map_map]
  apply List.map_congr_left
  intro row _
  exact List.map_map

/-- The grid of a screen has as many rows as the screen. -/
lemma length_grid (s : Screen) : s.grid.length = Layout.height := by
  rw [grid, rows, List.length_map, List.length_map, List.length_range]

/-- A row of it has as many cells as one of the screen. -/
lemma length_of_mem_grid {s : Screen} {row : List Byte} (inside : row ∈ s.grid) :
    row.length = Layout.width := by
  obtain ⟨cells, mem, same⟩ := List.mem_map.1 inside
  obtain ⟨r, _, same'⟩ := List.mem_map.1 mem
  rw [← same, ← same', List.length_map, List.length_map, List.length_range]

/-- The picture of a screen fills a window of the size of the screen. -/
lemma length_bytes_render {s : Screen} {scale : Int} {picture : Picture}
    (rendered : Picture.render s.grid scale = .ok picture) :
    (picture.bytes.length : Int) = Layout.width * scale * 4 * (Layout.height * scale) := by
  rw [Picture.render] at rendered
  split at rendered
  · cases rendered
  · next visible =>
    cases rendered
    obtain ⟨n, rfl⟩ := Int.eq_ofNat_of_zero_le (Int.not_lt.1 visible)
    rw [Picture.length_bytes_ofGrid fun _ => length_of_mem_grid, length_grid, Int.toNat_natCast]
    simp only [Layout.width, Layout.height]
    push_cast
    ring

end Screen

end Chip8
