import Mathlib.Data.List.Flatten
import Mathlib.Data.List.Nodup
import Mathlib.Tactic.Lemma
import Chip8.Screen

/-!
# Flipping cells

What a list of flips does to each cell of a screen, and which cells lie under the lit pixels of a
sprite. Flips are counted: after `flipAll` a cell differs from before exactly if it occurs an odd
number of times in the list. A sprite no taller than the screen lists no cell twice
(`nodup_spriteCells`), so it flips each of its cells once, and looking for lit cells beforehand
(`hits`) is the same as looking at each cell when its turn comes (`foldl_strike`). Lists in which
every cell occurs with the same parity do the same to every screen (`flipAll_of_count_mod_eq`).
-/

namespace Chip8.Screen

variable {s : Screen} {x y : Byte} {sprite : List Byte} {q : Fin (Layout.width * Layout.height)}

/-- Two pairs of coordinates are the same cell if they agree after wrapping around. -/
lemma position_eq_iff {row column row' column' : Nat} :
    position row column = position row' column' ↔
      row % Layout.height = row' % Layout.height ∧ column % Layout.width =
        column' % Layout.width := by
  simp only [position, Fin.mk.injEq, Layout.height, Layout.width]
  omega

/-- A flip changes its own cell and no other. -/
lemma litAt_flip (p : Fin (Layout.width * Layout.height)) :
    (s.flip p).litAt q = (s.litAt q ^^ decide (p = q)) := by
  by_cases e : p = q
  · subst e
    simp [flip, litAt]
  · have ne : p.val ≠ q.val := fun h => e (Fin.ext h)
    simp [flip, litAt, Vector.getElem_set_ne, ne, e]

/-- A list of flips changes the cells that occur in it an odd number of times. -/
lemma litAt_flipAll (places : List (Fin (Layout.width * Layout.height))) :
    (s.flipAll places).litAt q = (s.litAt q ^^ decide (places.count q % 2 = 1)) := by
  induction places generalizing s with
  | nil => simp [flipAll]
  | cons p places ih =>
    have h := ih (s := s.flip p)
    rw [show s.flipAll (p :: places) = (s.flip p).flipAll places from rfl, h, litAt_flip,
      Bool.xor_assoc]
    congr 1
    by_cases e : p = q
    · subst e
      rw [List.count_cons_self]
      rcases Nat.mod_two_eq_zero_or_one (places.count p) with even | odd
      · simp [even, Nat.add_mod]
      · simp [odd, Nat.add_mod]
    · rw [List.count_cons_of_ne e]
      simp [e]

/-- A list of flips without repetition changes the cells of the list. -/
lemma litAt_flipAll_of_nodup {places : List (Fin (Layout.width * Layout.height))}
    (nodup : places.Nodup) :
    (s.flipAll places).litAt q = (s.litAt q ^^ places.contains q) := by
  rw [litAt_flipAll, nodup.count]
  by_cases h : q ∈ places
  · simp [h]
  · simp [h]

/-- Screens with the same cells lit are the same. -/
lemma eq_of_litAt_eq {t : Screen} (same : ∀ q, s.litAt q = t.litAt q) : s = t := by
  obtain ⟨cells⟩ := s
  obtain ⟨cells'⟩ := t
  congr 1
  apply Vector.ext
  intro j inside
  exact same ⟨j, inside⟩

/-- What a list of flips does depends on the parity of each cell in it alone. -/
lemma flipAll_of_count_mod_eq {places places' : List (Fin (Layout.width * Layout.height))}
    (same : ∀ q, places.count q % 2 = places'.count q % 2) :
    s.flipAll places = s.flipAll places' := by
  apply eq_of_litAt_eq
  intro q
  rw [litAt_flipAll, litAt_flipAll, same]

/-- One cell flipped, and whether it or an earlier one was lit when its turn came. -/
def strike (state : Screen × Bool) (place : Fin (Layout.width * Layout.height)) : Screen × Bool :=
  (state.1.flip place, state.2 || state.1.litAt place)

/-- Without repetition, cells that are lit when their turn comes were lit from the start. -/
lemma foldl_strike {places : List (Fin (Layout.width * Layout.height))} (nodup : places.Nodup)
    (hit : Bool) :
    places.foldl strike (s, hit) = (s.flipAll places, hit || s.hits places) := by
  induction places generalizing s hit with
  | nil => simp [flipAll, hits]
  | cons p places ih =>
    obtain ⟨fresh, nodup⟩ := List.nodup_cons.1 nodup
    -- The cells that are left do not see the flip of `p`.
    have same : (s.flip p).hits places = s.hits places := by
      rw [Bool.eq_iff_iff, hits, hits, List.any_eq_true, List.any_eq_true]
      have untouched : ∀ r ∈ places, (s.flip p).litAt r = s.litAt r := by
        intro r hr
        have ne : p ≠ r := fun e => fresh (e ▸ hr)
        rw [litAt_flip]
        simp [ne]
      constructor
      · rintro ⟨r, hr, lit⟩
        exact ⟨r, hr, (untouched r hr).symm.trans lit⟩
      · rintro ⟨r, hr, lit⟩
        exact ⟨r, hr, (untouched r hr).trans lit⟩
    rw [List.foldl_cons, strike, ih nodup, same, Bool.or_assoc]
    rfl

/-- The cells under the lit pixels of one row of a sprite. -/
def rowCells (x y pixels : Byte) (row : Nat) : List (Fin (Layout.width * Layout.height)) :=
  (List.range 8).filterMap fun column =>
    if pixels.getMsbD column then some (position (y.toNat + row) (x.toNat + column)) else none

/-- A row without pixels has no cells. -/
lemma rowCells_zero (row : Nat) : rowCells x y 0 row = [] := by
  rw [rowCells, List.filterMap_eq_nil_iff]
  intro column _
  simp

/-- The cells of a sprite are those of its rows, one row after the other. -/
lemma spriteCells_map_range (count : Nat) (rows : Nat → Byte) :
    spriteCells x y ((List.range count).map rows) =
      (List.range count).flatMap fun row => rowCells x y (rows row) row := by
  have numbered : ((List.range count).map rows).zipIdx = (List.range count).map fun row =>
      (rows row, row) := by
    apply List.ext_getElem
    · simp
    · intro j _ _
      simp
  rw [spriteCells, numbered, List.flatMap_map]
  rfl

/-- A sprite is drawn around the edges of the screen, so its corner counts modulo their lengths. -/
lemma spriteCells_of_mod_eq {x' y' : Byte}
    (columns : x.toNat % Layout.width = x'.toNat % Layout.width)
    (rows : y.toNat % Layout.height = y'.toNat % Layout.height) :
    spriteCells x y sprite = spriteCells x' y' sprite := by
  have places (row column : Nat) :
      position (y.toNat + row) (x.toNat + column) = position (y'.toNat + row) (x'.toNat + column) :=
    position_eq_iff.2 ⟨Nat.add_mod_eq_add_mod_right row rows,
      Nat.add_mod_eq_add_mod_right column columns⟩
  simp only [spriteCells, places]

/-- A cell lies under a sprite if some lit pixel is drawn there. -/
lemma mem_spriteCells :
    q ∈ spriteCells x y sprite ↔
      ∃ (row : Nat) (h : row < sprite.length) (column : Nat),
        column < 8 ∧ sprite[row].getMsbD column = true ∧
        position (y.toNat + row) (x.toNat + column) = q := by
  simp only [spriteCells, List.mem_flatMap, List.mem_filterMap, Prod.exists,
    List.mk_mem_zipIdx_iff_getElem?, List.mem_range, Option.ite_none_right_eq_some,
    Option.some.injEq, List.getElem?_eq_some_iff]
  constructor
  · rintro ⟨pixels, row, ⟨h, rfl⟩, column, inside, lit, e⟩
    exact ⟨row, h, column, inside, lit, e⟩
  · rintro ⟨row, h, column, inside, lit, e⟩
    exact ⟨_, row, ⟨h, rfl⟩, column, inside, lit, e⟩

/-- A sprite no taller than the screen draws no cell twice. -/
lemma nodup_spriteCells (fits : sprite.length ≤ Layout.height) :
    (spriteCells x y sprite).Nodup := by
  simp only [Layout.height] at fits
  rw [spriteCells, List.nodup_flatMap]
  constructor
  · -- Within a row the columns are fewer than those of the screen.
    rintro ⟨pixels, row⟩ _
    rw [List.Nodup, List.pairwise_filterMap]
    apply List.pairwise_lt_range.imp_of_mem
    intro a b ha hb lt p hp p' hp' e
    simp only [Option.ite_none_right_eq_some, Option.some.injEq, List.mem_range] at hp hp' ha hb
    obtain ⟨_, ca⟩ := position_eq_iff.1 (hp.2.trans (e.trans hp'.2.symm))
    simp only [Layout.width] at ca
    omega
  · -- Different rows of the sprite are different rows of the screen.
    rw [List.pairwise_iff_getElem]
    intro i j hi hj lt p hp hp'
    simp only [List.getElem_zipIdx, List.length_zipIdx, List.mem_filterMap,
      Option.ite_none_right_eq_some, Option.some.injEq] at hp hp' hi hj
    obtain ⟨a, _, _, e⟩ := hp
    obtain ⟨b, _, _, e'⟩ := hp'
    obtain ⟨ra, _⟩ := position_eq_iff.1 (e.trans e'.symm)
    simp only [Layout.height] at ra
    omega

end Chip8.Screen
