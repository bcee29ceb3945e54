import Mathlib.Tactic.Lemma
import Chip8.Listing

/-!
# Listings entry by entry

A listing has one entry for every two bytes, two addresses apart (`getElem?_disassemble`), and none
for a byte that is left over (`length_disassemble`).
-/

namespace Chip8

/-- There is one entry for every two bytes. -/
lemma length_disassemble (origin : Int) (bytes : List Byte) :
    (disassemble origin bytes).length = bytes.length / 2 := by
  induction origin, bytes using disassemble.induct with
  | case1 origin high low rest ih =>
    rw [disassemble, List.length_cons, ih, List.length_cons, List.length_cons]
    omega
  | case2 bytes origin short =>
    match bytes, short with
    | [], _ | [_], _ => simp [disassemble]
    | high :: low :: rest, short => exact absurd rfl (short high low rest)

/-- Each entry has the address of its two bytes and the instruction that they stand for. -/
lemma getElem?_disassemble_eq_some_iff {origin : Int} {bytes : List Byte} {k : Nat}
    {entry : ListingEntry} :
    (disassemble origin bytes)[k]? = some entry ↔
      ∃ inside : 2 * k + 1 < bytes.length,
        entry = ⟨origin + 2 * k, .decode (.ofBytes bytes[2 * k] bytes[2 * k + 1])⟩ := by
  induction origin, bytes using disassemble.induct generalizing k with
  | case1 origin high low rest ih =>
    cases k with
    | zero => simp [disassemble, eq_comm]
    | succ k =>
      have further : origin + 2 + 2 * (k : Int) = origin + 2 * ((k + 1 : Nat) : Int) := by omega
      have shorter : 2 * (k + 1) + 1 < (high :: low :: rest).length ↔ 2 * k + 1 < rest.length := by
        rw [List.length_cons, List.length_cons]
        omega
      rw [disassemble, List.getElem?_cons_succ, ih, further]
      constructor
      · rintro ⟨inside, rfl⟩
        exact ⟨shorter.2 inside, rfl⟩
      · rintro ⟨inside, rfl⟩
        exact ⟨shorter.1 inside, rfl⟩
  | case2 bytes origin short =>
    match bytes, short with
    | [], _ | [_], _ => simp [disassemble]
    | high :: low :: rest, short => exact absurd rfl (short high low rest)

/-- Two bytes at an even offset are listed as the word that they make up. -/
lemma mem_disassemble {origin : Int} {bytes : List Byte} {k : Nat} {high low : Byte}
    (first : bytes[2 * k]? = some high) (second : bytes[2 * k + 1]? = some low) :
    ⟨origin + 2 * k, .decode (.ofBytes high low)⟩ ∈ disassemble origin bytes := by
  obtain ⟨_, rfl⟩ := List.getElem?_eq_some_iff.1 first
  obtain ⟨inside, rfl⟩ := List.getElem?_eq_some_iff.1 second
  exact List.mem_iff_getElem?.2 ⟨k, getElem?_disassemble_eq_some_iff.2 ⟨inside, rfl⟩⟩

end Chip8
