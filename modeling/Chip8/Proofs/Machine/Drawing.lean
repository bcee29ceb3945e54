import Chip8.Proofs.Machine.Addressing
import Chip8.Proofs.Machine.Frame
import Chip8.Proofs.Screen.Flip

/-!
# Drawing a sprite

The screen, the flag and the redraw request after a sprite has been drawn, cell by cell. `draws`
says in the coordinates of the screen which cells a drawing instruction flips; it looks at the
machine before the instruction, so it does not matter whether a coordinate comes from the flag
register.
-/

namespace Chip8.Machine

variable {m : Machine} {i : Instruction}

/-- Whether a drawing instruction has a lit pixel over a cell. Rows are counted downwards and
columns to the right from the corner of the sprite, around the edges of the screen. -/
def draws (m : Machine) (i : Instruction) (row column : Nat) : Bool :=
  let down := ((row : Int) - (m.v i.y).toNat) % Layout.height
  let right := ((column : Int) - (m.v i.x).toNat) % Layout.width
  down < i.n.toNat && right < 8 &&
    (m.byteAt (BitVec.ofNat 12 (m.index.toNat + down.toNat))).getLsbD (7 - right.toNat)

/-- As many bytes are read as were asked for. -/
lemma length_readSpan (count : Nat) : (m.readSpan count).length = count := by
  rw [readSpan, readFrom, List.length_map, List.length_range]

/-- The bytes of a stretch are those at the addresses from the index register on. -/
lemma getElem_readSpan {count j : Nat} (h : j < (m.readSpan count).length) :
    (m.readSpan count)[j] = m.byteAt (BitVec.ofNat 12 (m.index.toNat + j)) := by
  simp only [readSpan, readFrom, List.getElem_map, List.getElem_range]

/-- The cells that an instruction draws are the cells of its sprite. -/
lemma draws_iff {row column : Nat} :
    m.draws i row column = true ↔
      Screen.position row column ∈ Screen.spriteCells (m.v i.x) (m.v i.y)
        (m.readSpan i.n.toNat) := by
  have bound : i.n.toNat < 16 := i.n.isLt
  simp only [draws, Bool.and_eq_true, decide_eq_true_eq, Screen.mem_spriteCells,
    Screen.position_eq_iff, length_readSpan, getElem_readSpan, BitVec.getMsbD_eq_getLsbD,
    Layout.height, Layout.width]
  constructor
  · rintro ⟨⟨tall, wide⟩, lit⟩
    refine ⟨_, ?_, (((column : Int) - (m.v i.x).toNat) % 64).toNat, ?_, ⟨?_, lit⟩, ?_, ?_⟩ <;> omega
  · rintro ⟨r, tall, c, wide, ⟨_, lit⟩, rows, columns⟩
    have down : ((row : Int) - (m.v i.y).toNat) % (32 : Nat) = r := by omega
    have right : ((column : Int) - (m.v i.x).toNat) % (64 : Nat) = c := by omega
    rw [down, right]
    exact ⟨⟨by omega, by omega⟩, lit⟩

/-- Every cell has a row and a column on the screen. -/
lemma exists_position (p : Fin (Layout.width * Layout.height)) :
    ∃ row < Layout.height, ∃ column < Layout.width, Screen.position row column = p := by
  have bound := p.isLt
  refine ⟨p / Layout.width, ?_, p % Layout.width, ?_, Fin.ext ?_⟩ <;>
    simp only [Screen.position, Layout.width, Layout.height] at bound ⊢ <;> omega

/-- A sprite hits something if some cell it flips is lit. -/
lemma hits_iff :
    m.screen.hits (Screen.spriteCells (m.v i.x) (m.v i.y) (m.readSpan i.n.toNat)) = true ↔
      ∃ row < Layout.height, ∃ column < Layout.width,
        m.draws i row column = true ∧ m.screen.isLit row column = true := by
  rw [Screen.hits, List.any_eq_true]
  constructor
  · rintro ⟨p, hp, lit⟩
    obtain ⟨row, hr, column, hc, rfl⟩ := exists_position p
    exact ⟨row, hr, column, hc, draws_iff.2 hp, lit⟩
  · rintro ⟨row, _, column, _, drawn, lit⟩
    exact ⟨_, draws_iff.1 drawn, lit⟩

/-- A drawing instruction flips the cells it draws. -/
lemma isLit_drawSprite (row column : Nat) :
    (m.drawSprite (m.v i.x) (m.v i.y) i.n.toNat).screen.isLit row column =
      (m.screen.isLit row column ^^ m.draws i row column) := by
  have nodup : (Screen.spriteCells (m.v i.x) (m.v i.y) (m.readSpan i.n.toNat)).Nodup := by
    apply Screen.nodup_spriteCells
    rw [length_readSpan]
    exact Nat.le_of_lt (Nat.lt_trans i.n.isLt (by decide))
  have flipped :=
    Screen.litAt_flipAll_of_nodup (s := m.screen) (q := Screen.position row column) nodup
  have same : (Screen.spriteCells (m.v i.x) (m.v i.y) (m.readSpan i.n.toNat)).contains
      (Screen.position row column)
      = m.draws i row column := by
    rw [Bool.eq_iff_iff, List.contains_iff_mem, draws_iff]
  rw [← same]
  exact flipped

/-- Drawing flips the cells that the sprite draws on, and no other. -/
lemma isLit_effect_draw (m : Machine) (opcode : Word) (row column : Nat) :
    (m.effect ⟨.draw, opcode⟩).screen.isLit row column =
      (m.screen.isLit row column ^^ m.draws ⟨.draw, opcode⟩ row column) := by
  have screen : (m.effect ⟨.draw, opcode⟩).screen = m.nextScreen ⟨.draw, opcode⟩ := by
    rw [effect_eq]
  rw [screen]
  exact isLit_drawSprite row column

/-- A drawing instruction tells in the flag register whether a cell that it draws was lit. -/
lemma flag_effect_draw (m : Machine) (opcode : Word) :
    (m.effect ⟨.draw, opcode⟩).v flagRegister =
      if ∃ row < Layout.height, ∃ column < Layout.width,
          m.draws ⟨.draw, opcode⟩ row column = true ∧ m.screen.isLit row column =
            true then 1 else 0 := by
  have flag : (m.effect ⟨.draw, opcode⟩).v flagRegister = if m.screen.hits _ then 1 else 0 :=
    v_setV _ _
  rw [flag]
  exact if_congr hits_iff rfl rfl

/-- The closed form of drawing. A machine that wraps always draws; whenever a machine draws, exactly
the cells under lit pixels are flipped, the flag tells whether one of them was lit before, and a
redraw is asked for. -/
theorem draw_closed_form (m : Machine) (opcode : Word) :
    (m.options.strict = false → ∃ m', m.execute ⟨.draw, opcode⟩ = .ok m') ∧
    ∀ m', m.execute ⟨.draw, opcode⟩ = .ok m' →
      (∀ row < Layout.height, ∀ column < Layout.width,
        m'.screen.isLit row column =
          (m.screen.isLit row column ^^ m.draws ⟨.draw, opcode⟩ row column)) ∧
      (m'.v flagRegister =
        if ∃ row < Layout.height, ∃ column < Layout.width,
            m.draws ⟨.draw, opcode⟩ row column = true ∧ m.screen.isLit row column =
              true then 1 else 0) ∧
      m'.redraw = true := by
  constructor
  · intro wraps
    have accepted := fault?_of_not_strict (i := ⟨.draw, opcode⟩) wraps nofun nofun
    exact ⟨_, execute_eq_ok_iff.2 ⟨accepted, rfl⟩⟩
  · intro m' run
    obtain ⟨_, rfl⟩ := execute_eq_ok_iff.1 run
    refine ⟨fun row _ column _ => ?_, ?_, rfl⟩
    · exact isLit_drawSprite row column
    · have flag : (m.effect ⟨.draw, opcode⟩).v flagRegister = if m.screen.hits _ then 1 else 0 :=
        v_setV _ _
      rw [flag]
      exact if_congr hits_iff rfl rfl

/-- The glyph of zero drawn from column 62 and row 30, both taken from the flag register, reaches
the opposite corner of the screen. -/
theorem draw_around_corner :
    let m : Machine := (fresh ⟨.bit, false, true⟩ false (.cycle 0 [])).setV flagRegister 62
    ∃ m', m.execute ⟨.draw, 0xDFF5⟩ = .ok m' ∧ m'.screen.isLit 30 62 = true ∧
      m'.screen.isLit 2 0 = true ∧
      m'.screen.isLit 1 0 = false ∧ m'.v flagRegister = 0 := by
  intro m
  obtain ⟨m', run⟩ := (draw_closed_form m 0xDFF5).1 rfl
  obtain ⟨cells, flag, _⟩ := (draw_closed_form m 0xDFF5).2 m' run
  refine ⟨m', run, ?_, ?_, ?_, ?_⟩
  · rw [cells 30 (by decide) 62 (by decide)]
    decide +kernel
  · rw [cells 2 (by decide) 0 (by decide)]
    decide +kernel
  · rw [cells 1 (by decide) 0 (by decide)]
    decide +kernel
  · rw [flag]
    decide +kernel

end Chip8.Machine
