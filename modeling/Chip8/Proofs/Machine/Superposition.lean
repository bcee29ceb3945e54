import Mathlib.Algebra.BigOperators.Group.Finset.Lemmas
import Mathlib.Algebra.Group.Nat.Even
import Chip8.Proofs.Machine.Drawing

/-!
# Draws on top of each other

A draw flips the cells of its figure and looks at nothing that another draw changes, so a list of
draws flips the cells of all its figures (`drawAll_of_wraps`). What is left on the screen depends on
the parity with which each figure occurs and not on the order (`flipAll_figures_of_count_mod_eq`). A
draw that finds its registers as they were takes itself back (`execute_draw_again`).
`draws_superpose` states the three together.
-/

namespace Chip8

/-- A drawing instruction, with what it finds in its two registers and in the index register. -/
structure Draw where
  opcode : Word
  column : Byte
  row : Byte
  index : Word

/-- The instruction of a draw. -/
def Draw.instruction (d : Draw) : Instruction := ⟨.draw, d.opcode⟩

/-- What a draw puts on the screen: the place of its corner there, and the rows of its sprite. -/
structure Figure where
  column : Nat
  row : Nat
  sprite : List Byte
deriving DecidableEq

/-- The cells under the lit pixels of a figure. -/
def Figure.cells (f : Figure) : List (Fin (Layout.width * Layout.height)) :=
  Screen.spriteCells (BitVec.ofNat 8 f.column) (BitVec.ofNat 8 f.row) f.sprite

/-! ## Parity -/

/-- If every element of a list occurs in it an even number of times, so does everything in what the
list expands to. -/
lemma even_count_flatMap {α β : Type} [DecidableEq α] [DecidableEq β] {xs : List α} {f : α → List β}
    (even : ∀ x ∈ xs, Even (xs.count x)) (b : β) : Even ((xs.flatMap f).count b) := by
  rw [List.count_flatMap, Finset.sum_list_map_count]
  apply Finset.even_sum
  intro x inside
  rw [Nat.nsmul_eq_mul]
  exact Nat.even_mul.2 (.inl (even x (List.mem_toFinset.1 inside)))

/-- Figures flip the same cells as others among which each figure occurs with the same parity. -/
lemma flipAll_figures_of_count_mod_eq {s : Screen} {figures figures' : List Figure}
    (same : ∀ f, figures.count f % 2 = figures'.count f % 2) :
    s.flipAll (figures.flatMap Figure.cells) = s.flipAll (figures'.flatMap Figure.cells) := by
  apply Screen.flipAll_of_count_mod_eq
  intro q
  -- Together, the two lists contain each figure an even number of times.
  have even : Even (((figures ++ figures').flatMap Figure.cells).count q) := by
    apply even_count_flatMap
    intro f _
    have parity := same f
    rw [List.count_append, Nat.even_iff]
    omega
  rw [List.flatMap_append, List.count_append, Nat.even_iff] at even
  omega

namespace Machine

variable {m m' : Machine}

/-- The machine with the registers of a draw set: the one of the column, then the one of the row,
then the index. -/
def readyFor (m : Machine) (d : Draw) : Machine :=
  { (m.setV d.instruction.x d.column).setV d.instruction.y d.row with index := d.index }

/-- Draws one after the other, each with its registers set before. -/
def drawAll (m : Machine) (ds : List Draw) : Except Fault Machine :=
  ds.foldlM (fun m d => (m.readyFor d).execute d.instruction) m

/-- The figure of a draw, with the corner counted around the edges of the screen. -/
def figure (m : Machine) (d : Draw) : Figure where
  column := ((m.readyFor d).v d.instruction.x).toNat % Layout.width
  row := ((m.readyFor d).v d.instruction.y).toNat % Layout.height
  sprite := (m.readyFor d).readSpan d.instruction.n.toNat

/-! ## One draw -/

/-- The register of the row is set last. -/
lemma v_readyFor (d : Draw) (r : Nibble) (operand : r = d.instruction.x ∨ r = d.instruction.y) :
    (m.readyFor d).v r = if r = d.instruction.y then d.row else d.column := by
  show ((m.setV d.instruction.x d.column).setV d.instruction.y d.row).v r = _
  split
  · next last =>
    rw [last]
    exact v_setV _ _
  · next first =>
    rcases operand with rfl | last
    · rw [v_setV_of_ne _ first]
      exact v_setV _ _
    · exact absurd last first

/-- A figure depends on memory alone. -/
lemma figure_of_memory_eq (same : m'.memory = m.memory) : m'.figure = m.figure := by
  funext d
  have bytes (a : Address) : (m'.readyFor d).byteAt a = (m.readyFor d).byteAt a :=
    congrArg (fun memory => memory[a.toFin]) same
  have sprites (count : Nat) : (m'.readyFor d).readSpan count = (m.readyFor d).readSpan count := by
    simp only [readSpan, readFrom, bytes]
    rfl
  simp only [figure, sprites, v_readyFor d _ (.inl rfl), v_readyFor d _ (.inr rfl)]

/-- A machine that wraps draws the cells of the figure, and keeps its memory and its options. -/
lemma execute_readyFor (wraps : m.options.strict = false) (d : Draw) :
    ∃ m', (m.readyFor d).execute d.instruction = .ok m' ∧
    m'.screen = m.screen.flipAll (m.figure d).cells ∧
      m'.memory = m.memory ∧ m'.options = m.options := by
  have accepted : (m.readyFor d).fault? d.instruction = none :=
    fault?_of_not_strict wraps nofun nofun
  have corner (b : Byte) (edge : Nat) (divides : edge ∣ 2 ^ 8) :
      b.toNat % edge = (BitVec.ofNat 8 (b.toNat % edge)).toNat % edge := by
    rw [BitVec.toNat_ofNat, Nat.mod_mod_of_dvd _ divides, Nat.mod_mod]
  refine ⟨(m.readyFor d).effect d.instruction, execute_eq_ok_iff.2 ⟨accepted, rfl⟩, ?_⟩
  rw [effect_eq]
  refine ⟨?_, rfl, rfl⟩
  apply congrArg m.screen.flipAll
  apply Screen.spriteCells_of_mod_eq
  · exact corner _ Layout.width (by decide)
  · exact corner _ Layout.height (by decide)

/-- A list of draws flips the cells of its figures. -/
lemma drawAll_of_wraps (wraps : m.options.strict = false) (ds : List Draw) :
    ∃ m', m.drawAll ds = .ok m' ∧
    m'.screen = m.screen.flipAll ((ds.map m.figure).flatMap Figure.cells) := by
  induction ds generalizing m with
  | nil => exact ⟨m, rfl, rfl⟩
  | cons d ds ih =>
    obtain ⟨m₁, first, screen₁, memory, options⟩ := execute_readyFor wraps d
    rw [← options] at wraps
    obtain ⟨m', rest, screen⟩ := ih wraps
    refine ⟨m', ?_, ?_⟩
    · rw [drawAll, List.foldlM_cons, first]
      exact rest
    · -- The later draws see the memory that the first one saw.
      rw [screen, screen₁, figure_of_memory_eq memory, List.map_cons, List.flatMap_cons]
      exact List.foldl_append.symm

/-! ## The same draw twice -/

/-- Screens with the same cells lit are the same. -/
lemma screen_eq_of_isLit_eq
    (same : ∀ row column, m'.screen.isLit row column = m.screen.isLit row column) :
    m'.screen = m.screen := by
  apply Screen.eq_of_litAt_eq
  intro q
  obtain ⟨row, _, column, _, rfl⟩ := exists_position q
  exact same row column

/-- A draw whose operands are not the flag register finds everything it looks at as it was, and
draws the same cells. -/
lemma draws_effect_draw {opcode : Word} (x : Instruction.x ⟨.draw, opcode⟩ ≠ flagRegister)
    (y : Instruction.y ⟨.draw, opcode⟩ ≠ flagRegister) :
    (m.effect ⟨.draw, opcode⟩).draws ⟨.draw, opcode⟩ = m.draws ⟨.draw, opcode⟩ := by
  have columns : (m.effect ⟨.draw, opcode⟩).v (Instruction.x ⟨.draw, opcode⟩) =
      m.v (Instruction.x ⟨.draw, opcode⟩) :=
    v_setV_of_ne _ x
  have rows : (m.effect ⟨.draw, opcode⟩).v (Instruction.y ⟨.draw, opcode⟩) =
      m.v (Instruction.y ⟨.draw, opcode⟩) :=
    v_setV_of_ne _ y
  funext row column
  rw [draws, draws, columns, rows]
  rfl

/-- The second of two draws in a row darkens what the first has lit and lights what it has
darkened. -/
lemma execute_draw_again {opcode : Word} (x : Instruction.x ⟨.draw, opcode⟩ ≠ flagRegister)
    (y : Instruction.y ⟨.draw, opcode⟩ ≠ flagRegister)
    (first : m.execute ⟨.draw, opcode⟩ = .ok m') :
    ∃ m'', m'.execute ⟨.draw, opcode⟩ = .ok m'' ∧ m''.screen = m.screen ∧
      m''.v flagRegister =
        if ∃ row < Layout.height, ∃ column < Layout.width,
            m.draws ⟨.draw, opcode⟩ row column = true ∧ m.screen.isLit row column = false
          then 1 else 0 := by
  obtain ⟨accepted, rfl⟩ := execute_eq_ok_iff.1 first
  have drawn := draws_effect_draw (m := m) x y
  -- The first draw moves neither the index register nor the options, so the second is accepted as
  -- well.
  have accepted' : (m.effect ⟨.draw, opcode⟩).fault? ⟨.draw, opcode⟩ = none := by
    rw [effect_eq]
    exact accepted
  have second : (m.effect ⟨.draw, opcode⟩).execute ⟨.draw, opcode⟩ =
      .ok ((m.effect ⟨.draw, opcode⟩).effect ⟨.draw, opcode⟩) :=
        execute_eq_ok_iff.2 ⟨accepted', rfl⟩
  refine ⟨_, second, ?_, ?_⟩
  · apply screen_eq_of_isLit_eq
    intro row column
    rw [isLit_effect_draw, isLit_effect_draw, drawn, Bool.xor_assoc, Bool.xor_self, Bool.xor_false]
  · -- Under a lit pixel a cell is lit after the first draw if it was dark before.
    have under (row column : Nat) : (m.draws ⟨.draw, opcode⟩ row column = true ∧
        (m.screen.isLit row column ^^ m.draws ⟨.draw, opcode⟩ row column) = true) ↔
        m.draws ⟨.draw, opcode⟩ row column = true ∧ m.screen.isLit row column = false := by
      cases m.draws ⟨.draw, opcode⟩ row column with
      | false => simp
      | true => simp
    rw [flag_effect_draw]
    simp only [drawn, isLit_effect_draw, under]

/-- Draws compose as exclusive ors. On a machine that wraps, every list of draws is drawn, all its
permutations leave the same screen, and if each figure occurs in it an even number of times it
leaves the screen as it was. On any machine, a draw whose operands are not the flag register
restores the screen when it is executed a second time, which it can be, and the flag then tells
whether a cell under a lit pixel was dark before the first time. -/
theorem draws_superpose :
    (∀ (m : Machine) (ds : List Draw), m.options.strict = false →
      ∃ m', m.drawAll ds = .ok m' ∧
        (∀ ds', ds'.Perm ds → ∃ m'', m.drawAll ds' = .ok m'' ∧ m''.screen = m'.screen) ∧
        ((∀ d ∈ ds, Even ((ds.map m.figure).count (m.figure d))) → m'.screen = m.screen)) ∧
    ∀ (m : Machine) (opcode : Word), Instruction.x ⟨.draw, opcode⟩ ≠ flagRegister →
      Instruction.y ⟨.draw, opcode⟩ ≠ flagRegister →
      (m.options.strict = false → ∃ m', m.execute ⟨.draw, opcode⟩ = .ok m') ∧
      ∀ m', m.execute ⟨.draw, opcode⟩ = .ok m' →
        ∃ m'', m'.execute ⟨.draw, opcode⟩ = .ok m'' ∧ m''.screen = m.screen ∧
          m''.v flagRegister =
            if ∃ row < Layout.height, ∃ column < Layout.width,
                m.draws ⟨.draw, opcode⟩ row column = true ∧
                m.screen.isLit row column = false then 1 else 0 := by
  refine ⟨?_, ?_⟩
  · intro m ds wraps
    obtain ⟨m', run, screen⟩ := drawAll_of_wraps wraps ds
    refine ⟨m', run, ?_, ?_⟩
    · intro ds' permuted
      obtain ⟨m'', run', screen'⟩ := drawAll_of_wraps wraps ds'
      refine ⟨m'', run', ?_⟩
      rw [screen, screen']
      apply flipAll_figures_of_count_mod_eq
      intro f
      rw [(permuted.map m.figure).count_eq]
    · intro even
      have none : ∀ f, (ds.map m.figure).count f % 2 = ([] : List Figure).count f % 2 := by
        intro f
        by_cases inside : f ∈ ds.map m.figure
        · obtain ⟨d, listed, rfl⟩ := List.mem_map.1 inside
          exact Nat.even_iff.1 (even d listed)
        · rw [List.count_eq_zero_of_not_mem inside]
          rfl
      rw [screen, flipAll_figures_of_count_mod_eq none]
      rfl
  · intro m opcode x y
    refine ⟨?_, ?_⟩
    · intro wraps
      have accepted := fault?_of_not_strict (i := ⟨.draw, opcode⟩) wraps nofun nofun
      exact ⟨_, execute_eq_ok_iff.2 ⟨accepted, rfl⟩⟩
    · intro m' first
      exact execute_draw_again x y first

/-- Two glyphs that overlap at the corner of the screen. Either order leaves the same screen, dark
where they overlap. Drawing the second one again, and the first one from a place a whole screen
further, leaves the screen dark. Drawn twice in a row, a glyph finds the cells lit that were dark
before. -/
theorem glyphs_cancel :
    let m : Machine := fresh ⟨.bit, false, true⟩ false (.cycle 0 [])
    let zero : Draw := ⟨0xD125, 62, 30, 0⟩
    let one : Draw := ⟨0xDEF5, 60, 29, 5⟩
    let zeroAround : Draw := ⟨0xD345, 126, 62, 0⟩
    (∃ m' m'', m.drawAll [zero, one] = .ok m' ∧ m.drawAll [one, zero] = .ok m'' ∧
      m''.screen = m'.screen ∧
      m'.screen.isLit 30 62 = false ∧ m'.screen.isLit 30 63 = true) ∧
    (∃ m', m.drawAll [zero, one, one, zeroAround] = .ok m' ∧ m'.screen = m.screen) ∧
    ∃ m' m'', m.execute zero.instruction = .ok m' ∧ m'.execute zero.instruction = .ok m'' ∧
    m''.screen = m.screen ∧
      m''.v flagRegister = 1 := by
  intro m zero one zeroAround
  obtain ⟨lists, twice⟩ := draws_superpose
  refine ⟨?_, ?_, ?_⟩
  · obtain ⟨m', run, orders, _⟩ := lists m [zero, one] rfl
    obtain ⟨m'', run', same⟩ := orders [one, zero] (.swap _ _ _)
    have cells : (m.drawAll [zero, one]).toOption.any
        (fun m => !m.screen.isLit 30 62 && m.screen.isLit 30 63) = true := by decide +kernel
    rw [run, Except.toOption, Option.any_some, Bool.and_eq_true, Bool.not_eq_true'] at cells
    exact ⟨m', m'', run, run', same, cells⟩
  · obtain ⟨m', run, _, cancels⟩ := lists m [zero, one, one, zeroAround] rfl
    exact ⟨m', run, cancels (by decide +kernel)⟩
  · obtain ⟨accepted, again⟩ := twice m 0xD125 (by decide) (by decide)
    obtain ⟨m', first⟩ := accepted rfl
    obtain ⟨m'', second, same, flag⟩ := again m' first
    refine ⟨m', m'', first, second, same, ?_⟩
    rw [flag]
    decide +kernel

end Machine

end Chip8
