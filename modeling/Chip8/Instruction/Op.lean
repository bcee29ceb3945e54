/-!
# Operations

What an instruction does, without its operands: the thirty-five documented operations and one for
words that are none of them.
-/

namespace Chip8

/-- The kinds of instruction. In the comments, `x` and `y` are register operands, `k` is a byte, `a`
an address. -/
inductive Op where
  /-- Clear the screen. -/
  | cls
  /-- Return from a subroutine. -/
  | ret
  /-- Call a machine routine of the host; ignored. -/
  | sys
  /-- Jump to `a`. -/
  | jp
  /-- Call the subroutine at `a`. -/
  | call
  /-- Skip if `Vx = k`. -/
  | skipEqByte
  /-- Skip if `Vx ≠ k`. -/
  | skipNeByte
  /-- Skip if `Vx = Vy`. -/
  | skipEq
  /-- `Vx := k`. -/
  | loadByte
  /-- `Vx := Vx + k`, without a carry. -/
  | addByte
  /-- `Vx := Vy`. -/
  | copy
  /-- `Vx := Vx ||| Vy`. -/
  | or
  /-- `Vx := Vx &&& Vy`. -/
  | and
  /-- `Vx := Vx ^^^ Vy`. -/
  | xor
  /-- `Vx := Vx + Vy`, with a carry. -/
  | add
  /-- `Vx := Vx - Vy`, with a borrow. -/
  | sub
  /-- Shift `Vx` right. -/
  | shr
  /-- `Vx := Vy - Vx`, with the borrow negated. -/
  | subn
  /-- Shift `Vx` left. -/
  | shl
  /-- Skip if `Vx ≠ Vy`. -/
  | skipNe
  /-- `I := a`. -/
  | loadIndex
  /-- Jump to `a + V0`. -/
  | jpOffset
  /-- `Vx := random &&& k`. -/
  | random
  /-- Draw a sprite. -/
  | draw
  /-- Skip if the key `Vx` is down. -/
  | skipKey
  /-- Skip if the key `Vx` is up; a key that is down is consumed. -/
  | skipNoKey
  /-- `Vx :=` the delay timer. -/
  | readDelay
  /-- Wait for a key. -/
  | waitKey
  /-- The delay timer `:= Vx`. -/
  | setDelay
  /-- The sound timer `:= Vx`. -/
  | setSound
  /-- `I := I + Vx`. -/
  | addIndex
  /-- `I :=` the glyph of `Vx`. -/
  | loadGlyph
  /-- Store the three decimal digits of `Vx`. -/
  | storeDecimal
  /-- Store `V0` to `Vx`. -/
  | store
  /-- Load `V0` to `Vx`. -/
  | load
  /-- No documented instruction; passed over. -/
  | unknown
deriving DecidableEq, Repr, Inhabited

namespace Op

/-- The name under which an operation is listed. -/
def name : Op → String
  | cls => "CLS"
  | ret => "RET"
  | sys => "SYS"
  | jp => "JP"
  | call => "CALL"
  | skipEqByte => "SE_VX_NN"
  | skipNeByte => "SNE_VX_NN"
  | skipEq => "SE_VX_VY"
  | loadByte => "LD_VX_NN"
  | addByte => "ADD_VX_NN"
  | copy => "LD_VX_VY"
  | or => "OR"
  | and => "AND"
  | xor => "XOR"
  | add => "ADD_VX_VY"
  | sub => "SUB_VX_VY"
  | shr => "SHR"
  | subn => "SUBN"
  | shl => "SHL"
  | skipNe => "SNE_VX_VY"
  | loadIndex => "LD_I"
  | jpOffset => "JP_V0"
  | random => "RND"
  | draw => "DRW"
  | skipKey => "SKP"
  | skipNoKey => "SKNP"
  | readDelay => "LD_VX_DT"
  | waitKey => "LD_VX_K"
  | setDelay => "LD_DT_VX"
  | setSound => "LD_ST_VX"
  | addIndex => "ADD_I_VX"
  | loadGlyph => "LD_F_VX"
  | storeDecimal => "LD_B_VX"
  | store => "LD_MEM_VX"
  | load => "LD_VX_MEM"
  | unknown => "UNKNOWN"

end Op

end Chip8
