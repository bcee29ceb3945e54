import Chip8.Text.Blank
import Chip8.Text.DecimalDigit
import Chip8.Text.Quoted

/-!
# Numerals

Integers read from text: blank characters around, one sign at most, and decimal digits of any
script, with single underscores allowed between two digits. Very long numerals are refused before
anything else about them is looked at.
-/

namespace Chip8

/-- Why a text is no positive integer. -/
inductive NumeralError where
  /-- The text is no numeral. -/
  | malformed (text : String)
  /-- The numeral has more digits than are read. -/
  | tooManyDigits (count : Nat)
  /-- The numeral is zero or negative. -/
  | notPositive (text : String)
deriving DecidableEq, Repr

namespace Numeral

/-- The most digits that are read. -/
def maxDigits : Nat := 4300

/-- The most characters of a malformed numeral, quotes included, that a message shows. -/
def maxShown : Nat := 200

/-- Whether a character belongs to the digits and underscores of a numeral. -/
def isBody (c : Char) : Bool := c == '_' || (decimalDigit? c).isSome

/-- The digits of a body in which each underscore stands between two digits. -/
def digits? : List Char → Option (List Nat)
  | [] => none
  | [c] => (decimalDigit? c).map ([·])
  | c :: '_' :: rest => do return (← decimalDigit? c) :: (← digits? rest)
  | c :: rest => do return (← decimalDigit? c) :: (← digits? rest)

/-- The number that digits stand for, the most significant first. -/
def value (digits : List Nat) : Nat := digits.foldl (fun n d => 10 * n + d) 0

/-- A sign and what comes after it. -/
def splitSign : List Char → Bool × List Char
  | '+' :: rest => (false, rest)
  | '-' :: rest => (true, rest)
  | s => (false, s)

/-- The integer a text stands for. -/
def readInt (text : String) : Except NumeralError Int :=
  let (negative, s) := splitSign (trimBlank text.toList)
  match digits? (s.takeWhile isBody) with
  | none => .error (.malformed text)
  | some digits =>
    if maxDigits < digits.length then .error (.tooManyDigits digits.length)
    else if !(s.dropWhile isBody).isEmpty then .error (.malformed text)
    else
      let n : Int := value digits
      .ok (if negative then -n else n)

/-- The positive integer a text stands for. -/
def readPositive (text : String) : Except NumeralError Nat :=
  match readInt text with
  | .error e => .error e
  | .ok n => if n ≤ 0 then .error (.notPositive text) else .ok n.toNat

end Numeral

/-- The text of a numeral error. -/
def NumeralError.message : NumeralError → String
  | malformed text =>
    "invalid literal for int() with base 10: " ++
      String.ofList ((Quoted.chars text.toList).take Numeral.maxShown)
  | tooManyDigits count =>
    "Exceeds the limit (" ++ toString Numeral.maxDigits ++
      " digits) for integer string conversion: value has " ++
      toString count ++ " digits; use sys.set_int_max_str_digits() to increase the limit"
  | notPositive text => "must be a positive integer, got " ++ text

end Chip8
