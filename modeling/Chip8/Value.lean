import Chip8.Number.Decimal
import Chip8.Text.Quoted

/-!
# Host values

What a host may hand to the machine where a key number, a byte or an option is expected, and how
such a value is shown in a message.
-/

namespace Chip8

/-- A value of the host. -/
inductive Value where
  | null
  | bool (b : Bool)
  | int (n : Int)
  | real (d : Double)
  | text (s : String)
  | list (items : List Value)
  | dict (entries : List (String × Value))
deriving Repr, Inhabited

namespace Value

/-- The name of the kind of a value. -/
def typeName : Value → String
  | null => "NoneType"
  | bool _ => "bool"
  | int _ => "int"
  | real _ => "float"
  | text _ => "str"
  | list _ => "list"
  | dict _ => "dict"

/-- The integer a value is, truth values being one and zero. -/
def toInt? : Value → Option Int
  | int n => some n
  | bool b => some b.toInt
  | _ => none

mutual

/-- The text of a value in a message. -/
def literal : Value → String
  | null => "None"
  | bool true => "True"
  | bool false => "False"
  | int n => toString n
  | real d => d.text
  | text s => quoted s
  | list items => "[" ++ literalItems items ++ "]"
  | dict entries => "\x7b" ++ literalEntries entries ++ "\x7d"

/-- Values between commas. -/
def literalItems : List Value → String
  | [] => ""
  | [v] => v.literal
  | v :: vs => v.literal ++ ", " ++ literalItems vs

/-- Keys and values between commas. -/
def literalEntries : List (String × Value) → String
  | [] => ""
  | [(key, v)] => quoted key ++ ": " ++ v.literal
  | (key, v) :: entries => quoted key ++ ": " ++ v.literal ++ ", " ++ literalEntries entries

end

end Value

end Chip8
