import Chip8.Machine.Options
import Chip8.Number.Numeral

/-!
# Command-line arguments

What a single argument is: the separator, an option, perhaps with a value attached, or a plain
value. An option may be cut short as long as only one option begins that way; a value is attached to
it behind an equals sign. After the separator everything is a plain value. A negative number, a lone
dash and text with a space are plain values too.
-/

namespace Chip8.CommandLine

/-- The options. -/
inductive Flag where
  | help
  | scale
  | cpuHz
  | timerHz
  | shiftFlag
  | strict
  | log
  | disasm
deriving DecidableEq, Repr

namespace Flag

/-- All options, in the order in which they are listed. -/
def all : List Flag := [help, scale, cpuHz, timerHz, shiftFlag, strict, log, disasm]

/-- The full spelling of an option. -/
def spelling : Flag → String
  | help => "--help"
  | scale => "--scale"
  | cpuHz => "--cpu-hz"
  | timerHz => "--timer-hz"
  | shiftFlag => "--shift-flag"
  | strict => "--strict"
  | log => "--log"
  | disasm => "--disasm"

/-- How an option is named in messages: with all its spellings. -/
def shown : Flag → String
  | help => "-h/--help"
  | f => f.spelling

/-- Whether an option needs a value. -/
def takesValue : Flag → Bool
  | scale | cpuHz | timerHz | shiftFlag => true
  | help | strict | log | disasm => false

/-- The option of a full spelling. -/
def ofSpelling? (s : String) : Option Flag := all.find? fun f => f.spelling == s

end Flag

/-- An argument that has been understood on its own. -/
inductive Argument where
  /-- A path, or the value of an option before it. -/
  | value (text : String)
  | separator
  /-- An option and the value attached to it. -/
  | flag (f : Flag) (attached : Option String)
  /-- The short option for help with more letters behind it, which may stand behind an equals
  sign. -/
  | letters (tail : List Char)
  /-- An option that does not exist. -/
  | unknown (text : String)
deriving DecidableEq, Repr

/-- Why the arguments were not understood. -/
inductive ArgumentError where
  | ambiguous (text : String) (candidates : List Flag)
  /-- An option stands without its value. -/
  | valueMissing (f : Flag)
  /-- An option has a value and needs none. -/
  | valueIgnored (f : Flag) (value : String)
  | badNumber (f : Flag) (value : String)
  | notPositive (f : Flag) (value : String)
  | badChoice (value : String)
  | pathMissing
  | unrecognized (texts : List String)
deriving DecidableEq, Repr

namespace ArgumentError

/-- The text of an error in an option. -/
def about (f : Flag) (text : String) : String := "argument " ++ f.shown ++ ": " ++ text

/-- The text of an argument error. -/
def message : ArgumentError → String
  | ambiguous text candidates =>
    "ambiguous option: " ++ text ++ " could match " ++
      ", ".intercalate (candidates.map Flag.spelling)
  | valueMissing f => about f "expected one argument"
  | valueIgnored f value => about f ("ignored explicit argument " ++ quoted value)
  | badNumber f value => about f ("invalid positive_int value: " ++ quoted value)
  | notPositive f value => about f (NumeralError.notPositive value).message
  | badChoice value =>
    about .shiftFlag ("invalid choice: " ++ quoted value ++ " (choose from " ++
      ", ".intercalate (ShiftFlag.all.map fun s => quoted s.name) ++ ")")
  | pathMissing => "the following arguments are required: rom"
  | unrecognized texts => "unrecognized arguments: " ++ " ".intercalate texts

end ArgumentError

namespace Argument

/-- Text before and after the first equals sign. Without one there is nothing after it. -/
def splitEquals (s : List Char) : List Char × Option String :=
  match s.dropWhile (· != '=') with
  | [] => (s, none)
  | _ :: attached => (s.takeWhile (· != '='), some (String.ofList attached))

/-- Whether text is a run of decimal digits, at least one. -/
def isDigits (s : List Char) : Bool := !s.isEmpty && s.all fun c => (decimalDigit? c).isSome

/-- Whether text looks like a negative number, whole or with digits behind a point. A newline may
follow. -/
def isNegativeNumber : List Char → Bool
  | '-' :: s =>
    let s := if s.getLast? = some '\n' then s.dropLast else s
    let whole := s.takeWhile (· != '.')
    match s.dropWhile (· != '.') with
    | [] => isDigits whole
    | _ :: fraction => (whole.isEmpty || isDigits whole) && isDigits fraction
  | _ => false

/-- The options a cut-short spelling may stand for. -/
def candidates (s : List Char) : List Flag :=
  Flag.all.filter fun f => s.isPrefixOf f.spelling.toList

/-- An argument that is neither the separator nor the full spelling of an option. -/
def ofDashed (text : String) (s : List Char) : Except ArgumentError Argument :=
  let (spelling, attached) := splitEquals s
  match Flag.ofSpelling? (String.ofList spelling) with
  | some f => .ok (.flag f attached)
  | none =>
    match if ['-', '-'].isPrefixOf s then candidates spelling else [] with
    | [f] => .ok (.flag f attached)
    | f :: g :: more => .error (.ambiguous text (f :: g :: more))
    | [] =>
      if isNegativeNumber s || s.contains ' ' then .ok (.value text) else .ok (.unknown text)

/-- What an argument before the separator is. -/
def ofText (text : String) : Except ArgumentError Argument :=
  match text.toList with
  | ['-', 'h', '='] => .ok (.flag .help (some ""))
  | '-' :: 'h' :: '=' :: tail => .ok (.letters tail)
  | '-' :: 'h' :: tail => .ok (.letters tail)
  | ['-'] => .ok (.value text)
  | '-' :: rest => ofDashed text ('-' :: rest)
  | _ => .ok (.value text)

/-- What the arguments of a command line are. The first ambiguous one is the error. -/
def ofTexts : List String → Except ArgumentError (List Argument)
  | [] => .ok []
  | text :: texts =>
    if text = "--" then .ok (.separator :: texts.map .value)
    else do
      let argument ← ofText text
      let arguments ← ofTexts texts
      return argument :: arguments

end Argument

end Chip8.CommandLine
