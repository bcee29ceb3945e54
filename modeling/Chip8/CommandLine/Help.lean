/-!
# Help

What the program tells about its arguments.
-/

namespace Chip8.CommandLine

/-- The name of the program, in front of its messages. -/
def programName : String := "chip8vm"

/-- How the program is called. -/
def usageLines : List String := [
  "usage: " ++ programName ++ " [-h] [--scale N] [--cpu-hz N] [--timer-hz N]",
  "               [--shift-flag \x7bbit,nibble\x7d] [--strict] [--log] [--disasm]",
  "               rom"]

/-- What is shown when help is asked for. -/
def helpLines : List String := usageLines ++ [
  "",
  "Run a CHIP-8 ROM.",
  "",
  "positional arguments:",
  "  rom                   path to the ROM image",
  "",
  "options:",
  "  -h, --help            show this help message and exit",
  "  --scale N             window pixels per CHIP-8 pixel (default: 10)",
  "  --cpu-hz N            instructions per second (default: 600)",
  "  --timer-hz N          tick timers on a separate N Hz clock (e.g. 60) instead",
  "                        of once per step",
  "  --shift-flag \x7bbit,nibble\x7d",
  "                        how 8xy6/8xyE compute VF (default: bit)",
  "  --strict              fail on addresses past 0xFFF instead of wrapping",
  "  --log                 trace every instruction (F1 toggles in the window)",
  "  --disasm              print a listing of the ROM and exit"]

end Chip8.CommandLine
