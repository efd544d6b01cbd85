import Intcode.Cache

/-!
# Commands

What the program can be asked to do, with all that it needs to know to do it.
-/

namespace Intcode

inductive Source where
  /-- A file. -/
  | file (path : Path)
  /-- A cache, where the program is kept for a day. -/
  | cached (cache : Cache) (puzzle : PuzzleDay)
  deriving DecidableEq, Repr

inductive Command where
  /-- Say how the program is used. -/
  | help
  /-- Say which version this is. -/
  | version
  /-- Feed values to a program and print its output as values. -/
  | run (source : Source) (values : String)
  /-- Feed lines to a program and print its output as text. -/
  | ascii (source : Source) (lines : List String)
  /-- Let a program talk with the console. -/
  | interactive (source : Source) (prompt : String)
  /-- Copy a program file into a cache. -/
  | store (file : Path) (cache : Cache) (puzzle : PuzzleDay)
  deriving DecidableEq, Repr

namespace Command

def versionLine : String :=
  "intcode 0.1.0\n"

def helpText : String :=
  "Run comma separated integer programs\n\n"
    ++ "Usage: intcode <COMMAND>\n\n"
    ++ "Commands:\n"
    ++ "  run [FILE] [-i VALUES]       Print each output value on its own line\n"
    ++ "  ascii [FILE] [-l LINE]...    Print the output as text\n"
    ++ "  interactive [FILE]           Talk to the program from the terminal\n"
    ++ "  store FILE                   Copy a program file into the input cache\n"
    ++ "  help                         Print this text\n"

def defaultPrompt : String :=
  "Command?\n"

end Command

end Intcode
