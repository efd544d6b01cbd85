/-!
# Usage errors

The ways in which the arguments of the program can fail to name a command.
-/

namespace Intcode

inductive UsageError where
  | noCommand
  | unknownCommand (name : String)
  | unknownOption (argument : String)
  | missingValue (option : String)
  | invalidValue (option value : String)
  | repeatedOption (option : String)
  | unexpectedOperand (operand : String)
  | emptyPath
  | missingSource
  | conflictingSources
  | missingOption (option : String)
  deriving DecidableEq, Repr

namespace UsageError

def message : UsageError → String
  | noCommand => "a command is required"
  | unknownCommand name => "unrecognized command '" ++ name ++ "'"
  | unknownOption argument => "unexpected argument '" ++ argument ++ "'"
  | missingValue option => "a value is required for '--" ++ option ++ "'"
  | invalidValue option value => "invalid value '" ++ value ++ "' for '--" ++ option ++ "'"
  | repeatedOption option => "'--" ++ option ++ "' cannot be used more than once"
  | unexpectedOperand operand => "unexpected argument '" ++ operand ++ "'"
  | emptyPath => "a file needs a name"
  | missingSource => "a file, or a year and a day, is required"
  | conflictingSources => "a file cannot be used with a year or a day"
  | missingOption option => "'--" ++ option ++ "' is required"

end UsageError

end Intcode
