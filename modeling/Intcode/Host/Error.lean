/-!
# Errors of the host

What can go wrong when the host reads or writes: the causes that the library tells apart, and the
line of text for each.
-/

namespace Intcode

inductive HostError where
  /-- The file does not exist. -/
  | notFound
  /-- There is a file where a directory is needed. -/
  | notADirectory
  /-- There is a directory where a file is needed. -/
  | isADirectory
  /-- The name of a new directory is taken. -/
  | alreadyExists
  /-- The bytes are no text. -/
  | invalidData
  /-- Nobody reads what is written. -/
  | brokenPipe
  /-- Any other cause, with the host's own words. -/
  | other (description : String)
  deriving DecidableEq, Repr

namespace HostError

def message : HostError → String
  | notFound => "No such file or directory (os error 2)"
  | notADirectory => "Not a directory (os error 20)"
  | isADirectory => "Is a directory (os error 21)"
  | alreadyExists => "File exists (os error 17)"
  | invalidData => "stream did not contain valid UTF-8"
  | brokenPipe => "Broken pipe (os error 32)"
  | other description => description

end HostError

end Intcode
