import Intcode.Host.Error

/-!
# Text in bytes

Files and terminals hold bytes.  Bytes are text when they are well-formed UTF-8; anything else is
invalid data.
-/

namespace Intcode

def readText (bytes : ByteArray) : Except HostError String :=
  match String.fromUTF8? bytes with
  | some text => .ok text
  | none => .error .invalidData

@[simp] theorem readText_toUTF8 (text : String) : readText text.toUTF8 = .ok text := by
  simp [readText, String.fromUTF8?, text.isValidUTF8, String.fromUTF8]

end Intcode
