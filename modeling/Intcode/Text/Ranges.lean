/-!
# Character classes given by ranges

A class of characters is a table of inclusive code point ranges, in ascending order.  The tables
themselves stand in modules of their own, one a property.
-/

namespace Intcode.Text

/-- A class of characters: inclusive ranges of code points, in ascending order. -/
abbrev Ranges := List (Nat × Nat)

namespace Ranges

def contains (ranges : Ranges) (char : Char) : Bool :=
  ranges.any fun range => range.1 ≤ char.toNat && char.toNat ≤ range.2

end Ranges

end Intcode.Text
