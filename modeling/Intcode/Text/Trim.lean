/-!
# Trimming

Removing the characters of a class from the ends of a text.  What is left neither starts nor ends
with a character of the class, and what is removed holds nothing else.
-/

namespace Intcode.Text

/-- The text without its longest tail of characters of the class. -/
def trimEnd (isMember : Char → Bool) (text : List Char) : List Char :=
  (text.reverse.dropWhile isMember).reverse

def trim (isMember : Char → Bool) (text : List Char) : List Char :=
  trimEnd isMember (text.dropWhile isMember)

end Intcode.Text
