/-!
Blanks, and texts without those around them.
-/

namespace HabitLens.Text

def isSeparator (c : Char) : Bool :=
  let n := c.toNat
  (0x09 ≤ n && n ≤ 0x0d) || n == 0x20 || n == 0xa0 || n == 0x1680 || (0x2000 ≤ n && n ≤ 0x200a) ||
    n == 0x2028 || n == 0x2029 || n == 0x202f || n == 0x205f || n == 0x3000

/-- Blanks of a text: besides separators, the control characters that divide its parts. -/
def isBlank (c : Char) : Bool :=
  let n := c.toNat
  isSeparator c || (0x1c ≤ n && n ≤ 0x1f) || n == 0x85

/-- Blanks in an editor: besides separators, the mark of byte order. -/
def isEditorBlank (c : Char) : Bool :=
  isSeparator c || c.toNat == 0xfeff

def trim (blank : Char → Bool) (cs : List Char) : List Char :=
  ((cs.dropWhile blank).reverse.dropWhile blank).reverse

end HabitLens.Text
