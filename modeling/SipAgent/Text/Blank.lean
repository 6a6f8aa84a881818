/-!
# Blanks

Which characters count as blank, and the removal of characters from the ends of a text. Texts are
lists of characters here; `Text.trimmed` lifts the removal of blanks to strings.
-/

namespace SipAgent.Text

/-- A character with Unicode's `White_Space` property. -/
def isBlank (c : Char) : Bool :=
  let n := c.toNat
  (0x09 ≤ n && n ≤ 0x0d) || n == 0x20 || n == 0x85 || n == 0xa0 || n == 0x1680 ||
    (0x2000 ≤ n && n ≤ 0x200a) || n == 0x2028 || n == 0x2029 || n == 0x202f || n == 0x205f ||
    n == 0x3000

/-- A blank inside a line of a message: a space or a tab. -/
def isLineBlank (c : Char) : Bool :=
  c == ' ' || c == '\t'

/-- Drop the longest tail of characters in the class `p`. -/
def dropTail (p : Char → Bool) (cs : List Char) : List Char :=
  (cs.reverse.dropWhile p).reverse

/-- Drop the characters in the class `p` from both ends. -/
def trim (p : Char → Bool) (cs : List Char) : List Char :=
  dropTail p (cs.dropWhile p)

/-- Drop the blanks from both ends of a string. -/
def trimmed (s : String) : String :=
  String.ofList (trim isBlank s.toList)

/-! ### Small facts -/

@[simp] theorem dropTail_nil (p : Char → Bool) : dropTail p [] = [] := rfl

end SipAgent.Text
