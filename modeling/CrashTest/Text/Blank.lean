/-!
Blank characters: the Unicode White_Space property, and trimming by it.

White_Space is a short fixed list (Unicode PropList): the controls U+0009 to U+000D, the space,
U+0085, U+00A0, U+1680, U+2000 to U+200A, U+2028, U+2029, U+202F, U+205F and U+3000. The controls
U+001C to U+001F are not in it.
-/
namespace CrashTest.Text

/-- Whether a character has the Unicode White_Space property. -/
def isBlank (c : Char) : Bool :=
  let n := c.toNat
  (0x09 ≤ n ∧ n ≤ 0x0D) || n == 0x20 || n == 0x85 || n == 0xA0 || n == 0x1680 ||
  (0x2000 ≤ n ∧ n ≤ 0x200A) || n == 0x2028 || n == 0x2029 || n == 0x202F || n == 0x205F ||
  n == 0x3000

/-- The characters without the blanks at either end. -/
def trimBlankChars (cs : List Char) : List Char :=
  ((cs.dropWhile isBlank).reverse.dropWhile isBlank).reverse

/-- The text without White_Space characters at either end. -/
def trimBlank (s : String) : String := String.ofList (trimBlankChars s.toList)

end CrashTest.Text
