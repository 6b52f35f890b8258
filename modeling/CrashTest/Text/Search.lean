/-!
Finding one text inside another.

A text contains another when the other's characters appear in it consecutively; the empty text
is contained in every text. Comparing characters rather than bytes gives the same answer, since
no character's encoding starts inside another's.
-/
namespace CrashTest.Text

/-- Whether `needle` appears consecutively in the characters. -/
def occursIn (needle : List Char) : List Char → Bool
  | [] => needle.isEmpty
  | c :: rest => needle.isPrefixOf (c :: rest) || occursIn needle rest

/-- Whether `hay` contains `needle`. -/
def contains (hay needle : String) : Bool := occursIn needle.toList hay.toList

end CrashTest.Text
