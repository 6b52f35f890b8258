/-!
Reading integers the way the C library reads them.

A numeral is read from the front of a byte text: blanks first (space, tab, line end, vertical
tab, form feed, carriage return), then an optional sign, then digits in a base. Base 0 chooses
from the text: a leading `0x` or `0X` before a hexadecimal digit means 16, a leading `0` means 8,
anything else 10. Reading stops at the first character that is not a digit of the base. When no
digit is read, nothing is consumed at all, blanks and sign included; a `0x` with no hexadecimal
digit after it reads as the `0` alone.

A signed reading that does not fit in 64 bits is out of range and gives the nearest bound; an
unsigned one gives the greatest 64-bit value, and a minus sign negates modulo `2^64`.

On top of that sit the shell's strict readings: the whole text must be one numeral, blanks after
it allowed, and out of range is an error.
-/
-- Powers of numbers are the core ones, also where Mathlib's monoid powers are in scope.
attribute [local instance (high)] instPowNat

namespace CrashTest.Text

/-- The greatest signed 64-bit value. -/
def intMax : Int := 9223372036854775807

/-- The least signed 64-bit value. -/
def intMin : Int := -9223372036854775808

/-- The greatest unsigned 64-bit value. -/
def uintMax : Nat := 18446744073709551615

/-- The C library's blanks. -/
def isCSpace (c : Char) : Bool :=
  c = ' ' || c = '\t' || c = '\n' || c = '\x0b' || c = '\x0c' || c = '\r'

/-- The value of a digit in base `base` (up to 36), if it is one. -/
def digitIn (base : Nat) (c : Char) : Option Nat :=
  let v : Option Nat :=
    if '0' ≤ c ∧ c ≤ '9' then some (c.toNat - '0'.toNat)
    else if 'a' ≤ c ∧ c ≤ 'z' then some (c.toNat - 'a'.toNat + 10)
    else if 'A' ≤ c ∧ c ≤ 'Z' then some (c.toNat - 'A'.toNat + 10)
    else none
  match v with
  | some d => if d < base then some d else none
  | none => none

/-- Reads the digits of `base` at the front: their value, how many there were, and the rest. -/
def readDigits (base : Nat) : List Char → Nat × Nat × List Char
  | [] => (0, 0, [])
  | c :: cs =>
    match digitIn base c with
    | none => (0, 0, c :: cs)
    | some d =>
      let (v, n, rest) := readDigitsFrom base d 1 cs
      (v, n, rest)
where
  /-- Continues a reading whose value so far is `acc` after `n` digits. -/
  readDigitsFrom (base acc n : Nat) : List Char → Nat × Nat × List Char
    | [] => (acc, n, [])
    | c :: cs =>
      match digitIn base c with
      | some d => readDigitsFrom base (acc * base + d) (n + 1) cs
      | none => (acc, n, c :: cs)

/-- A numeral read from the front of a text. -/
structure Numeral where
  /-- Whether a minus sign stood before the digits. -/
  negative : Bool
  /-- The value of the digits. -/
  magnitude : Nat
  /-- The text after the numeral; all of the text when no digit was read. -/
  rest : List Char
  /-- Whether any digit was read. -/
  converted : Bool
  deriving DecidableEq, Repr, Inhabited

/-- Reads a numeral in `base` (0 to choose from the text) from the front of `cs`. -/
def readNumeral (base : Nat) (cs : List Char) : Numeral :=
  let body := cs.dropWhile isCSpace
  let (negative, body) := match body with
    | '-' :: r => (true, r)
    | '+' :: r => (false, r)
    | r => (false, r)
  let hexPrefix : Bool := match body with
    | '0' :: x :: d :: _ => (x = 'x' || x = 'X') && (digitIn 16 d).isSome
    | _ => false
  let (base, digits) :=
    if (base = 0 || base = 16) && hexPrefix then (16, body.drop 2)
    else if base = 0 then
      match body with
      | '0' :: _ => (8, body)
      | _ => (10, body)
    else (base, body)
  let (v, n, rest) := readDigits base digits
  if n = 0 then ⟨false, 0, cs, false⟩ else ⟨negative, v, rest, true⟩

/-- A signed 64-bit reading: the value, clamped to the nearest bound when out of range, and
whether it was out of range. -/
def Numeral.signed (n : Numeral) : Int × Bool :=
  if n.negative then
    if n.magnitude ≤ 9223372036854775808 then (-(n.magnitude : Int), false) else (intMin, true)
  else
    if n.magnitude ≤ 9223372036854775807 then (n.magnitude, false) else (intMax, true)

/-- An unsigned 64-bit reading: the value, the greatest one when out of range, a minus sign
negating modulo `2^64`; and whether it was out of range. -/
def Numeral.unsigned (n : Numeral) : Nat × Bool :=
  if uintMax < n.magnitude then (uintMax, true)
  else if n.negative then ((2 ^ (64 : Nat) - n.magnitude) % 2 ^ (64 : Nat), false)
  else (n.magnitude, false)

/-- The shell's strict reading of a whole text as a signed number in `base`: blanks may follow
the numeral, nothing else may; base 10 also refuses a text with no numeral at all, while base 0
reads it as zero. `none` means the text is not a number. -/
def strictInteger? (base : Nat) (s : String) : Option Int :=
  let n := readNumeral base s.toList
  let (v, outOfRange) := n.signed
  if outOfRange then none
  else if !n.converted && base != 0 then none
  else if (n.rest.dropWhile isCSpace).isEmpty then some v
  else none

/-- The shell's reading of a count, such as an exit status: a decimal number from 0 to
`2^31 - 1`. -/
def shellCount? (s : String) : Option Nat :=
  match strictInteger? 10 s with
  | some v => if 0 ≤ v ∧ v ≤ 2147483647 then some v.toNat else none
  | none => none

/-- Whether a text is a non-empty run of decimal digits. -/
def isDigits (s : String) : Bool := !s.isEmpty && s.all Char.isDigit

end CrashTest.Text
