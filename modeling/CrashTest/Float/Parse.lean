import CrashTest.Float.Binary64
import CrashTest.Text.Numeral
/-!
Reading floating-point numbers the way the C library reads them.

A number is read from the front of a byte text: blanks first, then an optional sign, then one of

* `inf` or `infinity`, in any case;
* `nan`, in any case, optionally followed by `(`, letters, digits and underscores, and `)`;
* `0x` or `0X` and hexadecimal digits with at most one point among them, at least one digit,
  then optionally `p` or `P` and a signed decimal power of two;
* decimal digits with at most one point among them, at least one digit, then optionally `e` or
  `E` and a signed decimal power of ten.

An exponent marker is taken only when digits follow it. The value is the double nearest to the
exact number written, ties to the even significand. A number too large for a double reads as an
infinity and one too small as zero, both out of range; so is a nonzero number that only a
subnormal double comes near. When nothing can be read, nothing is consumed, blanks and sign
included, and the value is zero.
-/
-- Powers of numbers are the core ones, also where Mathlib's monoid powers are in scope.
attribute [local instance (high)] instPowNat

namespace CrashTest

open CrashTest.Text

/-- A floating-point value: a finite double, an infinity or not-a-number, each with a sign. -/
inductive FloatValue where
  | finite (x : Binary64)
  | inf (neg : Bool)
  | nan (neg : Bool)
  deriving DecidableEq, Repr, Inhabited

/-- A number read from the front of a text. -/
structure FloatReading where
  value : FloatValue
  /-- The text after the number; all of the text when nothing was read. -/
  rest : List Char
  /-- Whether a number was read. -/
  converted : Bool
  /-- Whether the number was too large or too small for a double. -/
  outOfRange : Bool
  deriving Repr, Inhabited

namespace FloatValue

/-- Positive zero. -/
def zero : FloatValue := .finite Binary64.zero

/-- The same value with the other sign. -/
def negate : FloatValue → FloatValue
  | .finite x => .finite x.negate
  | .inf n => .inf (!n)
  | .nan n => .nan (!n)

/-- Whether the sign is negative. -/
def isNeg : FloatValue → Bool
  | .finite x => x.neg
  | .inf n | .nan n => n

end FloatValue

/-- Whether the text starts with `word`, in any case: the rest after it. -/
def dropWordIgnoringCase (word : String) (cs : List Char) : Option (List Char) :=
  let n := word.length
  if (cs.take n).map Char.toLower == word.toList then some (cs.drop n) else none

/-- Reads a signed decimal exponent after its marker: the value and the rest, or `none` when no
digit follows. Exponents beyond a million are held at a million, which is already far past every
double. -/
def readExponent (cs : List Char) : Option (Int × List Char) :=
  let (neg, body) := match cs with
    | '-' :: r => (true, r)
    | '+' :: r => (false, r)
    | r => (false, r)
  let (v, n, rest) := readDigits 10 body
  if n = 0 then none
  else
    let v : Int := min v 1000000
    some (if neg then -v else v, rest)

/-- Reads digits of `base` with at most one point among them: the value of all digits, how many
digits there were, how many stood after the point, and the rest. -/
def readMantissa (base : Nat) (cs : List Char) : Nat × Nat × Nat × List Char :=
  let (whole, n, rest) := readDigits base cs
  match rest with
  | '.' :: more =>
    let (frac, m, rest') := readDigitsKeepZeros base more
    (whole * base ^ m + frac, n + m, m, rest')
  | _ => (whole, n, 0, rest)
where
  /-- Reads digits, counting leading zeros too. -/
  readDigitsKeepZeros (base : Nat) (cs : List Char) : Nat × Nat × List Char :=
    let digits := cs.takeWhile fun c => (digitIn base c).isSome
    (digits.foldl (fun acc c => acc * base + (digitIn base c).getD 0) 0, digits.length,
      cs.drop digits.length)

/-- The double nearest to `m * radix^e` with sign `neg`, and whether it is out of range. The
exponent is cut short first when the number is certainly beyond every double, either way. -/
def nearestDouble (neg : Bool) (m : Nat) (radix : Nat) (e : Int) : FloatValue × Bool :=
  if m = 0 then (.finite ⟨neg, 0, Binary64.minExp⟩, false)
  else
    -- the number of binary digits of the magnitude, roughly (log2 10 is about 3.322)
    let size : Int := (Nat.log2 m : Int) +
      (if radix = 10 then e * 3322 / 1000 else e * (Nat.log2 radix : Int))
    if size > 1100 then (.inf neg, true)
    else if size < -1200 then (.finite ⟨neg, 0, Binary64.minExp⟩, true)
    else
      let (num, den) := if 0 ≤ e then (m * radix ^ e.toNat, 1) else (m, radix ^ (-e).toNat)
      match Binary64.round neg num den with
      | none => (.inf neg, true)
      | some x =>
        let tiny := x.mant < 2 ^ (52 : Nat)
        let exact := x.fraction.1 * den = num * x.fraction.2
        (.finite x, x.mant = 0 || (tiny && !exact))

/-- Reads a floating-point number from the front of a text. -/
def readFloat (cs : List Char) : FloatReading :=
  let none_ : FloatReading := ⟨.zero, cs, false, false⟩
  let body := cs.dropWhile isCSpace
  let (neg, body) := match body with
    | '-' :: r => (true, r)
    | '+' :: r => (false, r)
    | r => (false, r)
  let signed (v : FloatValue) : FloatValue := if neg then v.negate else v
  match dropWordIgnoringCase "inf" body with
  | some rest =>
    let rest := (dropWordIgnoringCase "inity" rest).getD rest
    ⟨signed (.inf false), rest, true, false⟩
  | none =>
    match dropWordIgnoringCase "nan" body with
    | some rest =>
      let rest := match rest with
        | '(' :: more =>
          let inside := more.takeWhile fun c => c.isAlphanum || c = '_'
          match more.drop inside.length with
          | ')' :: after => after
          | _ => rest
        | _ => rest
      ⟨signed (.nan false), rest, true, false⟩
    | none =>
      let hex : Option (List Char) := match body with
        | '0' :: x :: more =>
          if x = 'x' || x = 'X' then
            match more with
            | c :: _ => if (digitIn 16 c).isSome then some more
                else if c = '.' then
                  match more.drop 1 with
                  | d :: _ => if (digitIn 16 d).isSome then some more else none
                  | [] => none
                else none
            | [] => none
          else none
        | _ => none
      match hex with
      | some digits =>
        let (m, _, after, rest) := readMantissa 16 digits
        let (p, rest) := match rest with
          | c :: more => if c = 'p' || c = 'P' then (readExponent more).getD (0, rest) else (0, rest)
          | [] => (0, [])
        let (v, range) := nearestDouble neg m 2 (p - 4 * (after : Int))
        ⟨v, rest, true, range⟩
      | none =>
        let (m, n, after, rest) := readMantissa 10 body
        if n = 0 then none_
        else
          let (e, rest) := match rest with
            | c :: more => if c = 'e' || c = 'E' then (readExponent more).getD (0, rest) else (0, rest)
            | [] => (0, [])
          let (v, range) := nearestDouble neg m 10 (e - (after : Int))
          ⟨v, rest, true, range⟩

end CrashTest
