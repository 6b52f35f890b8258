/-!
Double-precision values computed exactly in natural numbers.

A `Binary64` is a finite double `(-1)^neg * mant * 2^exp`. Every operation here works on the exact
rational value and then rounds it once, to the nearest double with ties to the even significand,
which is what an IEEE-754 unit does for conversion, addition, multiplication and division.
Because all of it is `Nat` arithmetic, the results are the same on every machine and can be
reasoned about.

Main definitions: `Binary64.round`, the correctly rounded double of a non-negative fraction;
`Binary64.ofNat`, `Binary64.add`, `Binary64.mul` and `Binary64.div` built on it.
-/
-- Powers of numbers are the core ones, also where Mathlib's monoid powers are in scope.
attribute [local instance (high)] instPowNat

namespace CrashTest

/-- A finite double: its sign, and a magnitude `mant * 2^exp`. Values built by `Binary64.round`
have `mant < 2^53` and `exp ≥ -1074`, with `mant ≥ 2^52` unless the value is subnormal. -/
structure Binary64 where
  neg : Bool
  mant : Nat
  exp : Int
  deriving DecidableEq, Repr, Inhabited

namespace Binary64

/-- Bits of significand that a double keeps. -/
def precision : Nat := 53

/-- The exponent of the least subnormal, `2^-1074`. -/
def minExp : Int := -1074

/-- The greatest exponent of a significand unit, for the double just below `2^1024`. -/
def maxExp : Int := 971

/-- Positive zero. -/
def zero : Binary64 := ⟨false, 0, minExp⟩

/-- The nearest integer to `num / den`; a quotient exactly halfway goes to the even neighbour. -/
def roundHalfEven (num den : Nat) : Nat :=
  let q := num / den
  let r := num % den
  if 2 * r < den then q
  else if den < 2 * r then q + 1
  else if q % 2 = 0 then q else q + 1

/-- The fraction `num / (den * 2^e)` as a numerator and a denominator. -/
def scaleDown (num den : Nat) (e : Int) : Nat × Nat :=
  if 0 ≤ e then (num, den * 2 ^ e.toNat) else (num * 2 ^ (-e).toNat, den)

/-- The exponent `e` with `2^52 ≤ num / (den * 2^e) < 2^53`, for a positive fraction. -/
def unitExponent (num den : Nat) : Int :=
  let guess : Int := (Nat.log2 num : Int) - (Nat.log2 den : Int) - 52
  let (n, d) := scaleDown num den guess
  if n < 2 ^ (52 : Nat) * d then guess - 1 else guess

/-- The double nearest to `num / den` with sign `neg`, ties to the even significand; `none` when
the magnitude rounds beyond the greatest finite double. A zero numerator gives a zero. -/
def round (neg : Bool) (num den : Nat) : Option Binary64 :=
  if num = 0 ∨ den = 0 then some ⟨neg, 0, minExp⟩
  else
    let e := max (unitExponent num den) minExp
    let (n, d) := scaleDown num den e
    let m := roundHalfEven n d
    let (m, e) := if m = 2 ^ precision then (2 ^ (precision - 1), e + 1) else (m, e)
    if maxExp < e then none else some ⟨neg, m, e⟩

/-- The magnitude as a fraction `(numerator, denominator)` with a power-of-two denominator. -/
def fraction (x : Binary64) : Nat × Nat :=
  if 0 ≤ x.exp then (x.mant * 2 ^ x.exp.toNat, 1) else (x.mant, 2 ^ (-x.exp).toNat)

/-- Whether the value is a zero of either sign. -/
def isZero (x : Binary64) : Bool := x.mant == 0

/-- The same magnitude with the other sign. -/
def negate (x : Binary64) : Binary64 := { x with neg := !x.neg }

/-- The double nearest to a natural number. Every number below `2^64` has one. -/
def ofNat (n : Nat) : Binary64 := (round false n 1).getD zero

/-- The rounded product; `none` on overflow. -/
def mul (x y : Binary64) : Option Binary64 :=
  let (a, b) := x.fraction
  let (c, d) := y.fraction
  round (x.neg != y.neg) (a * c) (b * d)

/-- The rounded quotient; `none` on overflow or when dividing by zero. -/
def div (x y : Binary64) : Option Binary64 :=
  if y.isZero then none
  else
    let (a, b) := x.fraction
    let (c, d) := y.fraction
    round (x.neg != y.neg) (a * d) (b * c)

/-- The rounded sum; `none` on overflow. Magnitudes that cancel exactly give positive zero. -/
def add (x y : Binary64) : Option Binary64 :=
  let (a, b) := x.fraction
  let (c, d) := y.fraction
  if x.neg == y.neg then round x.neg (a * d + c * b) (b * d)
  else if a * d = c * b then some zero
  else if c * b < a * d then round x.neg (a * d - c * b) (b * d)
  else round y.neg (c * b - a * d) (b * d)

/-- The double nearest to `10^k`. For `k ≤ 22` the power itself is a double. -/
def pow10 (k : Nat) : Binary64 := ofNat (10 ^ k)

end Binary64

end CrashTest
