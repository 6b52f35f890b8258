import CrashTest.Float.Binary64
/-!
Decimal texts of a double.

Two readings are given. `Binary64.shortest` is the decimal with the fewest significant digits that
rounds back to the same double, and of those the one nearest to it; `Binary64.toText` writes it the
way JSON numbers are written here. `Binary64.toFixed` rounds the exact value to a fixed number of
places, a half going to the even neighbour.
-/
-- Powers of numbers are the core ones, also where Mathlib's monoid powers are in scope.
attribute [local instance (high)] instPowNat

namespace CrashTest

/-- A decimal `digits * 10^exp`. -/
structure Decimal where
  digits : Nat
  exp : Int
  deriving DecidableEq, Repr, Inhabited

namespace Decimal

/-- The decimal digits of a natural number, most significant first. -/
def digitChars (n : Nat) : List Char := (Nat.toDigits 10 n)

/-- How many decimal digits `n` has; zero has one. -/
def digitCount (n : Nat) : Nat := (digitChars n).length

/-- Drops trailing zero digits, raising the exponent for each; at most `fuel` of them. -/
def trim : Nat → Decimal → Decimal
  | 0, d => d
  | fuel + 1, d =>
    if d.digits ≠ 0 ∧ d.digits % 10 = 0 then trim fuel ⟨d.digits / 10, d.exp + 1⟩ else d

/-- The exponent of the leading digit: `d = 1.2345 × 10^(scientific d)`. -/
def scientific (d : Decimal) : Int := (digitCount d.digits : Int) - 1 + d.exp

/-- Writes the decimal: positionally when the leading digit's exponent lies in `[-5, 16)`, with
`.0` after a whole number; otherwise as `d.ddde+X` or `d.ddde-X`. -/
def toText (d : Decimal) : String :=
  let ds := digitChars d.digits
  let sci := d.scientific
  if -5 ≤ sci ∧ sci < 16 then
    if 0 ≤ d.exp then
      String.ofList (ds ++ List.replicate d.exp.toNat '0') ++ ".0"
    else if 0 ≤ sci then
      let whole := ds.take (sci.toNat + 1)
      let frac := ds.drop (sci.toNat + 1)
      String.ofList whole ++ "." ++ String.ofList frac
    else
      "0." ++ String.ofList (List.replicate ((-sci).toNat - 1) '0' ++ ds)
  else
    let mant := match ds with
      | [] => "0"
      | [c] => String.singleton c
      | c :: rest => String.singleton c ++ "." ++ String.ofList rest
    let sign := if 0 ≤ sci then "+" else "-"
    mant ++ "e" ++ sign ++ toString sci.natAbs

end Decimal

namespace Binary64

/-- Compares `a * 10^s` with `b * 2^q` exactly. -/
def comparePowers (a : Nat) (s : Int) (b : Nat) (q : Int) : Ordering :=
  let lhs := a * 10 ^ s.toNat * 2 ^ (-q).toNat
  let rhs := b * 2 ^ q.toNat * 10 ^ (-s).toNat
  compare lhs rhs

/-- Steps `e` by one towards the exponent with `10^e ≤ v < 10^(e+1)`, where `v = m * 2^q`; the
guess handed in is within a few steps of it. -/
def settleExponent (m : Nat) (q : Int) : Nat → Int → Int
  | 0, e => e
  | fuel + 1, e =>
    if comparePowers 1 e m q == .gt then settleExponent m q fuel (e - 1)
    else if comparePowers 1 (e + 1) m q != .gt then settleExponent m q fuel (e + 1)
    else e

/-- The decimal nearest to the value among those with `n` significant digits that lie in the
rounding interval, if any does. The interval is `[lo, hi] * 2^q` around `v * 2^q`, closed when
`closed` holds. -/
def candidate (v lo hi : Nat) (q : Int) (closed : Bool) (lead : Int) (n : Nat) : Option Decimal :=
  let s := lead - n + 1
  let c := (v * 2 ^ q.toNat * 10 ^ (-s).toNat) / (2 ^ (-q).toNat * 10 ^ s.toNat)
  let inside (k : Nat) : Bool :=
    let above := comparePowers k s lo q
    let below := comparePowers k s hi q
    (above == .gt || (closed && above == .eq)) && (below == .lt || (closed && below == .eq))
  match inside c, inside (c + 1) with
  | true, true =>
    match comparePowers (2 * c + 1) s (2 * v) q with
    | .gt => some ⟨c, s⟩
    | .lt => some ⟨c + 1, s⟩
    | .eq => some ⟨if c % 2 = 0 then c else c + 1, s⟩
  | true, false => some ⟨c, s⟩
  | false, true => some ⟨c + 1, s⟩
  | false, false => none

/-- The shortest decimal that reads back as this double's magnitude: the fewest significant
digits, and of those the nearest to the value, a tie going to the even last digit. -/
def shortest (x : Binary64) : Decimal :=
  if x.mant = 0 then ⟨0, 0⟩
  else
    let q := x.exp - 2
    let v := 4 * x.mant
    let lowerGap := if x.mant = 2 ^ (precision - 1) ∧ minExp < x.exp then 1 else 2
    let closed := x.mant % 2 == 0
    let guess : Int := ((Nat.log2 x.mant : Int) + x.exp) * 30103 / 100000
    let lead := settleExponent v q 8 guess
    let found := (List.range 17).findSome? fun i =>
      candidate v (v - lowerGap) (v + 2) q closed lead (i + 1)
    Decimal.trim 20 (found.getD ⟨x.mant, x.exp⟩)

/-- The JSON text of a double: the shortest decimal, signed, written by `Decimal.toText`. -/
def toText (x : Binary64) : String :=
  let body := if x.mant = 0 then "0.0" else x.shortest.toText
  if x.neg then "-" ++ body else body

/-- The exact value rounded to `places` decimals, a half going to the even neighbour. A negative
value keeps its sign, also when it rounds to zero. -/
def toFixed (x : Binary64) (places : Nat) : String :=
  let (num, den) := x.fraction
  let scaled := roundHalfEven (num * 10 ^ places) den
  let whole := toString (scaled / 10 ^ places)
  let frac := toString (scaled % 10 ^ places)
  let padded := String.ofList (List.replicate (places - frac.length) '0') ++ frac
  let body := if places = 0 then whole else whole ++ "." ++ padded
  if x.neg then "-" ++ body else body

end Binary64

end CrashTest
