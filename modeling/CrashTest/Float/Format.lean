import CrashTest.Float.Parse
/-!
Writing floating-point numbers as the C library's `printf` writes them.

Every conversion works on the exact value of the double and rounds it once, to the nearest
number of the requested digits with a tie going to the even neighbour.

* `f`: the integer part, then the point and `precision` decimals (6 by default); no point when
  the precision is 0.
* `e`: one digit, the point and `precision` decimals, then `e`, a sign and at least two digits
  of the power of ten.
* `g`: `precision` significant digits (6 by default, at least 1), written as `f` when the power
  of ten `X` of the rounded value has `-4 ≤ X < precision`, else as `e`; trailing zeros of the
  decimals, and then a bare point, are removed.
* `a`: `0x`, the leading hexadecimal digit (1, or 0 for zero and subnormal numbers), the point and
  the hexadecimal digits of the rest, then `p`, a sign and the decimal power of two; by default
  exactly as many digits as the value needs.

The capital conversions write capital letters. Infinities are `inf` and not-a-number is `nan`.
The `#` flag keeps the point (and, for `g`, the trailing zeros).
-/
-- Powers of numbers are the core ones, also where Mathlib's monoid powers are in scope.
attribute [local instance (high)] instPowNat

namespace CrashTest

/-- The text of a natural number in base `base` with lowercase digits. -/
def natDigits (base n : Nat) : String := String.ofList (Nat.toDigits base n)

/-- A natural number's decimal text, with zeros in front up to `width` digits; nothing at all
for width 0, where the number is always 0. -/
def zeroPadded (width : Nat) (n : Nat) : String :=
  if width = 0 then ""
  else
    let s := toString n
    String.ofList (List.replicate (width - s.length) '0') ++ s

/-- The exact magnitude of a double as a fraction. -/
def magnitude (x : Binary64) : Nat × Nat := x.fraction

/-- The power of ten `X` with `10^X ≤ num / den < 10^(X+1)`, for a positive fraction. -/
def decimalExponent (num den : Nat) : Int :=
  let guess : Int := ((Nat.log2 num : Int) - (Nat.log2 den : Int)) * 30103 / 100000
  let atLeast (x : Int) : Bool :=
    if 0 ≤ x then num ≥ den * 10 ^ x.toNat else num * 10 ^ (-x).toNat ≥ den
  let rec settle : Nat → Int → Int
    | 0, x => x
    | fuel + 1, x =>
      if !atLeast x then settle fuel (x - 1)
      else if atLeast (x + 1) then settle fuel (x + 1)
      else x
  settle 8 guess

/-- The nearest integer to `num / den * 10^k`, ties to even. -/
def scaledRound (num den : Nat) (k : Int) : Nat :=
  if 0 ≤ k then Binary64.roundHalfEven (num * 10 ^ k.toNat) den
  else Binary64.roundHalfEven num (den * 10 ^ (-k).toNat)

/-- The digits of a fixed-point text: the integer part and `places` decimals. -/
def fixedDigits (num den : Nat) (places : Nat) : String × String :=
  let scaled := scaledRound num den places
  (toString (scaled / 10 ^ places), zeroPadded places (scaled % 10 ^ places))

/-- The digits of a scientific text with `places` decimals: the leading digit, the decimals and
the power of ten. -/
def scientificDigits (num den : Nat) (places : Nat) : String × String × Int :=
  if num = 0 then ("0", zeroPadded places 0, 0)
  else
    let x := decimalExponent num den
    let m := scaledRound num den ((places : Int) - x)
    let (m, x) := if m ≥ 10 ^ (places + 1) then (m / 10, x + 1) else (m, x)
    (toString (m / 10 ^ places), zeroPadded places (m % 10 ^ places), x)

/-- The point and decimals, or nothing when there are no decimals and `alt` is off. -/
def withPoint (alt : Bool) (decimals : String) : String :=
  if decimals.isEmpty && !alt then "" else "." ++ decimals

/-- The power of ten of a scientific text: the marker, a sign and at least two digits. -/
def exponentText (upper : Bool) (x : Int) : String :=
  let digits := toString x.natAbs
  (if upper then "E" else "e") ++ (if x < 0 then "-" else "+") ++
    (if digits.length < 2 then "0" ++ digits else digits)

/-- Drops the trailing zeros of decimals. -/
def dropTrailingZeros (s : String) : String :=
  String.ofList (s.toList.reverse.dropWhile (· = '0')).reverse

/-- The body of `f` for a magnitude: digits and point, no sign. -/
def fixedBody (num den : Nat) (places : Nat) (alt : Bool) : String :=
  let (whole, decimals) := fixedDigits num den places
  whole ++ withPoint alt decimals

/-- The body of `e` for a magnitude. -/
def scientificBody (num den : Nat) (places : Nat) (alt upper : Bool) : String :=
  let (lead, decimals, x) := scientificDigits num den places
  lead ++ withPoint alt decimals ++ exponentText upper x

/-- The body of `g` for a magnitude. -/
def generalBody (num den : Nat) (precision : Nat) (alt upper : Bool) : String :=
  let p := if precision = 0 then 1 else precision
  let (_, _, x) := scientificDigits num den (p - 1)
  if -4 ≤ x && x < (p : Int) then
    let places := (((p : Int) - 1 - x).toNat)
    let (whole, decimals) := fixedDigits num den places
    let decimals := if alt then decimals else dropTrailingZeros decimals
    whole ++ withPoint alt decimals
  else
    let (lead, decimals, x) := scientificDigits num den (p - 1)
    let decimals := if alt then decimals else dropTrailingZeros decimals
    lead ++ withPoint alt decimals ++ exponentText upper x

/-- The body of `a` for a double. -/
def hexBody (x : Binary64) (precision : Option Nat) (alt upper : Bool) : String :=
  let (lead, frac, power) : Nat × Nat × Int :=
    if x.mant = 0 then (0, 0, 0)
    else if x.mant < 2 ^ (52 : Nat) then (0, x.mant, -1022)
    else (1, x.mant - 2 ^ (52 : Nat), x.exp + 52)
  -- the 52 bits after the point as 13 hexadecimal digits
  let (lead, digits) : Nat × String :=
    match precision with
    | none =>
      let full := String.ofList ((natDigits 16 frac).toList.reverse ++ List.replicate 13 '0' |>.take 13 |>.reverse)
      (lead, dropTrailingZeros full)
    | some p =>
      if p ≥ 13 then
        let full := String.ofList ((natDigits 16 frac).toList.reverse ++ List.replicate 13 '0' |>.take 13 |>.reverse)
        (lead, full ++ String.ofList (List.replicate (p - 13) '0'))
      else
        let whole := lead * 2 ^ (52 : Nat) + frac
        let drop := 4 * (13 - p)
        let kept := Binary64.roundHalfEven whole (2 ^ drop)
        let lead' := kept / 16 ^ p
        let rest := kept % 16 ^ p
        let text := natDigits 16 rest
        (lead', String.ofList (List.replicate (p - text.length) '0') ++ text)
  let digits := if x.mant = 0 then (match precision with
    | some p => String.ofList (List.replicate p '0')
    | none => "") else digits
  let body := "0x" ++ natDigits 16 lead ++ withPoint alt digits ++ "p" ++
    (if power < 0 then "-" else "+") ++ toString power.natAbs
  if upper then body.toUpper else body

/-- The text of a floating-point conversion `conv` (one of `f F e E g G a A`) without sign or
padding: the magnitude's digits, or `inf`/`nan`. -/
def floatBody (conv : Char) (v : FloatValue) (precision : Option Nat) (alt : Bool) : String :=
  let upper := conv.isUpper
  match v with
  | .inf _ => if upper then "INF" else "inf"
  | .nan _ => if upper then "NAN" else "nan"
  | .finite x =>
    let (num, den) := magnitude x
    let p := precision.getD 6
    match conv.toLower with
    | 'f' => fixedBody num den p alt
    | 'e' => scientificBody num den p alt upper
    | 'g' => generalBody num den p alt upper
    | _ => hexBody x precision alt upper

end CrashTest
