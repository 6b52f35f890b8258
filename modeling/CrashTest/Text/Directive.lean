import CrashTest.Float.Format
/-!
One conversion of a `printf` format, as the C library performs it.

A conversion has flags (`-` left-justify, `+` and blank for the sign of a positive number, `#`
the alternate form, `0` zero padding), a minimum width and an optional precision. The field is
the sign, a prefix (`0x` for the alternate hexadecimal form and for `a`), and the digits or text;
when it is shorter than the width it is padded with blanks on the left, or on the right under `-`,
or with zeros between the prefix and the digits under `0`. Zero padding is ignored under `-`, for
integers that have a precision, for infinities and not-a-number, and for texts and characters,
which are always padded with blanks.

For an integer the precision is the least number of digits, and a zero with precision 0 has
none; the alternate octal form starts with `0`, the alternate hexadecimal form of a nonzero value
with `0x`. For a text the precision is the most bytes taken. Texts here are byte texts, so widths
and precisions count bytes.
-/
namespace CrashTest.Text

/-- The flags, width and precision of a conversion. -/
structure Directive where
  left : Bool := false
  plus : Bool := false
  space : Bool := false
  alt : Bool := false
  zero : Bool := false
  width : Nat := 0
  precision : Option Nat := none
  deriving DecidableEq, Repr, Inhabited

namespace Directive

/-- Sets the flag of a flag character. -/
def withFlag (d : Directive) (c : Char) : Directive :=
  match c with
  | '-' => { d with left := true }
  | '+' => { d with plus := true }
  | ' ' => { d with space := true }
  | '#' => { d with alt := true }
  | '0' => { d with zero := true }
  | _ => d

/-- Sets a width given as an argument: a negative one left-justifies. -/
def withWidthArg (d : Directive) (w : Int) : Directive :=
  if w < 0 then { d with left := true, width := w.natAbs } else { d with width := w.toNat }

/-- Sets a precision given as an argument: a negative one is no precision. -/
def withPrecisionArg (d : Directive) (p : Int) : Directive :=
  if p < 0 then { d with precision := none } else { d with precision := some p.toNat }

/-- A field of `width` at least: sign, prefix and body, padded as the flags say; `zeroOk` tells
whether zero padding applies. -/
def pad (d : Directive) (sign pre body : String) (zeroOk : Bool) : String :=
  let len := sign.length + pre.length + body.length
  if d.width ≤ len then sign ++ pre ++ body
  else
    let fill := d.width - len
    if d.left then sign ++ pre ++ body ++ String.ofList (List.replicate fill ' ')
    else if d.zero && zeroOk then sign ++ pre ++ String.ofList (List.replicate fill '0') ++ body
    else String.ofList (List.replicate fill ' ') ++ sign ++ pre ++ body

/-- The sign of a signed conversion. -/
def signOf (d : Directive) (neg : Bool) : String :=
  if neg then "-" else if d.plus then "+" else if d.space then " " else ""

/-- Digits with the precision applied: zeros in front up to the precision, and none at all for
a zero with precision 0. -/
def withPrecision (d : Directive) (digits : String) : String :=
  match d.precision with
  | none => digits
  | some p =>
    if p = 0 && digits == "0" then ""
    else String.ofList (List.replicate (p - digits.length) '0') ++ digits

/-- A signed decimal conversion (`d`, `i`). -/
def signed (d : Directive) (v : Int) : String :=
  d.pad (d.signOf (v < 0)) "" (d.withPrecision (toString v.natAbs)) d.precision.isNone

/-- An unsigned conversion: `o`, `u`, `x` or `X`. -/
def unsigned (d : Directive) (conv : Char) (n : Nat) : String :=
  let zeroOk := d.precision.isNone
  match conv with
  | 'o' =>
    let digits := d.withPrecision (natDigits 8 n)
    let digits := if d.alt && !digits.startsWith "0" then "0" ++ digits else digits
    d.pad "" "" digits zeroOk
  | 'x' | 'X' =>
    let digits := d.withPrecision (natDigits 16 n)
    let digits := if conv = 'X' then digits.toUpper else digits
    let pre := if d.alt && n ≠ 0 then (if conv = 'X' then "0X" else "0x") else ""
    d.pad "" pre digits zeroOk
  | _ => d.pad "" "" (d.withPrecision (toString n)) zeroOk

/-- A text conversion (`s`): at most `precision` bytes of the text. -/
def text (d : Directive) (s : String) : String :=
  let body := match d.precision with
    | some p => String.ofList (s.toList.take p)
    | none => s
  d.pad "" "" body false

/-- A character conversion (`c`). -/
def char (d : Directive) (c : Char) : String := d.pad "" "" (String.singleton c) false

/-- A floating-point conversion: `f F e E g G a A`. -/
def float (d : Directive) (conv : Char) (v : FloatValue) : String :=
  let body := floatBody conv v d.precision d.alt
  let finite := match v with
    | .finite _ => true
    | _ => false
  let (pre, body) := if finite && (conv = 'a' || conv = 'A') then
      ((body.take 2).toString, (body.drop 2).toString) else ("", body)
  d.pad (d.signOf v.isNeg) pre body finite

end Directive

end CrashTest.Text
