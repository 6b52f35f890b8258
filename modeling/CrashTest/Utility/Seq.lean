import CrashTest.Utility.Basic
import CrashTest.Text.Directive
/-!
`seq`: numbers from a first to a last by an increment.

Operands are read exactly, as fractions, so that stepping by `0.1` lands on the last number
exactly. Without `-f` every number is written with as many decimals as the first number and the
increment have, and `-w` pads them with zeros to one width; `-f` takes one floating-point
directive of `printf`. A number written in a way that does not say its decimals (in hexadecimal,
say) is written as `%g` writes it.
-/
-- Powers of numbers are the core ones, also where Mathlib's monoid powers are in scope.
attribute [local instance (high)] instPowNat

namespace CrashTest.Utility

open CrashTest.Os CrashTest.Text

/-- An exact fraction `num / den` with `den > 0`. -/
structure Fraction where
  num : Int
  den : Nat
  deriving Repr, Inhabited

namespace Fraction

/-- The sum of two fractions. -/
def add (a b : Fraction) : Fraction := ⟨a.num * b.den + b.num * a.den, a.den * b.den⟩

/-- A fraction times a natural number. -/
def scale (a : Fraction) (k : Nat) : Fraction := ⟨a.num * k, a.den⟩

/-- Whether `a < b`. -/
def lt (a b : Fraction) : Bool := a.num * b.den < b.num * a.den

/-- Whether the fraction is 0. -/
def isZero (a : Fraction) : Bool := a.num == 0

/-- Whether the fraction is below 0. -/
def isNeg (a : Fraction) : Bool := a.num < 0

/-- The nearest double, for conversions that need one. -/
def toFloat (a : Fraction) : FloatValue :=
  match Binary64.round (a.num < 0) a.num.natAbs a.den with
  | some x => .finite x
  | none => .inf (a.num < 0)

end Fraction

/-- An operand of `seq`: its value, the number of decimals its text shows (`none` when the text
does not say, as in hexadecimal), and the width of its text. -/
structure SeqOperand where
  value : Fraction
  decimals : Option Nat
  width : Nat
  deriving Repr, Inhabited

/-- Reads a decimal operand: sign, digits, point, digits, and an exponent. -/
def readDecimalOperand (text : String) : Option SeqOperand :=
  let cs := text.toList.dropWhile fun c => c = ' ' || c = '\t'
  let (neg, cs) := match cs with
    | '-' :: rest => (true, rest)
    | '+' :: rest => (false, rest)
    | rest => (false, rest)
  let whole := cs.takeWhile Char.isDigit
  let cs := cs.drop whole.length
  let (frac, cs, hasPoint) := match cs with
    | '.' :: rest => (rest.takeWhile Char.isDigit, rest.drop (rest.takeWhile Char.isDigit).length, true)
    | rest => ([], rest, false)
  if whole.isEmpty && frac.isEmpty then none
  else
    let expPart : Option (Option Int) := match cs with
      | [] => some none
      | e :: rest =>
        if e = 'e' || e = 'E' then
          let (eneg, ds) := match rest with
            | '-' :: more => (true, more)
            | '+' :: more => (false, more)
            | more => (false, more)
          if !ds.isEmpty && ds.all Char.isDigit then
            let k : Int := (String.ofList ds).toNat!
            some (some (if eneg then -k else k))
          else none
        else none
    match expPart with
    | none => none
    | some exp =>
      let mant : Nat := (String.ofList (whole ++ frac)).toNat!
      let e : Int := (exp.getD 0) - frac.length
      let value : Fraction :=
        if e ≥ 0 then ⟨(mant * 10 ^ e.toNat : Nat), 1⟩ else ⟨(mant : Int), 10 ^ e.natAbs⟩
      let value := if neg then ⟨-value.num, value.den⟩ else value
      -- the decimals the text shows, moved by the exponent
      let decimals : Int := frac.length - (exp.getD 0)
      let decimals := if decimals < 0 then 0 else decimals.toNat
      let width : Int := text.length
      let width := if !hasPoint then width
        else if frac.isEmpty then width - 1
        else if whole.isEmpty then width + 1 else width
      let width := match exp with
        | some k =>
          let expLen := (text.toList.dropWhile (fun c => c ≠ 'e' && c ≠ 'E')).length
          let w := width - expLen
          if k < 0 then w - k else w
        | none => width
      some ⟨value, some decimals, width.toNat⟩

/-- Reads an operand, the error message when it is no number. -/
def readSeqOperand (name : String) (text : String) : Except String SeqOperand :=
  match readDecimalOperand text with
  | some op => .ok op
  | none =>
    let r := readFloat (text.toList.dropWhile fun c => c = ' ' || c = '\t')
    if r.converted && r.rest.isEmpty then
      match r.value with
      | .finite x =>
        let (num, den) := x.fraction
        .ok ⟨⟨if x.neg then -(num : Int) else num, den⟩, none, text.length⟩
      | .nan _ => .error (usageError name ("invalid " ++ curvedQuote "not-a-number" ++ " argument: " ++ curvedQuote text))
      | .inf _ => .error (usageError name ("invalid floating point argument: " ++ curvedQuote text))
    else .error (usageError name ("invalid floating point argument: " ++ curvedQuote text))

/-- A `printf` format with one floating-point directive: the text before it, the directive, its
conversion and the text after. -/
structure SeqFormat where
  before : String
  directive : Directive
  conv : Char
  after : String
  deriving Repr, Inhabited

/-- Turns `%%` into `%` in literal text. -/
def unescapePercent (cs : List Char) : String :=
  let rec go : Nat → List Char → List Char
    | 0, _ => []
    | _, [] => []
    | fuel + 1, '%' :: '%' :: rest => '%' :: go fuel rest
    | fuel + 1, c :: rest => c :: go fuel rest
  String.ofList (go (cs.length + 1) cs)

/-- Finds the first `%` that does not start `%%`: the text before and the rest from the `%`. -/
def splitDirective (cs : List Char) : Option (List Char × List Char) :=
  let rec go : Nat → List Char → List Char → Option (List Char × List Char)
    | 0, _, _ => none
    | _, [], _ => none
    | fuel + 1, '%' :: '%' :: rest, acc => go fuel rest ('%' :: '%' :: acc)
    | _ + 1, '%' :: rest, acc => some (acc.reverse, '%' :: rest)
    | fuel + 1, c :: rest, acc => go fuel rest (c :: acc)
  go (cs.length + 1) cs []

/-- Reads the format of `-f`. -/
def readSeqFormat (name : String) (fmt : String) : Except String SeqFormat :=
  match splitDirective fmt.toList with
  | none => .error (name ++ ": format " ++ curvedQuote fmt ++ " has no % directive")
  | some (before, _ :: rest) =>
    let flags := rest.takeWhile fun c => "-+ #0'".contains c
    let rest := rest.drop flags.length
    let widthDigits := rest.takeWhile Char.isDigit
    let rest := rest.drop widthDigits.length
    let (precision, rest) : Option Nat × List Char := match rest with
      | '.' :: more =>
        let ds := more.takeWhile Char.isDigit
        (some ((String.ofList ds).toNat?.getD 0), more.drop ds.length)
      | more => (none, more)
    let rest := match rest with
      | 'L' :: more => more
      | more => more
    match rest with
    | c :: after =>
      if "aAeEfFgG".contains c then
        match splitDirective after with
        | some _ => .error (name ++ ": format " ++ curvedQuote fmt ++ " has too many % directives")
        | none =>
          let d : Directive := flags.foldl Directive.withFlag
            { width := (String.ofList widthDigits).toNat?.getD 0, precision := precision }
          .ok ⟨unescapePercent before, d, c, unescapePercent after⟩
      else .error (name ++ ": format " ++ curvedQuote fmt ++ " has unknown %" ++ String.singleton c ++ " directive")
    | [] => .error (name ++ ": format " ++ curvedQuote fmt ++ " ends in %")
  | some (_, []) => .error (name ++ ": format " ++ curvedQuote fmt ++ " has no % directive")

/-- Writes a fraction with a directive: `f`, `e` and `g` exactly, `a` through the nearest
double. -/
def formatFraction (d : Directive) (conv : Char) (x : Fraction) : String :=
  let num := x.num.natAbs
  let upper := conv.isUpper
  let p := d.precision.getD 6
  let body := match conv.toLower with
    | 'f' => fixedBody num x.den p d.alt
    | 'e' => scientificBody num x.den p d.alt upper
    | 'g' => generalBody num x.den p d.alt upper
    | _ => match x.toFloat with
      | .finite b => hexBody b d.precision d.alt upper
      | _ => if upper then "INF" else "inf"
  d.pad (d.signOf (x.num < 0)) "" body true

/-- `seq`. -/
def runSeq (inv : Invocation) : Effect :=
  let specs : List OptionSpec := [⟨'f', true, "format"⟩, ⟨'s', true, "separator"⟩, ⟨'w', false, "equal-width"⟩]
  -- a negative number ends the options
  let stop (a : String) : Bool := match a.toList with
    | '-' :: c :: _ => c.isDigit || c = '.'
    | _ => false
  match readOptions inv.name specs true stop inv.args with
  | .error m => optionFailure inv m 1
  | .ok r =>
    let separator := (r.last? 's').getD "\n"
    match r.operands with
    | [] => optionFailure inv (usageError inv.name "missing operand") 1
    | _ :: _ :: _ :: extra :: _ => optionFailure inv (usageError inv.name ("extra operand " ++ curvedQuote extra)) 1
    | ops =>
      match ops.mapM (readSeqOperand inv.name) with
      | .error m => optionFailure inv m 1
      | .ok nums =>
        let one : SeqOperand := ⟨⟨1, 1⟩, some 0, 1⟩
        let (first, step, last) := match nums with
          | [l] => (one, one, l)
          | [f, l] => (f, one, l)
          | [f, s, l] => (f, s, l)
          | _ => (one, one, one)
        if step.value.isZero then
          optionFailure inv (usageError inv.name ("invalid Zero increment value: " ++ curvedQuote (ops.getD 1 ""))) 1
        else
          let render : Except String (Fraction → String) :=
            match r.last? 'f' with
            | some fmt =>
              if r.has 'w' then
                .error (usageError inv.name "format string may not be specified when printing equal width strings")
              else (readSeqFormat inv.name fmt).map fun f x => f.before ++ formatFraction f.directive f.conv x ++ f.after
            | none =>
              match first.decimals, step.decimals, last.decimals with
              | some a, some b, some c =>
                let prec := max a b
                let width :=
                  if r.has 'w' then
                    let fw := first.width + (prec - a) + (if a == 0 && prec > 0 then 1 else 0)
                    let lw := last.width + prec - c - (if c > 0 && prec == 0 then 1 else 0) +
                      (if c == 0 && prec > 0 then 1 else 0)
                    max fw lw
                  else 0
                .ok fun x => formatFraction { zero := true, width := width, precision := some prec } 'f' x
              | _, _, _ => .ok fun x => formatFraction {} 'g' x
          match render with
          | .error m => optionFailure inv m 1
          | .ok write =>
            let beyond (x : Fraction) : Bool :=
              if step.value.isNeg then x.lt last.value else last.value.lt x
            if beyond first.value then Effect.start inv
            else
              -- how many numbers there are: the largest k with first + k * step in range
              let span := if step.value.isNeg then
                  Fraction.add first.value ⟨-last.value.num, last.value.den⟩
                else Fraction.add last.value ⟨-first.value.num, first.value.den⟩
              let stepAbs : Fraction := ⟨step.value.num.natAbs, step.value.den⟩
              let count := (span.num.natAbs * stepAbs.den) / (stepAbs.num.natAbs * span.den) + 1
              let values := (List.range count).map fun k => first.value.add (step.value.scale k)
              (Effect.start inv).say (separator.intercalate (values.map write) ++ "\n")

end CrashTest.Utility
