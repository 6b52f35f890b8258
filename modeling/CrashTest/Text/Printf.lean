import CrashTest.Text.Directive
import CrashTest.Text.ByteText
/-!
The `printf` command: a format written out with arguments, in two dialects.

The format is read once into pieces: literal bytes, conversions, a cut (`\c`), and a fault that
ends the command where the format goes wrong. Then the pieces are written with the arguments; as
long as arguments are left and the last round used some, the format is used again. A missing
argument reads as an empty text, or zero.

The **shell's** command knows the escapes `\\ \a \b \e \f \n \r \t \v` and one to three octal
digits; any other backslash stands for itself. Its conversions are `%%`, `b c s d i o u x X`
and `e E f F g G a A`, after flags `#-+ 0`, a width and a precision, either of which may be `*`
(taken from the next argument). Anything else after the `%` is an invalid directive, and a format
that ends inside a conversion misses its format character; both end the command with status 2.
`%b` writes its argument with escapes read, where `\0` may start an octal escape and `\c` ends
all output. A numeric argument that starts with a quote is the value of the byte after it;
otherwise it is read as the C library reads numbers, and one that is not a number, not all a
number, or out of range draws a warning and makes the status 1.

The **installed program** also knows `\"`, `\c` (stop and exit with 0), `\x` with one or two
hexadecimal digits and `\u`, `\U` with four or eight, written as UTF-8; any other backslash
stands for itself together with the character after it. Its `%b` and `%q` take no flags; flags
may include `'`, and the length modifiers `h l L j z t` are accepted and ignored. A flag that does
not suit the conversion makes it invalid. Its errors end the command with status 1. A numeric
argument that starts with a quote is the character after it.
-/
-- Powers of numbers are the core ones, also where Mathlib's monoid powers are in scope.
attribute [local instance (high)] instPowNat

namespace CrashTest.Text

/-- Which `printf` reads the format: the shell's own command or the installed program. -/
inductive Dialect where
  | shell
  | program
  deriving DecidableEq, Repr, Inhabited

/-- A width or precision: written in the format, or taken from the next argument. -/
inductive Amount where
  | fixed (n : Nat)
  | fromArg
  deriving DecidableEq, Repr, Inhabited

/-- A piece of a format. -/
inductive Piece where
  /-- Bytes written as they are. -/
  | text (s : String)
  /-- A conversion: the text of its specification, its flags, width, precision and letter. -/
  | conv (spec : String) (flags : List Char) (width : Option Amount) (precision : Option Amount)
      (letter : Char)
  /-- `\c`: nothing more is written. -/
  | cut
  /-- A fault that ends the command here, with its message. -/
  | fault (message : String)
  deriving DecidableEq, Repr, Inhabited

/-- The value of an octal digit. -/
def octalValue? (c : Char) : Option Nat :=
  if '0' ≤ c ∧ c ≤ '7' then some (c.toNat - '0'.toNat) else none

/-- Reads up to `n` octal digits: their value, how many, and the rest. -/
def readOctal : Nat → Nat → Nat → List Char → Nat × Nat × List Char
  | 0, acc, k, cs => (acc, k, cs)
  | n + 1, acc, k, c :: cs =>
    match octalValue? c with
    | some d => readOctal n (acc * 8 + d) (k + 1) cs
    | none => (acc, k, c :: cs)
  | _, acc, k, [] => (acc, k, [])

/-- Reads up to `n` hexadecimal digits: their value, how many, and the rest. -/
def readHex : Nat → Nat → Nat → List Char → Nat × Nat × List Char
  | 0, acc, k, cs => (acc, k, cs)
  | n + 1, acc, k, c :: cs =>
    match digitIn 16 c with
    | some d => readHex n (acc * 16 + d) (k + 1) cs
    | none => (acc, k, c :: cs)
  | _, acc, k, [] => (acc, k, [])

/-- The byte of a one-letter escape both dialects know. -/
def letterEscape? (c : Char) : Option Char :=
  match c with
  | '\\' => some '\\'
  | 'a' => some '\x07'
  | 'b' => some '\x08'
  | 'e' => some '\x1b'
  | 'f' => some '\x0c'
  | 'n' => some '\n'
  | 'r' => some '\r'
  | 't' => some '\t'
  | 'v' => some '\x0b'
  | _ => none

/-- The byte text of a byte value. -/
def byteChar (n : Nat) : Char := Char.ofNat (n % 256)

/-- An escape of the installed program after its backslash: the bytes, whether it was `\c`, or
a fault; and the rest. `octalZero` lets a `0` lead an octal escape of up to three more digits,
as in `%b`. -/
def programEscape (octalZero : Bool) (cs : List Char) :
    Except String (String × Bool × List Char) :=
  match cs with
  | 'x' :: rest =>
    let (v, k, rest') := readHex 2 0 0 rest
    if k = 0 then .error "missing hexadecimal number in escape"
    else .ok (String.singleton (byteChar v), false, rest')
  | 'u' :: rest | 'U' :: rest =>
    let long := cs.head? == some 'U'
    let n := if long then 8 else 4
    let (v, k, rest') := readHex n 0 0 rest
    if k < n then .error "missing hexadecimal number in escape"
    else if (v ≤ 0x9f && v != 0x24 && v != 0x40 && v != 0x60) || (0xd800 ≤ v && v ≤ 0xdfff) then
      let digits := natDigits 16 v
      .error ("invalid universal character name \\" ++ (if long then "U" else "u") ++
        String.ofList (List.replicate (n - digits.length) '0') ++ digits)
    else .ok (ofBytes (encode (String.singleton (Char.ofNat v))), false, rest')
  | 'c' :: rest => .ok ("", true, rest)
  | '"' :: rest => .ok ("\"", false, rest)
  | c :: rest =>
    match octalValue? c with
    | some _ =>
      let digits := if octalZero && c = '0' then rest else c :: rest
      let (v, _, rest') := readOctal 3 0 0 digits
      .ok (String.singleton (byteChar v), false, rest')
    | none =>
      match letterEscape? c with
      | some b => .ok (String.singleton b, false, rest)
      | none => .ok (String.ofList ['\\', c], false, rest)
  | [] => .ok ("\\", false, [])

/-- An escape of the shell's format after its backslash: its byte and the rest. A backslash
before anything else stands for itself, and what follows is read as usual. -/
def shellEscape (cs : List Char) : Char × List Char :=
  match cs with
  | c :: rest =>
    match octalValue? c with
    | some _ =>
      let (v, _, rest') := readOctal 3 0 0 (c :: rest)
      (byteChar v, rest')
    | none =>
      match letterEscape? c with
      | some b => (b, rest)
      | none => ('\\', cs)
  | [] => ('\\', [])

/-- The text of `%b` in the shell's dialect: the argument with escapes read, and whether `\c`
ended it. -/
def shellEscapedText : Nat → List Char → String × Bool
  | 0, _ => ("", false)
  | _, [] => ("", false)
  | _ + 1, '\\' :: 'c' :: _ => ("", true)
  | fuel + 1, '\\' :: rest =>
    let rest := match rest with
      | '0' :: d :: more => if (octalValue? d).isSome then d :: more else rest
      | _ => rest
    let (b, rest') := shellEscape rest
    let (s, cut) := shellEscapedText fuel rest'
    (String.singleton b ++ s, cut)
  | fuel + 1, c :: rest =>
    let (s, cut) := shellEscapedText fuel rest
    (String.singleton c ++ s, cut)

/-- The text of `%b` for the installed program: the argument with escapes read, whether `\c`
ended it, or a fault. -/
def programEscapedText : Nat → List Char → Except String (String × Bool)
  | 0, _ => .ok ("", false)
  | _, [] => .ok ("", false)
  | fuel + 1, '\\' :: rest => do
    let (b, cut, rest') ← programEscape true rest
    if cut then return (b, true)
    let (s, cut') ← programEscapedText fuel rest'
    return (b ++ s, cut')
  | fuel + 1, c :: rest => do
    let (s, cut) ← programEscapedText fuel rest
    return (String.singleton c ++ s, cut)

/-- Reads decimal digits of a width or precision: the value and the rest. -/
def readAmount (cs : List Char) : Nat × List Char :=
  let ds := cs.takeWhile Char.isDigit
  (ds.foldl (fun acc c => acc * 10 + (c.toNat - '0'.toNat)) 0, cs.drop ds.length)

/-- Reads a width or precision that may be `*`. -/
def readAmountOrStar (cs : List Char) : Amount × List Char :=
  match cs with
  | '*' :: rest => (.fromArg, rest)
  | _ => let (n, rest) := readAmount cs; (.fixed n, rest)

/-- Reads the rest of a conversion in the shell's dialect after its `%`: the piece and the rest
of the format. -/
def shellConversion (cs : List Char) : Piece × List Char :=
  let flags := cs.takeWhile fun c => "#-+ 0".contains c
  let afterFlags := cs.drop flags.length
  let (width, afterWidth) := match afterFlags with
    | '*' :: rest => (some Amount.fromArg, rest)
    | _ => let (n, rest) := readAmount afterFlags
      (if rest.length < afterFlags.length then some (Amount.fixed n) else none, rest)
  let (precision, afterPrecision) := match afterWidth with
    | '.' :: rest => let (a, rest') := readAmountOrStar rest; (some a, rest')
    | _ => (none, afterWidth)
  let used := cs.length - afterPrecision.length
  match afterPrecision with
  | [] => (.fault "missing format character", [])
  | c :: rest =>
    let spec := "%" ++ String.ofList (cs.take used) ++ String.singleton c
    if "bcsdiouxXeEfFgGaA".contains c then (.conv spec flags width precision c, rest)
    else (.fault (spec ++ ": invalid directive"), [])

/-- Reads the rest of a conversion of the installed program after its `%`. -/
def programConversion (cs : List Char) : Piece × List Char :=
  match cs with
  | 'b' :: rest => (.conv "%b" [] none none 'b', rest)
  | 'q' :: rest => (.conv "%q" [] none none 'q', rest)
  | _ =>
    let flags := cs.takeWhile fun c => "'-+ #0I".contains c
    let afterFlags := cs.drop flags.length
    let (width, afterWidth) := match afterFlags with
      | '*' :: rest => (some Amount.fromArg, rest)
      | _ => let (n, rest) := readAmount afterFlags
        (if rest.length < afterFlags.length then some (Amount.fixed n) else none, rest)
    let (precision, afterPrecision) := match afterWidth with
      | '.' :: rest => let (a, rest') := readAmountOrStar rest; (some a, rest')
      | _ => (none, afterWidth)
    let modifiers := afterPrecision.takeWhile fun c => "lLhjtz".contains c
    let atLetter := afterPrecision.drop modifiers.length
    let letter := atLetter.head?.getD '\x00'
    let allowed : Bool :=
      "aAcdeEfFgGiosuxX".contains letter && letter != '\x00' &&
      !(flags.any (fun f => f = '\'' || f = 'I') && "aAceEosxX".contains letter) &&
      !(flags.contains '#' && "cdisu".contains letter) &&
      !(flags.contains '0' && "cs".contains letter) &&
      !(precision.isSome && letter = 'c')
    let specLen := cs.length - atLetter.length
    let spec := "%" ++ String.ofList (cs.take specLen) ++
      (if letter = '\x00' then "" else String.singleton letter)
    if allowed then (.conv spec flags width precision letter, atLetter.drop 1)
    else (.fault (spec ++ ": invalid conversion specification"), [])

/-- Reads a format into pieces; reading stops at a fault. -/
def readFormat (dialect : Dialect) : Nat → List Char → List Piece
  | 0, _ => []
  | _, [] => []
  | fuel + 1, '%' :: '%' :: rest => .text "%" :: readFormat dialect fuel rest
  | fuel + 1, '%' :: rest =>
    let (p, rest') := match dialect with
      | .shell => shellConversion rest
      | .program => programConversion rest
    match p with
    | .fault _ => [p]
    | _ => p :: readFormat dialect fuel rest'
  | fuel + 1, '\\' :: rest =>
    match dialect with
    | .shell =>
      let (b, rest') := shellEscape rest
      .text (String.singleton b) :: readFormat dialect fuel rest'
    | .program =>
      match programEscape false rest with
      | .ok (_, true, _) => [.cut]
      | .ok (s, false, rest') => .text s :: readFormat dialect fuel rest'
      | .error m => [.fault m]
  | fuel + 1, c :: rest => .text (String.singleton c) :: readFormat dialect fuel rest

/-- What `printf` writes, in order. -/
inductive Emit where
  /-- Bytes to standard output. -/
  | out (s : String)
  /-- A message to standard error, without the command's name. -/
  | warn (message : String)
  /-- A line to standard error as it is. -/
  | line (text : String)
  deriving DecidableEq, Repr, Inhabited

/-- A numeric argument read: the value and the warning it draws, if any. -/
structure ArgReading (α : Type) where
  value : α
  warning : Option String
  deriving Repr

/-- The warning of a C library reading that stopped at `rest`: none when the reading took
everything and was in range. -/
def readingWarning (dialect : Dialect) (arg : String) (converted : Bool) (rest : List Char)
    (outOfRange : Bool) : Option String :=
  let shown := match dialect with
    | .shell => arg
    | .program => quoteText arg
  if !rest.isEmpty then
    if converted then
      some (shown ++ (match dialect with
        | .shell => ": not completely converted"
        | .program => ": value not completely converted"))
    else
      some (shown ++ (match dialect with
        | .shell => ": expected numeric value"
        | .program => ": expected a numeric value"))
  else if outOfRange then some (shown ++ ": Numerical result out of range")
  else none
where
  /-- A text in the curved quotes of the installed programs. -/
  quoteText (s : String) : String := "\xe2\x80\x98" ++ s ++ "\xe2\x80\x99"

/-- The value of a character constant (an argument starting with a quote): the byte after the
quote for the shell; for the installed program the character, read as UTF-8, with a warning if
more follows. `none` if the argument is not one. -/
def characterConstant (dialect : Dialect) (arg : String) : Option (ArgReading Nat) :=
  match arg.toList with
  | q :: rest =>
    if q = '\'' || q = '"' then
      match dialect with
      | .shell => some ⟨(rest.head?.map Char.toNat).getD 0, none⟩
      | .program =>
        match rest with
        | [] => none
        | c :: more =>
          let bytes := bytesOf (String.ofList (c :: more))
          let (v, used) := match decodeOne bytes with
            | some (some ch, after) => (ch.toNat, bytes.length - after.length)
            | _ => (c.toNat, 1)
          let after := (c :: more).drop used
          some ⟨v, if after.isEmpty then none else
            some ("warning: " ++ String.ofList after ++
              ": character(s) following character constant have been ignored")⟩
    else none
  | [] => none

/-- Reads a signed integer argument. -/
def readSigned (dialect : Dialect) (arg : String) : ArgReading Int :=
  match characterConstant dialect arg with
  | some r => ⟨r.value, r.warning⟩
  | none =>
    let n := readNumeral 0 arg.toList
    let (v, range) := n.signed
    ⟨v, readingWarning dialect arg n.converted n.rest range⟩

/-- Reads an unsigned integer argument. -/
def readUnsigned (dialect : Dialect) (arg : String) : ArgReading Nat :=
  match characterConstant dialect arg with
  | some r => ⟨r.value, r.warning⟩
  | none =>
    let n := readNumeral 0 arg.toList
    let (v, range) := n.unsigned
    ⟨v, readingWarning dialect arg n.converted n.rest range⟩

/-- Reads a floating-point argument. -/
def readFloatArg (dialect : Dialect) (arg : String) : ArgReading FloatValue :=
  match characterConstant dialect arg with
  | some r => ⟨.finite (Binary64.ofNat r.value), r.warning⟩
  | none =>
    let f := readFloat arg.toList
    ⟨f.value, readingWarning dialect arg f.converted f.rest f.outOfRange⟩

/-- The state of writing a format: arguments left, what was written, and whether a warning was
given. -/
structure Writing where
  args : List String
  used : Nat := 0
  emits : List Emit := []
  warned : Bool := false
  deriving Repr, Inhabited

/-- How writing the format ended. -/
inductive Halt where
  /-- The format was written to its end. -/
  | done
  /-- `\c` stopped all output. -/
  | cut
  /-- A fault ended the command. -/
  | fault (message : String)
  deriving DecidableEq, Repr, Inhabited

namespace Writing

/-- Writes bytes. -/
def put (w : Writing) (s : String) : Writing := { w with emits := w.emits ++ [.out s] }

/-- Notes a warning, if there is one. -/
def note (w : Writing) : Option String → Writing
  | some m => { w with emits := w.emits ++ [.warn m], warned := true }
  | none => w

/-- Takes the next argument, if any. -/
def next (w : Writing) : Option String × Writing :=
  match w.args with
  | a :: rest => (some a, { w with args := rest, used := w.used + 1 })
  | [] => (none, w)

end Writing

/-- Takes a width or precision from the next argument: the number and the writing afterwards,
or a fault of the installed program. The shell keeps only the low 32 bits. -/
def amountArg (dialect : Dialect) (isWidth : Bool) (w : Writing) : Except String (Int × Writing) :=
  let (a, w) := w.next
  match a with
  | none => .ok (0, w)
  | some text =>
    let r := readSigned dialect text
    let w := w.note r.warning
    match dialect with
    | .shell =>
      let low := r.value % 2 ^ (32 : Nat)
      .ok (if low ≥ 2 ^ (31 : Nat) then low - 2 ^ (32 : Nat) else low, w)
    | .program =>
      if isWidth then
        if -2147483648 ≤ r.value && r.value ≤ 2147483647 then .ok (r.value, w)
        else .error ("invalid field width: " ++ readingWarning.quoteText text)
      else
        if r.value < 0 then .ok (-1, w)
        else if r.value ≤ 2147483647 then .ok (r.value, w)
        else .error ("invalid precision: " ++ readingWarning.quoteText text)

/-- A text quoted so that a shell reads it back, as `%q` writes it. -/
def shellQuoted (s : String) : String :=
  let safe (c : Char) : Bool := c.isAlphanum || "%+,-./:=@_^".contains c
  if s.isEmpty then "''"
  else if s.all safe then s
  else "'" ++ "'\\''".intercalate (s.splitOn "'") ++ "'"

/-- Writes one conversion. -/
def writeConversion (dialect : Dialect) (w : Writing) (flags : List Char)
    (width precision : Option Amount) (letter : Char) : Except String (Writing × Bool) := do
  let d : Directive := flags.foldl Directive.withFlag {}
  let (d, w) ← match width with
    | some .fromArg => do
      let (n, w) ← amountArg dialect true w
      pure (d.withWidthArg n, w)
    | some (.fixed n) => pure ({ d with width := n }, w)
    | none => pure (d, w)
  let (d, w) ← match precision with
    | some .fromArg => do
      let (n, w) ← amountArg dialect false w
      pure (d.withPrecisionArg n, w)
    | some (.fixed n) => pure ({ d with precision := some n }, w)
    | none => pure (d, w)
  let (arg, w) := w.next
  let text := arg.getD ""
  match letter with
  | 'b' =>
    match dialect with
    | .shell =>
      let (s, cut) := shellEscapedText (text.length + 1) text.toList
      return (w.put (d.text s), cut)
    | .program =>
      let (s, cut) ← programEscapedText (text.length + 1) text.toList
      return (w.put s, cut)
  | 'q' => return (if arg.isSome then w.put (shellQuoted text) else w, false)
  | 'c' => return (w.put (d.char (text.toList.head?.getD '\x00')), false)
  | 's' => return (w.put (d.text text), false)
  | 'd' | 'i' =>
    let r := readSigned dialect text
    return ((w.note r.warning).put (d.signed r.value), false)
  | 'o' | 'u' | 'x' | 'X' =>
    let r := readUnsigned dialect text
    return ((w.note r.warning).put (d.unsigned letter r.value), false)
  | _ =>
    let r := readFloatArg dialect text
    return ((w.note r.warning).put (d.float letter r.value), false)

/-- Writes the pieces of a format once. -/
def writePieces (dialect : Dialect) : List Piece → Writing → Writing × Halt
  | [], w => (w, .done)
  | .text s :: rest, w => writePieces dialect rest (w.put s)
  | .cut :: _, w => (w, .cut)
  | .fault m :: _, w => (w, .fault m)
  | .conv _ flags width precision letter :: rest, w =>
    match writeConversion dialect w flags width precision letter with
    | .ok (w', false) => writePieces dialect rest w'
    | .ok (w', true) => (w', .cut)
    | .error m => (w, .fault m)

/-- Writes a format with its arguments, using the format again while arguments are left and
the last round used some: what was written and how it ended. -/
def runFormat (dialect : Dialect) (format : String) (args : List String) : Writing × Halt :=
  let pieces := readFormat dialect (format.length + 1) format.toList
  let rec rounds : Nat → Writing → Writing × Halt
    | 0, w => (w, .done)
    | fuel + 1, w =>
      let before := w.used
      match writePieces dialect pieces w with
      | (w', .done) =>
        if w'.used > before && !w'.args.isEmpty then rounds fuel w' else (w', .done)
      | other => other
  rounds (args.length + 1) { args := args }

/-- The outcome of a `printf` command: what it writes, in order, and its exit status. -/
structure PrintfOutcome where
  emits : List Emit
  status : Nat
  deriving Repr, Inhabited

/-- The shell's `printf` with a format and arguments. A fault ends it with status 2. -/
def shellPrintf (format : String) (args : List String) : PrintfOutcome :=
  let (w, halt) := runFormat .shell format args
  match halt with
  | .fault m => ⟨w.emits ++ [.warn m], 2⟩
  | _ => ⟨w.emits, if w.warned then 1 else 0⟩

/-- The installed `printf` program with its operands: a fault ends it with status 1, `\c` with
status 0; arguments the format never used draw a warning. -/
def programPrintf (operands : List String) : PrintfOutcome :=
  let operands := match operands with
    | "--" :: rest => rest
    | rest => rest
  match operands with
  | [] => ⟨[.warn "missing operand", .line "Try 'printf --help' for more information."], 1⟩
  | format :: args =>
    let (w, halt) := runFormat .program format args
    match halt with
    | .fault m => ⟨w.emits ++ [.warn m], 1⟩
    | .cut => ⟨w.emits, 0⟩
    | .done =>
      let extra := match w.args with
        | a :: _ => [Emit.warn ("warning: ignoring excess arguments, starting with " ++
            readingWarning.quoteText a)]
        | [] => []
      ⟨w.emits ++ extra, if w.warned then 1 else 0⟩

end CrashTest.Text
