import CrashTest.Json.Node
/-!
Reading JSON text into a `Node`.

The grammar is RFC 8259 with these rules, which fix every error and its place:

* blanks are space, tab, line feed and carriage return;
* a number is read digit by digit into a 64-bit significand; a whole number that fits is kept
  whole, a negative one down to `-2^63`; otherwise the significand becomes a double and is scaled
  by one multiplication or division by a power of ten (powers beyond `10^308` go `10^308` at a
  time), and a result beyond the doubles is "number out of range";
* a string may not hold a raw control character, and `\u` escapes must pair their surrogates;
* lists and objects nest at most 127 deep.

A fault found where a value should start is reported one byte into the offending character; a
fault inside a value, where the reader stood after taking the character that broke it.
-/
-- Powers of numbers are the core ones, also where Mathlib's monoid powers are in scope.
attribute [local instance (high)] instPowNat

namespace CrashTest.Json

/-- The characters still to read and the point before them. -/
structure Cursor where
  rest : List Char
  pos : Pos
  deriving Repr, Inhabited

namespace Cursor

/-- A cursor at the start of a text. -/
def ofString (s : String) : Cursor := ⟨s.toList, Pos.origin⟩

/-- The next character, if any. -/
def peek? (c : Cursor) : Option Char := c.rest.head?

/-- The cursor after the next character. -/
def bump (c : Cursor) : Cursor :=
  match c.rest with
  | [] => c
  | x :: r => ⟨r, c.pos.advance x⟩

/-- Where a fault at the next character is reported: one byte into it, or the end of the text. -/
def peekPos (c : Cursor) : Pos :=
  match c.rest with
  | [] => c.pos
  | x :: _ => c.pos.peek x

/-- Whether a character is a JSON blank. -/
def isBlank (ch : Char) : Bool := ch = ' ' || ch = '\n' || ch = '\t' || ch = '\r'

/-- Skips blanks from the given characters. -/
def skipFrom : List Char → Pos → Cursor
  | [], p => ⟨[], p⟩
  | x :: r, p => if isBlank x then skipFrom r (p.advance x) else ⟨x :: r, p⟩

/-- The cursor after any blanks. -/
def skipBlanks (c : Cursor) : Cursor := skipFrom c.rest c.pos

/-- The cursor at the end of the text. -/
def finish (c : Cursor) : Cursor := ⟨[], c.rest.foldl Pos.advance c.pos⟩

end Cursor

/-- A fault at a point. -/
def fault (f : Fault) (p : Pos) : SyntaxError := ⟨f, p⟩

/-- Reads the rest of a literal word such as `ull` after `n`. -/
def readWord : List Char → Cursor → Except SyntaxError Cursor
  | [], c => .ok c
  | w :: ws, c =>
    match c.rest with
    | [] => .error (fault .eofValue c.pos)
    | x :: _ => if x = w then readWord ws c.bump else .error (fault .expectedIdent c.bump.pos)

/-- The value of a hexadecimal digit. -/
def hexValue? (ch : Char) : Option Nat :=
  if '0' ≤ ch ∧ ch ≤ '9' then some (ch.toNat - 48)
  else if 'a' ≤ ch ∧ ch ≤ 'f' then some (ch.toNat - 87)
  else if 'A' ≤ ch ∧ ch ≤ 'F' then some (ch.toNat - 55)
  else none

/-- Takes characters until `need` bytes are taken; `none` when the text ends first. -/
def takeBytes (need : Nat) (acc : List Char) : List Char → Pos → Option (List Char × Cursor)
  | rest, p =>
    if need = 0 then some (acc.reverse, ⟨rest, p⟩)
    else
      match rest with
      | [] => none
      | x :: r => takeBytes (need - min need x.utf8Size) (x :: acc) r (p.advance x)

/-- Reads the four hexadecimal digits of a `\u` escape. -/
def readHex4 (c : Cursor) : Except SyntaxError (Nat × Cursor) :=
  match takeBytes 4 [] c.rest c.pos with
  | none => .error (fault .eofString c.finish.pos)
  | some ([a, b, d, e], c') =>
    match hexValue? a, hexValue? b, hexValue? d, hexValue? e with
    | some a, some b, some d, some e => .ok (((a * 16 + b) * 16 + d) * 16 + e, c')
    | _, _, _, _ => .error (fault .invalidEscape c'.pos)
  | some (_, c') => .error (fault .invalidEscape c'.pos)

/-- Reads what follows `\u`: one code unit, or a surrogate pair written as two escapes. -/
def readUnicodeEscape (c : Cursor) : Except SyntaxError (Char × Cursor) := do
  let (n, c) ← readHex4 c
  if 0xDC00 ≤ n ∧ n ≤ 0xDFFF then throw (fault .loneLeadingSurrogate c.pos)
  if n < 0xD800 ∨ 0xDBFF < n then return (Char.ofNat n, c)
  match c.rest with
  | [] => throw (fault .eofString c.pos)
  | '\\' :: _ =>
    let c := c.bump
    match c.rest with
    | [] => throw (fault .eofString c.pos)
    | 'u' :: _ =>
      let (n2, c) ← readHex4 c.bump
      if n2 < 0xDC00 ∨ 0xDFFF < n2 then throw (fault .loneLeadingSurrogate c.pos)
      return (Char.ofNat (((n - 0xD800) * 0x400 + (n2 - 0xDC00)) + 0x10000), c)
    | _ => throw (fault .unexpectedEndOfHexEscape c.bump.pos)
  | _ => throw (fault .unexpectedEndOfHexEscape c.bump.pos)

/-- Reads one escape after its backslash. -/
def readEscape (c : Cursor) : Except SyntaxError (Char × Cursor) :=
  match c.rest with
  | [] => .error (fault .eofString c.pos)
  | x :: _ =>
    let c' := c.bump
    match x with
    | '"' => .ok ('"', c')
    | '\\' => .ok ('\\', c')
    | '/' => .ok ('/', c')
    | 'b' => .ok ('\x08', c')
    | 'f' => .ok ('\x0c', c')
    | 'n' => .ok ('\n', c')
    | 'r' => .ok ('\r', c')
    | 't' => .ok ('\t', c')
    | 'u' => readUnicodeEscape c'
    | _ => .error (fault .invalidEscape c'.pos)

/-- Reads the characters of a string after its opening quote, through its closing quote. -/
def readStringBody : Nat → List Char → Cursor → Except SyntaxError (String × Cursor)
  | 0, _, c => .error (fault .eofString c.finish.pos)
  | fuel + 1, acc, c =>
    match c.rest with
    | [] => .error (fault .eofString c.pos)
    | '"' :: _ => .ok (String.ofList acc.reverse, c.bump)
    | '\\' :: _ => do
      let (ch, c') ← readEscape c.bump
      readStringBody fuel (ch :: acc) c'
    | x :: _ =>
      if x.toNat < 0x20 then .error (fault .controlCharacter c.bump.pos)
      else readStringBody fuel (x :: acc) c.bump

/-- Reads a string whose opening quote is the next character. -/
def readString (c : Cursor) : Except SyntaxError (String × Cursor) :=
  readStringBody (c.rest.length + 1) [] c.bump

/-- Whether appending the digit `d` to the significand `sig` passes `2^64 - 1`. -/
def significandOverflows (sig d : Nat) : Bool :=
  1844674407370955161 < sig || (sig = 1844674407370955161 && 5 < d)

/-- Whether appending the digit `d` to the exponent `e` passes `2^31 - 1`. -/
def exponentOverflows (e d : Nat) : Bool :=
  214748364 < e || (e = 214748364 && 7 < d)

/-- The digit a character stands for. -/
def digit? (ch : Char) : Option Nat := if ch.isDigit then some (ch.toNat - 48) else none

/-- The double `sig * 10^exp` as the reader computes it: the significand rounded to a double,
then one rounded multiplication or division by the double nearest to a power of ten, dividing by
`10^308` first while the power is beyond the table; `none` when the result passes the doubles. -/
def scaleSignificand (positive : Bool) (sig : Nat) (exp : Int) : Option Binary64 :=
  let rec go : Nat → Binary64 → Int → Option Binary64
    | 0, f, _ => some f
    | fuel + 1, f, e =>
      if e.natAbs ≤ 308 then
        if 0 ≤ e then Binary64.mul f (Binary64.pow10 e.toNat)
        else Binary64.div f (Binary64.pow10 e.natAbs)
      else if f.isZero then some f
      else if 0 ≤ e then none
      else
        match Binary64.div f (Binary64.pow10 308) with
        | some f' => go fuel f' (e + 308)
        | none => none
  (go 8 (Binary64.ofNat sig) exp).map fun f => if positive then f else f.negate

/-- The double for a significand and exponent, or "number out of range" at the cursor. -/
def finishFloat (positive : Bool) (sig : Nat) (exp : Int) (c : Cursor) :
    Except SyntaxError (Number × Cursor) :=
  match scaleSignificand positive sig exp with
  | some f => .ok (.float f, c)
  | none => .error (fault .numberOutOfRange c.pos)

/-- Skips digits. -/
def skipDigits : Nat → Cursor → Cursor
  | 0, c => c
  | fuel + 1, c =>
    match c.rest with
    | x :: _ => if x.isDigit then skipDigits fuel c.bump else c
    | [] => c

/-- Reads the exponent digits after `e` and its sign. -/
def readExponentDigits (positive : Bool) (sig : Nat) (start : Int) (expPositive : Bool) :
    Nat → Nat → Cursor → Except SyntaxError (Number × Cursor)
  | 0, e, c => finishFloat positive sig (if expPositive then start + e else start - e) c
  | fuel + 1, e, c =>
    match c.rest.head? >>= digit? with
    | some d =>
      let c := c.bump
      if exponentOverflows e d then
        if sig ≠ 0 ∧ expPositive then .error (fault .numberOutOfRange c.pos)
        else
          let c := skipDigits c.rest.length c
          .ok (.float (if positive then Binary64.zero else Binary64.zero.negate), c)
      else readExponentDigits positive sig start expPositive fuel (e * 10 + d) c
    | none =>
      let e : Int := e
      let bound : Int := 2147483647
      let final := if expPositive then min (start + e) bound else max (start - e) (-bound - 1)
      finishFloat positive sig final c

/-- Reads an exponent whose `e` or `E` is the next character. -/
def readExponent (positive : Bool) (sig : Nat) (start : Int) (c : Cursor) :
    Except SyntaxError (Number × Cursor) :=
  let c := c.bump
  let (expPositive, c) := match c.rest with
    | '+' :: _ => (true, c.bump)
    | '-' :: _ => (false, c.bump)
    | _ => (true, c)
  match c.rest with
  | [] => .error (fault .eofValue c.pos)
  | x :: _ =>
    match digit? x with
    | some d => readExponentDigits positive sig start expPositive c.rest.length d c.bump
    | none => .error (fault .invalidNumber c.bump.pos)

/-- Goes on after a number's digits: an exponent, or the end of the number. -/
def finishDecimal (positive : Bool) (sig : Nat) (exp : Int) (c : Cursor) :
    Except SyntaxError (Number × Cursor) :=
  match c.rest with
  | x :: _ => if x = 'e' ∨ x = 'E' then readExponent positive sig exp c else finishFloat positive sig exp c
  | [] => finishFloat positive sig exp c

/-- Reads fraction digits after the point; `taken` counts them. -/
def readFraction (positive : Bool) (sig : Nat) (exp : Int) :
    Nat → Nat → Cursor → Except SyntaxError (Number × Cursor)
  | 0, _, c => finishDecimal positive sig exp c
  | fuel + 1, taken, c =>
    match c.rest.head? >>= digit? with
    | some d =>
      if significandOverflows sig d then
        finishDecimal positive sig exp (skipDigits c.rest.length c)
      else readFraction positive (sig * 10 + d) (exp - 1) fuel (taken + 1) c.bump
    | none =>
      if taken = 0 then
        match c.rest with
        | [] => .error (fault .eofValue c.peekPos)
        | _ => .error (fault .invalidNumber c.peekPos)
      else finishDecimal positive sig exp c

/-- Reads a fraction whose point is the next character. -/
def readPoint (positive : Bool) (sig : Nat) (exp : Int) (c : Cursor) :
    Except SyntaxError (Number × Cursor) :=
  readFraction positive sig exp c.rest.length 0 c.bump

/-- Reads the digits of a whole part that no longer fits: they only raise the exponent. -/
def readLongWhole (positive : Bool) (sig : Nat) : Nat → Int → Cursor → Except SyntaxError (Number × Cursor)
  | 0, exp, c => finishFloat positive sig exp c
  | fuel + 1, exp, c =>
    match c.rest with
    | x :: _ =>
      if x.isDigit then readLongWhole positive sig fuel (exp + 1) c.bump
      else if x = '.' then readPoint positive sig exp c
      else if x = 'e' ∨ x = 'E' then readExponent positive sig exp c
      else finishFloat positive sig exp c
    | [] => finishFloat positive sig exp c

/-- Ends a number after its whole part: a fraction, an exponent, or a whole number. -/
def finishWhole (positive : Bool) (sig : Nat) (c : Cursor) : Except SyntaxError (Number × Cursor) :=
  match c.rest with
  | '.' :: _ => readPoint positive sig 0 c
  | 'e' :: _ | 'E' :: _ => readExponent positive sig 0 c
  | _ =>
    if positive then .ok (.nat sig, c)
    else if sig = 0 then .ok (.float Binary64.zero.negate, c)
    else if sig ≤ 2 ^ (63 : Nat) then .ok (.neg (-(sig : Int)), c)
    else .ok (.float (Binary64.ofNat sig).negate, c)

/-- Reads whole-part digits after the first. -/
def readWhole (positive : Bool) : Nat → Nat → Cursor → Except SyntaxError (Number × Cursor)
  | 0, sig, c => finishWhole positive sig c
  | fuel + 1, sig, c =>
    match c.rest.head? >>= digit? with
    | some d =>
      if significandOverflows sig d then readLongWhole positive sig c.rest.length 0 c
      else readWhole positive fuel (sig * 10 + d) c.bump
    | none => finishWhole positive sig c

/-- Reads a number from its first digit, its sign already taken. -/
def readUnsigned (positive : Bool) (c : Cursor) : Except SyntaxError (Number × Cursor) :=
  match c.rest with
  | [] => .error (fault .eofValue c.pos)
  | x :: _ =>
    let c' := c.bump
    if x = '0' then
      match c'.rest.head? >>= digit? with
      | some _ => .error (fault .invalidNumber c'.peekPos)
      | none => finishWhole positive 0 c'
    else
      match digit? x with
      | some d => readWhole positive c'.rest.length d c'
      | none => .error (fault .invalidNumber c'.pos)

/-- Deepest nesting of lists and objects that is read. -/
def maxDepth : Nat := 127

mutual

/-- Reads one value after any blanks. `depth` counts the lists and objects around it. -/
def readValue : Nat → Nat → Cursor → Node × Cursor
  | 0, _, c => (.broken (fault .recursionLimit c.peekPos) c.peek? (some c.pos), c)
  | fuel + 1, depth, c0 =>
    let c := c0.skipBlanks
    let bad (e : SyntaxError) : Node × Cursor := (.broken e c.peek? (some c.pos), c)
    let scalar (r : Except SyntaxError (Node × Cursor)) : Node × Cursor :=
      match r with
      | .ok v => v
      | .error e => bad e
    let span (c' : Cursor) : Option Span := some ⟨c.pos, c'.pos⟩
    match c.rest with
    | [] => bad (fault .eofValue c.pos)
    | x :: _ =>
      if x = 'n' then scalar ((readWord ['u', 'l', 'l'] c.bump).map fun c' => (.null (span c'), c'))
      else if x = 't' then
        scalar ((readWord ['r', 'u', 'e'] c.bump).map fun c' => (.bool true (span c'), c'))
      else if x = 'f' then
        scalar ((readWord ['a', 'l', 's', 'e'] c.bump).map fun c' => (.bool false (span c'), c'))
      else if x = '-' then
        scalar ((readUnsigned false c.bump).map fun (n, c') => (.num n (span c'), c'))
      else if x.isDigit then
        scalar ((readUnsigned true c).map fun (n, c') => (.num n (span c'), c'))
      else if x = '"' then
        scalar ((readString c).map fun (s, c') => (.str s (span c'), c'))
      else if x = '[' then
        if maxDepth ≤ depth then bad (fault .recursionLimit c.peekPos)
        else readItems fuel (depth + 1) c.pos c.bump [] true
      else if x = '{' then
        if maxDepth ≤ depth then bad (fault .recursionLimit c.peekPos)
        else readMembers fuel (depth + 1) c.pos c.bump [] true
      else bad (fault .expectedValue c.peekPos)

/-- Reads list items after `[` or after an item; `acc` holds the items so far, newest first. -/
def readItems : Nat → Nat → Pos → Cursor → List Node → Bool → Node × Cursor
  | 0, _, start, c, acc, _ =>
    (.arr acc.reverse (.broken (fault .recursionLimit c.peekPos)) (some start), c)
  | fuel + 1, depth, start, c0, acc, first =>
    let c := c0.skipBlanks
    let stop (e : SyntaxError) : Node × Cursor := (.arr acc.reverse (.broken e) (some start), c)
    let item (here : Cursor) : Node × Cursor :=
      match readValue fuel depth here with
      | (.broken e lead p, c') => (.arr (acc.reverse ++ [.broken e lead p]) (.broken e) (some start), c')
      | (n, c') => readItems fuel depth start c' (n :: acc) false
    match c.rest with
    | [] => stop (fault .eofList c.pos)
    | ']' :: _ => (.arr acc.reverse (.closed (some c.bump.pos)) (some start), c.bump)
    | x :: _ =>
      if first then item c
      else if x = ',' then
        let c2 := c.bump.skipBlanks
        match c2.rest with
        | ']' :: _ => stop (fault .trailingComma c2.peekPos)
        | [] => stop (fault .eofValue c2.pos)
        | _ => item c2
      else stop (fault .expectedListCommaOrEnd c.peekPos)

/-- Reads object members after `{` or after a member; `acc` holds the members so far, newest
first. -/
def readMembers : Nat → Nat → Pos → Cursor → List (String × Gap × Node) → Bool → Node × Cursor
  | 0, _, start, c, acc, _ =>
    (.obj acc.reverse (.broken (fault .recursionLimit c.peekPos)) (some start), c)
  | fuel + 1, depth, start, c0, acc, first =>
    let c := c0.skipBlanks
    let stop (here : Cursor) (e : SyntaxError) : Node × Cursor :=
      (.obj acc.reverse (.broken e) (some start), here)
    let member (k : Cursor) : Node × Cursor :=
      match k.rest with
      | '"' :: _ =>
        match readString k with
        | .error e => stop k e
        | .ok (key, k') =>
          let k'' := k'.skipBlanks
          let gap (v : Cursor) : Gap :=
            let v' := v.skipBlanks
            let next := v'.peek?
            ⟨some k'.pos, some k''.pos, some (if next = some '}' then v'.bump.pos else v'.pos), next⟩
          let broken (e : SyntaxError) (lead : Option Char) (p : Option Pos) : Node × Cursor :=
            let m := (key, (⟨some k'.pos, some k''.pos, none, none⟩ : Gap), Node.broken e lead p)
            (.obj (acc.reverse ++ [m]) (.broken e) (some start), k'')
          match k''.rest with
          | ':' :: _ =>
            match readValue fuel depth k''.bump with
            | (.broken e lead p, c') =>
              let m := (key, (⟨some k'.pos, some k''.pos, none, none⟩ : Gap), Node.broken e lead p)
              (.obj (acc.reverse ++ [m]) (.broken e) (some start), c')
            | (v, c') => readMembers fuel depth start c' ((key, gap c', v) :: acc) false
          | [] => broken (fault .eofObject k''.pos) none (some k''.pos)
          | x :: _ => broken (fault .expectedColon k''.peekPos) (some x) (some k''.pos)
      | '}' :: _ => stop k (fault .trailingComma k.peekPos)
      | [] => stop k (fault .eofValue k.pos)
      | _ => stop k (fault .keyMustBeString k.peekPos)
    match c.rest with
    | [] => stop c (fault .eofObject c.pos)
    | '}' :: _ => (.obj acc.reverse (.closed (some c.bump.pos)) (some start), c.bump)
    | x :: _ =>
      if first then member c
      else if x = ',' then member c.bump.skipBlanks
      else stop c (fault .expectedObjectCommaOrEnd c.peekPos)

end

/-- Reads a whole text: the value, and the fault after it if anything but blanks follows. -/
def readDocument (text : String) : Node × Option SyntaxError :=
  let c := Cursor.ofString text
  let (n, c') := readValue (c.rest.length + 2) 0 c
  let tail := c'.skipBlanks
  match tail.rest with
  | [] => (n, none)
  | _ => (n, some (fault .trailingCharacters tail.peekPos))

end CrashTest.Json
