import CrashTest.Condition.Basic
import CrashTest.Text.Numeral
/-!
The shell's `test` command, also called `[`.

The operands form an expression. Alternatives (`-o`) bind loosest, then conjunctions (`-a`),
then negations (`!`), then primaries: a parenthesised expression, a unary question such as
`-f path` or `-z text`, a binary comparison such as `a = b` or `1 -lt 2`, or a lone text, true
when it is not empty.

A word that spells an operator is read as one, except that a unary operator is read as a plain
text when nothing follows it, or when the word after next is a binary operator; a `(` is a plain
text when it is the last word. Before reading, a few shapes are settled by position: three words
with a binary operator in the middle are that comparison; three or four words in parentheses lose
them; and a leading `!` is taken off, inverting the answer, and the shapes are looked at again.

Numbers are read strictly, as the shell reads them. The errors are "argument expected", "closing
paren expected", an operator's "argument expected", a word's "unexpected operator" when words are
left over, and an illegal number; each ends the command with status 2. The status is otherwise 0
for true and 1 for false; no operands at all is false.
-/
namespace CrashTest.Condition

open CrashTest.Text

/-- An operator of the shell's `test`. -/
inductive ShellOp where
  /-- A unary question: a file letter, `-z`, `-n` or `-t`. -/
  | unary (letter : Char)
  /-- A binary comparison, by its spelling. -/
  | binary (name : String)
  | not
  | and
  | or
  | lparen
  | rparen
  deriving DecidableEq, Repr, Inhabited

/-- The operator a word spells, if any. -/
def shellOp? (w : String) : Option ShellOp :=
  match w.toList with
  | ['-', c] =>
    if fileLetters.contains c || c = 'z' || c = 'n' || c = 't' then some (.unary c)
    else if c = 'a' then some .and
    else if c = 'o' then some .or
    else none
  | _ =>
    if ["=", "!=", "<", ">", "-eq", "-ne", "-ge", "-gt", "-le", "-lt", "-nt", "-ot", "-ef"].contains w
    then some (.binary w)
    else if w == "!" then some .not
    else if w == "(" then some .lparen
    else if w == ")" then some .rparen
    else none

/-- Whether an operator is a binary comparison. -/
def ShellOp.isBinary : ShellOp → Bool
  | .binary _ => true
  | _ => false

/-- A word as the expression reads it. -/
inductive ShellToken where
  | eoi
  | operand
  | op (o : ShellOp)
  deriving DecidableEq, Repr, Inhabited

/-- Reads the word at position `i` of the operands. -/
def shellLex (ws : Array String) (i : Nat) : ShellToken :=
  match ws[i]? with
  | none => .eoi
  | some w =>
    match shellOp? w with
    | some (.unary c) =>
      -- a unary operator with nothing after it, or before a binary operator, is a text
      let isText := match ws[i + 1]? with
        | none => true
        | some _ =>
          match ws[i + 2]? with
          | none => false
          | some _ => (ws[i + 1]?.bind shellOp?).any ShellOp.isBinary
      if isText then .operand else .op (.unary c)
    | some .lparen => if ws[i + 1]?.isNone then .operand else .op .lparen
    | some o => .op o
    | none => .operand

/-- Reading the expression: the operands, and the position reached. -/
abbrev ShellTestM := StateT Nat (Except String)

/-- The shell's strict reading of a number operand. -/
def shellNumber (w : String) : Except String Int :=
  match strictInteger? 10 w with
  | some v => .ok v
  | none => .error ("Illegal number: " ++ w)

/-- A binary comparison of two words. -/
def compareWords (view : FileView) (name a b : String) : Except String Bool :=
  let ints (f : Int → Int → Bool) : Except String Bool := do
    let x ← shellNumber a
    let y ← shellNumber b
    return f x y
  match name with
  | "=" => .ok (a == b)
  | "!=" => .ok (a != b)
  | "<" => .ok (decide (a < b))
  | ">" => .ok (decide (b < a))
  | "-eq" => ints (· == ·)
  | "-ne" => ints (· != ·)
  | "-ge" => ints fun x y => decide (x ≥ y)
  | "-gt" => ints fun x y => decide (x > y)
  | "-le" => ints fun x y => decide (x ≤ y)
  | "-lt" => ints fun x y => decide (x < y)
  | "-ef" => .ok (sameFile view a b)
  | _ => .ok false

/-- A unary question about a word. -/
def askWord (view : FileView) (letter : Char) (w : String) : Except String Bool :=
  match letter with
  | 'z' => .ok w.isEmpty
  | 'n' => .ok (!w.isEmpty)
  | 't' => do
    let _ ← shellNumber w
    return false
  | c => .ok (fileQuestion view c w)

mutual

/-- Alternatives: conjunctions joined by `-o`. -/
def shellOr (view : FileView) (ws : Array String) : Nat → ShellToken → ShellTestM Bool
  | 0, _ => throw "expression too deep"
  | fuel + 1, n => do
    let v ← shellAnd view ws fuel n
    let i ← get
    if shellLex ws (i + 1) == .op .or then
      set (i + 2)
      let rest ← shellOr view ws fuel (shellLex ws (i + 2))
      return v || rest
    else return v

/-- Conjunctions: negations joined by `-a`. -/
def shellAnd (view : FileView) (ws : Array String) : Nat → ShellToken → ShellTestM Bool
  | 0, _ => throw "expression too deep"
  | fuel + 1, n => do
    let v ← shellNot view ws fuel n
    let i ← get
    if shellLex ws (i + 1) == .op .and then
      set (i + 2)
      let rest ← shellAnd view ws fuel (shellLex ws (i + 2))
      return v && rest
    else return v

/-- Negations: `!` before a primary. -/
def shellNot (view : FileView) (ws : Array String) : Nat → ShellToken → ShellTestM Bool
  | 0, _ => throw "expression too deep"
  | fuel + 1, n =>
    if n == .op .not then do
      let i ← get
      set (i + 1)
      let v ← shellNot view ws fuel (shellLex ws (i + 1))
      return !v
    else shellPrimary view ws fuel n

/-- A primary. -/
def shellPrimary (view : FileView) (ws : Array String) : Nat → ShellToken → ShellTestM Bool
  | 0, _ => throw "expression too deep"
  | fuel + 1, n => do
    let i ← get
    match n with
    -- a missing expression is false
    | .eoi => return false
    | .op .lparen =>
      set (i + 1)
      if shellLex ws (i + 1) == .op .rparen then return false
      let v ← shellOr view ws fuel (shellLex ws (i + 1))
      let j ← get
      set (j + 1)
      if shellLex ws (j + 1) != .op .rparen then throw "closing paren expected"
      return v
    | .op (.unary c) =>
      set (i + 1)
      match ws[i + 1]? with
      | none => throw ((ws[i]?.getD "") ++ ": argument expected")
      | some w => StateT.lift (askWord view c w)
    | _ =>
      match shellLex ws (i + 1) with
      | .op (.binary name) =>
        let a := ws[i]?.getD ""
        set (i + 2)
        match ws[i + 2]? with
        | none => throw (name ++ ": argument expected")
        | some b => StateT.lift (compareWords view name a b)
      | _ => return !(ws[i]?.getD "").isEmpty

end

/-- The error of words left over after the expression. -/
def leftOver (w : String) : String :=
  if w.isEmpty then "unexpected operator" else w ++ ": unexpected operator"

/-- Evaluates operands after the settling by position: `inverted` when a leading `!` was taken
off. `fuel` bounds the rounds of settling. -/
def shellTestFrom (view : FileView) (inverted : Bool) : Nat → List String → Except String Bool
  | 0, _ => .ok false
  | fuel + 1, ws =>
    let count := ws.length
    if count = 0 then .ok inverted
    else
      let arr := ws.toArray
      let binaryMiddle := count = 3 && ((ws[1]?.bind shellOp?).any ShellOp.isBinary)
      let run (arr : Array String) (start : ShellToken) : Except String Bool :=
        match (shellOr view arr (arr.size * 4 + 8) start).run 0 with
        | .error e => .error e
        | .ok (v, i) =>
          match arr[i]?, arr[i + 1]? with
          | some w, some _ => .error (leftOver w)
          | _, _ => .ok (v != inverted)
      if binaryMiddle then run arr .operand
      else if (count = 3 || count = 4) && ws.head? == some "(" && ws.getLast? == some ")" then
        let inner := (ws.drop 1).dropLast.toArray
        run inner (shellLex inner 0)
      else if (count = 3 || count = 4) && ws.head? == some "!" then
        shellTestFrom view (!inverted) fuel (ws.drop 1)
      else run arr (shellLex arr 0)

/-- The shell's `test` with its operands: the answer, or the error that ends it. -/
def shellTest (view : FileView) (operands : List String) : Except String Bool :=
  shellTestFrom view false (operands.length + 1) operands

/-- The shell's `[`: like `test`, with a closing `]` required as the last operand. -/
def shellBracket (view : FileView) (operands : List String) : Except String Bool :=
  if operands.getLast? == some "]" then shellTest view operands.dropLast
  else .error "missing ]"

end CrashTest.Condition
