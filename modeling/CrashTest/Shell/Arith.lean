import CrashTest.Text.Numeral
/-!
Shell arithmetic.

An arithmetic expansion evaluates an expression over 64-bit signed integers, in one pass from
left to right. The operators are those of C without increments and the comma: unary `+ - ! ~`;
binary `* / %`, then `+ -`, `<< >>`, `< <= > >=`, `== !=`, `&`, `^`, `|`, each level binding
tighter than the next and all of them grouping from the left; then `&&`, `||`, the conditional
`?:`, and the assignments `=` and `*= /= %= += -= <<= >>= &= ^= |=`, which group from the right
and need a variable on their left.

A numeral is read as the C library reads one in base 0 (`0x1F`, `017`, `15`), clamped to the
64-bit range when it is too large; whatever follows it is the next token, so `08` is the numeral
`0` followed by the numeral `8`. A variable's value is read strictly: blanks around one numeral,
and nothing else, are allowed; an unset or empty variable is 0. Sums, differences and products
wrap around; a shift counts only the low six bits of its right side, as the processor does; and
dividing the least value by -1 traps, as it does in the processor.

The sides of `&&`, `||` and `?:` that are not taken are read but not evaluated: their variables
are not read, their assignments do not happen, and a division by zero in them is no error.
-/
-- Powers of numbers are the core ones, also where Mathlib's monoid powers are in scope.
attribute [local instance (high)] instPowNat

namespace CrashTest.Shell

open CrashTest.Text

/-- The binary operators, from the tightest. -/
inductive BinOp where
  | mul | div | rem | add | sub | shl | shr | lt | le | gt | ge | eq | ne | band | bxor | bor
  deriving DecidableEq, Repr, Inhabited

/-- How tightly an operator binds: lower binds tighter. -/
def BinOp.prec : BinOp → Nat
  | .mul | .div | .rem => 0
  | .add | .sub => 1
  | .shl | .shr => 2
  | .lt | .le | .gt | .ge => 3
  | .eq | .ne => 4
  | .band => 5
  | .bxor => 6
  | .bor => 7

/-- A precedence looser than every operator's. -/
def loosest : Nat := 8

/-- A token of an arithmetic expression. -/
inductive ArithTok where
  | num (v : Int)
  | var (name : String)
  | bin (o : BinOp)
  /-- `=` (no operator) or a compound assignment. -/
  | assign (o : Option BinOp)
  | lnot | bnot | lparen | rparen | qmark | colon | land | lor
  /-- A character that starts no token. -/
  | bad
  | eof
  deriving DecidableEq, Repr, Inhabited

/-- Wraps an integer to 64 bits, two's complement. -/
def wrap64 (i : Int) : Int := Int.bmod i (2 ^ (64 : Nat))

/-- The 64-bit pattern of an integer, as a natural number below `2^64`. -/
def bitsOf (i : Int) : Nat := (i % 2 ^ (64 : Nat)).toNat

/-- Characters that may continue a variable name. -/
def isArithNameChar (c : Char) : Bool :=
  ('a' ≤ c ∧ c ≤ 'z') || ('A' ≤ c ∧ c ≤ 'Z') || ('0' ≤ c ∧ c ≤ '9') || c = '_'

/-- Characters that may start a variable name. -/
def isArithNameStart (c : Char) : Bool :=
  ('a' ≤ c ∧ c ≤ 'z') || ('A' ≤ c ∧ c ≤ 'Z') || c = '_'

/-- An operator that becomes a compound assignment when `=` follows it. -/
def withAssign (o : BinOp) : List Char → ArithTok × List Char
  | '=' :: rest => (.assign (some o), rest)
  | rest => (.bin o, rest)

/-- Reads the next token: blanks (space, tab, line end) are skipped. -/
def lexArith : List Char → ArithTok × List Char
  | [] => (.eof, [])
  | c :: rest =>
    if c = ' ' || c = '\t' || c = '\n' then lexArith rest
    else if '0' ≤ c ∧ c ≤ '9' then
      let n := readNumeral 0 (c :: rest)
      (.num n.signed.1, n.rest)
    else if isArithNameStart c then
      (.var (String.ofList (c :: rest.takeWhile isArithNameChar)), rest.dropWhile isArithNameChar)
    else
      match c, rest with
      | '=', '=' :: r => (.bin .eq, r)
      | '=', r => (.assign none, r)
      | '>', '=' :: r => (.bin .ge, r)
      | '>', '>' :: r => withAssign .shr r
      | '>', r => (.bin .gt, r)
      | '<', '=' :: r => (.bin .le, r)
      | '<', '<' :: r => withAssign .shl r
      | '<', r => (.bin .lt, r)
      | '|', '|' :: r => (.lor, r)
      | '|', r => withAssign .bor r
      | '&', '&' :: r => (.land, r)
      | '&', r => withAssign .band r
      | '!', '=' :: r => (.bin .ne, r)
      | '!', r => (.lnot, r)
      | '(', r => (.lparen, r)
      | ')', r => (.rparen, r)
      | '*', r => withAssign .mul r
      | '/', r => withAssign .div r
      | '%', r => withAssign .rem r
      | '+', r => withAssign .add r
      | '-', r => withAssign .sub r
      | '^', r => withAssign .bxor r
      | '~', r => (.bnot, r)
      | '?', r => (.qmark, r)
      | ':', r => (.colon, r)
      | _, _ => (.bad, c :: rest)

/-- Why an expression could not be evaluated. -/
inductive ArithError where
  /-- The expression does not parse; the words say what was expected. -/
  | malformed (message : String)
  /-- A variable holds text that is not a number. -/
  | illegalNumber (text : String)
  /-- An assignment to a read-only variable. -/
  | readOnly (name : String)
  /-- The processor trapped: the least value divided by -1. -/
  | trap
  deriving DecidableEq, Repr, Inhabited

/-- The variables an expression sees: their values, and which of them are read-only. -/
structure ArithEnv where
  get : String → Option String
  readOnly : String → Bool

/-- The evaluator's state: the token at hand, the text after it, and the assignments made so
far, newest first. -/
structure ArithState where
  tok : ArithTok
  rest : List Char
  assigned : List (String × Int)
  deriving Repr, Inhabited

/-- An evaluation step. -/
abbrev ArithM := StateT ArithState (Except ArithError)

/-- Moves to the next token. -/
def nextTok : ArithM Unit :=
  modify fun st => let (t, r) := lexArith st.rest; { st with tok := t, rest := r }

/-- The token at hand. -/
def curTok : ArithM ArithTok := do return (← get).tok

/-- Fails with a syntax error. -/
def arithFail (message : String) : ArithM α := throw (.malformed message)

/-- The value of a variable, read strictly; assignments made earlier in the expression count. -/
def readVar (env : ArithEnv) (name : String) : ArithM Int := do
  match (← get).assigned.find? (·.1 == name) with
  | some (_, v) => return v
  | none =>
    let text := (env.get name).getD ""
    match strictInteger? 0 text with
    | some v => return v
    | none => throw (.illegalNumber text)

/-- Assigns a variable. -/
def writeVar (env : ArithEnv) (name : String) (v : Int) : ArithM Int := do
  if env.readOnly name then throw (.readOnly name)
  modify fun st => { st with assigned := (name, v) :: st.assigned.filter (·.1 != name) }
  return v

/-- Applies a binary operator. -/
def applyBin (o : BinOp) (a b : Int) : ArithM Int :=
  let truth (p : Bool) : Int := if p then 1 else 0
  match o with
  | .div | .rem =>
    if b = 0 then arithFail "division by zero"
    else if a = intMin ∧ b = -1 then throw .trap
    else return (if o = .div then a.tdiv b else a.tmod b)
  | .mul => return wrap64 (a * b)
  | .add => return wrap64 (a + b)
  | .sub => return wrap64 (a - b)
  | .shl => return wrap64 (a * 2 ^ (b % 64).toNat)
  | .shr => return a / 2 ^ (b % 64).toNat
  | .lt => return truth (decide (a < b))
  | .le => return truth (decide (a ≤ b))
  | .gt => return truth (decide (a > b))
  | .ge => return truth (decide (a ≥ b))
  | .eq => return truth (a == b)
  | .ne => return truth (a != b)
  | .band => return wrap64 (bitsOf a &&& bitsOf b)
  | .bxor => return wrap64 (bitsOf a ^^^ bitsOf b)
  | .bor => return wrap64 (bitsOf a ||| bitsOf b)

/-- The binary operator of a token, if it is one. -/
def binOf : ArithTok → Option BinOp
  | .bin o => some o
  | _ => none

mutual

/-- An assignment expression: a variable and an assignment operator, then an assignment
expression; otherwise a conditional expression. -/
def assignExpr (env : ArithEnv) (fuel : Nat) (noeval : Bool) : ArithM Int :=
  match fuel with
  | 0 => arithFail "expression too deep"
  | fuel + 1 => do
    let st ← get
    match st.tok with
    | .var name =>
      match lexArith st.rest with
      | (.assign o, r) =>
        let (t, r) := lexArith r
        set { st with tok := t, rest := r }
        let v ← assignExpr env fuel noeval
        if noeval then return v
        else
          match o with
          | none => writeVar env name v
          | some o => writeVar env name (← applyBin o (← readVar env name) v)
      | _ => condExpr env fuel noeval
    | _ => condExpr env fuel noeval

/-- A conditional expression `a ? b : c`, or an `||` expression. -/
def condExpr (env : ArithEnv) (fuel : Nat) (noeval : Bool) : ArithM Int :=
  match fuel with
  | 0 => arithFail "expression too deep"
  | fuel + 1 => do
    let a ← orExpr env fuel noeval
    if (← curTok) != .qmark then return a
    else
      nextTok
      let b ← assignExpr env fuel (noeval || a == 0)
      if (← curTok) != .colon then arithFail "expecting ':'"
      nextTok
      let c ← condExpr env fuel (noeval || a != 0)
      return (if a != 0 then b else c)

/-- An `||` expression. -/
def orExpr (env : ArithEnv) (fuel : Nat) (noeval : Bool) : ArithM Int :=
  match fuel with
  | 0 => arithFail "expression too deep"
  | fuel + 1 => do
    let a ← andExpr env fuel noeval
    if (← curTok) != .lor then return a
    else
      nextTok
      let b ← orExpr env fuel (noeval || a != 0)
      return (if a != 0 || b != 0 then 1 else 0)

/-- An `&&` expression. -/
def andExpr (env : ArithEnv) (fuel : Nat) (noeval : Bool) : ArithM Int :=
  match fuel with
  | 0 => arithFail "expression too deep"
  | fuel + 1 => do
    let a ← binExpr env fuel noeval
    if (← curTok) != .land then return a
    else
      nextTok
      let b ← andExpr env fuel (noeval || a == 0)
      return (if a != 0 && b != 0 then 1 else 0)

/-- A chain of binary operators over unary operands. -/
def binExpr (env : ArithEnv) (fuel : Nat) (noeval : Bool) : ArithM Int :=
  match fuel with
  | 0 => arithFail "expression too deep"
  | fuel + 1 => do
    let a ← unaryExpr env fuel noeval
    match binOf (← curTok) with
    | some o => binRest env fuel noeval a o loosest
    | none => return a

/-- Continues a chain after `a` at operator `o`, taking operators tighter than `limit`. -/
def binRest (env : ArithEnv) (fuel : Nat) (noeval : Bool) (a : Int) (o : BinOp) (limit : Nat) :
    ArithM Int :=
  match fuel with
  | 0 => arithFail "expression too deep"
  | fuel + 1 => do
    nextTok
    let b ← unaryExpr env fuel noeval
    let b ← match binOf (← curTok) with
      | some o2 => if o2.prec < o.prec then binRest env fuel noeval b o2 o.prec else pure b
      | none => pure b
    let a ← if noeval then pure b else applyBin o a b
    match binOf (← curTok) with
    | some o2 => if o2.prec < limit then binRest env fuel noeval a o2 limit else return a
    | none => return a

/-- A unary expression: a numeral, a variable, a parenthesised expression, or a unary operator
before a unary expression. -/
def unaryExpr (env : ArithEnv) (fuel : Nat) (noeval : Bool) : ArithM Int :=
  match fuel with
  | 0 => arithFail "expression too deep"
  | fuel + 1 => do
    match (← curTok) with
    | .lparen =>
      nextTok
      let v ← assignExpr env fuel noeval
      if (← curTok) != .rparen then arithFail "expecting ')'"
      nextTok
      return v
    | .num v => nextTok; return v
    | .var name =>
      nextTok
      if noeval then return 0 else readVar env name
    | .bin .add => nextTok; unaryExpr env fuel noeval
    | .bin .sub => nextTok; return wrap64 (-(← unaryExpr env fuel noeval))
    | .lnot => nextTok; return (if (← unaryExpr env fuel noeval) == 0 then 1 else 0)
    | .bnot => nextTok; return -(← unaryExpr env fuel noeval) - 1
    | _ => arithFail "expecting primary"

end

/-- Evaluates an expression: its value and the assignments it made, oldest first. -/
def evalArith (env : ArithEnv) (text : String) : Except ArithError (Int × List (String × Int)) :=
  let (t, r) := lexArith text.toList
  let run : ArithM Int := do
    let v ← assignExpr env (8 * (text.length + 2)) false
    if (← curTok) != .eof then arithFail "expecting EOF"
    return v
  match run.run ⟨t, r, []⟩ with
  | .ok (v, st) => .ok (v, st.assigned.reverse)
  | .error e => .error e

end CrashTest.Shell
