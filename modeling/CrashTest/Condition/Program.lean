import CrashTest.Condition.Basic
import CrashTest.Text.Numeral
/-!
The installed `test` program, also installed as `[`.

Up to four operands are settled by their number, as the standard prescribes: none is false; one
is true when it is not empty; two are `! x` or a unary question; three are a binary comparison,
`! x y`, `( x )`, or an expression joined by `-a` or `-o`; four are `! x y z` or `( x y )`.
Longer lists, and what the shapes above leave over, are read as an expression: alternatives
(`-o`), conjunctions (`-a`), any number of `!`, and terms: parenthesised expressions, binary
comparisons (also when the left side is `-l text`, meaning its length), unary questions, and
lone texts.

Integers may have blanks around them and a sign; they are compared exactly, whatever their size.
Errors are reported with the operand in curved quotes and end the program with status 2.
-/
namespace CrashTest.Condition

open CrashTest.Text

/-- An operand in the curved quotes of the installed programs. -/
def curved (s : String) : String := "\xe2\x80\x98" ++ s ++ "\xe2\x80\x99"

/-- Whether a word is one of the program's binary operators. -/
def isProgramBinary (w : String) : Bool :=
  ["=", "!=", "==", "-nt", "-ot", "-ef", "-eq", "-ne", "-lt", "-le", "-gt", "-ge", "<", ">"].contains w

/-- Reads an integer operand: optional blanks, a sign, digits, optional blanks. -/
def programInteger (w : String) : Except String Int :=
  let cs := w.toList.dropWhile (fun c => c = ' ' || c = '\t')
  let (neg, cs) := match cs with
    | '+' :: r => (false, r)
    | '-' :: r => (true, r)
    | r => (false, r)
  let digits := cs.takeWhile Char.isDigit
  let rest := (cs.drop digits.length).dropWhile (fun c => c = ' ' || c = '\t')
  if digits.isEmpty || !rest.isEmpty then .error ("invalid integer " ++ curved w)
  else
    let v : Int := digits.foldl (fun acc c => acc * 10 + (c.toNat - '0'.toNat)) 0
    .ok (if neg then -v else v)

/-- The state of reading: the operands and the position. -/
abbrev ProgramTestM := StateT Nat (Except String)

/-- The operand at a position, or the empty text past the end. -/
def wordAt (ws : Array String) (i : Nat) : String := ws[i]?.getD ""

/-- The error of an expression that stops too early. -/
def beyond (ws : Array String) : String :=
  "missing argument after " ++ curved (ws[ws.size - 1]?.getD "")

/-- Moves one operand on; with `strict`, running past the end is an error. -/
def advance (ws : Array String) (strict : Bool) : ProgramTestM Unit := do
  let i ← get
  set (i + 1)
  if strict && i + 1 ≥ ws.size then throw (beyond ws)

/-- A unary question at the position. -/
def programUnary (view : FileView) (ws : Array String) : ProgramTestM Bool := do
  let i ← get
  let op := wordAt ws i
  let letter := (op.toList.drop 1).head?.getD ' '
  if !("efdrwxsSOGcbpugkLhNtnz".contains letter) then
    throw (curved op ++ ": unary operator expected")
  advance ws true
  set (i + 2)
  let arg := wordAt ws (i + 1)
  match letter with
  | 'n' => return !arg.isEmpty
  | 'z' => return arg.isEmpty
  | 't' =>
    let _ ← StateT.lift (programInteger arg)
    return false
  | 'N' => return false
  | c => return fileQuestion view c arg

/-- A binary comparison at the position; with `leftLength`, the left side is `-l text`. -/
def programBinary (view : FileView) (ws : Array String) (leftLength : Bool) :
    ProgramTestM Bool := do
  if leftLength then advance ws false
  let i ← get
  let op := i + 1
  let rightLength := op + 2 < ws.size && wordAt ws (op + 1) == "-l"
  if rightLength then advance ws false
  let i ← get
  let opText := wordAt ws op
  let left := wordAt ws (op - 1)
  let right := wordAt ws (op + 1)
  let rightArg := if rightLength then wordAt ws (op + 2) else right
  let intOf (w : String) (isLen : Bool) : Except String Int :=
    if isLen then .ok w.length else programInteger w
  let finish (v : Bool) : ProgramTestM Bool := do
    set (i + 3)
    return v
  match opText with
  | "-eq" | "-ne" | "-lt" | "-le" | "-gt" | "-ge" =>
    let l ← StateT.lift (intOf left leftLength)
    let r ← StateT.lift (intOf rightArg rightLength)
    finish (match opText with
      | "-eq" => l == r
      | "-ne" => l != r
      | "-lt" => decide (l < r)
      | "-le" => decide (l ≤ r)
      | "-gt" => decide (l > r)
      | _ => decide (l ≥ r))
  | "-nt" | "-ot" | "-ef" =>
    if leftLength || rightLength then throw (opText ++ " does not accept -l")
    match opText with
    | "-ef" => finish (sameFile view left right)
    | "-nt" => finish ((view.stat left).isSome && (view.stat right).isNone)
    | _ => finish ((view.stat right).isSome && (view.stat left).isNone)
  | "=" | "==" => finish (wordAt ws i == wordAt ws (i + 2))
  | "!=" => finish (wordAt ws i != wordAt ws (i + 2))
  | "<" => finish (decide (wordAt ws i < wordAt ws (i + 2)))
  | _ => finish (decide (wordAt ws (i + 2) < wordAt ws i))

mutual

/-- The shapes settled by the number of operands, `n` of them from the position. -/
def programShapes (view : FileView) (ws : Array String) : Nat → Nat → ProgramTestM Bool
  | 0, _ => throw "expression too deep"
  | fuel + 1, n => do
    let i ← get
    match n with
    | 1 => set (i + 1); return !(wordAt ws i).isEmpty
    | 2 =>
      if wordAt ws i == "!" then
        set (i + 2)
        return (wordAt ws (i + 1)).isEmpty
      else if (wordAt ws i).length == 2 && (wordAt ws i).startsWith "-" then programUnary view ws
      else throw (curved (wordAt ws i) ++ ": unary operator expected")
    | 3 =>
      if isProgramBinary (wordAt ws (i + 1)) then programBinary view ws false
      else if wordAt ws i == "!" then
        advance ws true
        let v ← programShapes view ws fuel 2
        return !v
      else if wordAt ws i == "(" && wordAt ws (i + 2) == ")" then
        set (i + 2)
        let v := !(wordAt ws (i + 1)).isEmpty
        set (i + 3)
        return v
      else if wordAt ws (i + 1) == "-a" || wordAt ws (i + 1) == "-o" then programOr view ws fuel
      else throw (curved (wordAt ws (i + 1)) ++ ": binary operator expected")
    | 4 =>
      if wordAt ws i == "!" then
        advance ws true
        let v ← programShapes view ws fuel 3
        return !v
      else if wordAt ws i == "(" && wordAt ws (i + 3) == ")" then
        set (i + 1)
        let v ← programShapes view ws fuel 2
        let j ← get
        set (j + 1)
        return v
      else programOr view ws fuel
    | _ =>
      if i ≥ ws.size then throw (beyond ws)
      programOr view ws fuel

/-- Alternatives joined by `-o`. -/
def programOr (view : FileView) (ws : Array String) : Nat → ProgramTestM Bool
  | 0 => throw "expression too deep"
  | fuel + 1 => do
    let v ← programAnd view ws fuel
    let i ← get
    if i < ws.size && wordAt ws i == "-o" then
      set (i + 1)
      let rest ← programOr view ws fuel
      return v || rest
    else return v

/-- Conjunctions joined by `-a`. -/
def programAnd (view : FileView) (ws : Array String) : Nat → ProgramTestM Bool
  | 0 => throw "expression too deep"
  | fuel + 1 => do
    let v ← programTerm view ws fuel false
    let i ← get
    if i < ws.size && wordAt ws i == "-a" then
      set (i + 1)
      let rest ← programAnd view ws fuel
      return v && rest
    else return v

/-- A term, after `negated` leading `!`s. -/
def programTerm (view : FileView) (ws : Array String) : Nat → Bool → ProgramTestM Bool
  | 0, _ => throw "expression too deep"
  | fuel + 1, negated => do
    let i ← get
    if i < ws.size && wordAt ws i == "!" then
      advance ws true
      programTerm view ws fuel (!negated)
    else
      if i ≥ ws.size then throw (beyond ws)
      let w := wordAt ws i
      let v ← if w == "(" then do
          advance ws true
          let i ← get
          let inner := ((List.range 4).find? fun k =>
            i + k + 1 ≥ ws.size || wordAt ws (i + k + 1) == ")").map (· + 1)
          let n := match inner with
            | some k => if i + k ≥ ws.size then ws.size - i else k
            | none => ws.size - i
          let v ← programShapes view ws fuel n
          let j ← get
          if j ≥ ws.size then throw (curved ")" ++ " expected")
          else if wordAt ws j != ")" then
            throw (curved ")" ++ " expected, found " ++ curved (wordAt ws j))
          set (j + 1)
          pure v
        else if ws.size - i ≥ 4 && w == "-l" && isProgramBinary (wordAt ws (i + 2)) then
          programBinary view ws true
        else if ws.size - i ≥ 3 && isProgramBinary (wordAt ws (i + 1)) then
          programBinary view ws false
        else if w.length == 2 && w.startsWith "-" then programUnary view ws
        else do
          set (i + 1)
          pure (!w.isEmpty)
      return v != negated

end

/-- The installed `test` with its operands: the answer, or the error that ends it. -/
def programTest (view : FileView) (operands : List String) : Except String Bool :=
  let ws := operands.toArray
  if ws.size = 0 then .ok false
  else
    match (programShapes view ws (4 * ws.size + 8) ws.size).run 0 with
    | .error e => .error e
    | .ok (v, i) =>
      if i != ws.size then .error ("extra argument " ++ curved (wordAt ws i)) else .ok v

/-- The installed `[`: like `test`, with a closing `]` required as the last operand. -/
def programBracket (view : FileView) (operands : List String) : Except String Bool :=
  if operands.getLast? == some "]" then programTest view operands.dropLast
  else .error ("missing " ++ curved "]")

end CrashTest.Condition
