import CrashTest.Utility.Basic
/-!
`expr`: evaluates an expression given as separate operands and writes its value.

From loosest to tightest the operators are `|`, `&`, the comparisons `< <= = == != >= >`, `+`
and `-`, `*`, `/` and `%`, and `:`, which matches a basic regular expression at the start of a
text. `match`, `substr`, `index`, `length` and `+` (which takes the next operand as a plain text)
work on what follows them, and parentheses group.

A value is an integer when its text is an optional minus sign and digits. Arithmetic needs
integers; comparisons compare integers as numbers and anything else as text. The status is 0 when
the value is neither empty nor zero, 1 when it is, 2 for a malformed expression and 3 for an
error while computing it.
-/
namespace CrashTest.Utility

open CrashTest.Os CrashTest.Text

/-- A value of `expr`: an integer or a text. -/
inductive ExprValue where
  | int (n : Int)
  | text (s : String)
  deriving DecidableEq, Repr, Inhabited

/-- Whether a text is written as an integer: an optional minus sign and at least one digit. -/
def looksIntegral (s : String) : Bool :=
  let cs := match s.toList with
    | '-' :: rest => rest
    | rest => rest
  !cs.isEmpty && cs.all Char.isDigit

namespace ExprValue

/-- The text of a value. -/
def toText : ExprValue → String
  | .int n => toString n
  | .text s => s

/-- The integer a value stands for, if any. -/
def toInt? : ExprValue → Option Int
  | .int n => some n
  | .text s => if looksIntegral s then s.toInt? else none

/-- Whether a value counts as false: empty, or zero however it is written. -/
def isNull : ExprValue → Bool
  | .int n => n == 0
  | .text s =>
    let cs := match s.toList with
      | '-' :: rest => rest
      | rest => rest
    s.isEmpty || (!cs.isEmpty && cs.all (· = '0'))

end ExprValue

/-- Why an expression has no value: a malformed expression (status 2) or an error while
computing it (status 3). -/
inductive ExprError where
  | invalid (message : String)
  | failure (message : String)
  deriving Repr, Inhabited

/-- One element of a basic regular expression. -/
inductive PatternAtom where
  | char (c : Char)
  | any
  /-- A bracket expression: the characters and ranges it lists, and whether it is negated. -/
  | set (negated : Bool) (members : List (Char × Char))
  /-- A group; the first one's match is what `:` returns. -/
  | group (index : Nat) (body : List (PatternAtom × Nat × Option Nat))
  /-- The end of the text. -/
  | finish
  deriving Repr, Inhabited

/-- The ranges of a character class name. -/
def classRanges (name : String) : List (Char × Char) :=
  match name with
  | "alpha" => [('a', 'z'), ('A', 'Z')]
  | "digit" => [('0', '9')]
  | "alnum" => [('a', 'z'), ('A', 'Z'), ('0', '9')]
  | "upper" => [('A', 'Z')]
  | "lower" => [('a', 'z')]
  | "space" => [(' ', ' '), ('\t', '\r')]
  | "blank" => [(' ', ' '), ('\t', '\t')]
  | "punct" => [('!', '/'), (':', '@'), ('[', '`'), ('{', '~')]
  | "xdigit" => [('0', '9'), ('a', 'f'), ('A', 'F')]
  | "print" => [(' ', '~')]
  | "graph" => [('!', '~')]
  | "cntrl" => [('\x00', '\x1f'), ('\x7f', '\x7f')]
  | _ => []

/-- Reads the inside of a bracket expression after `[` (and `^`): its ranges and the rest of the
pattern after `]`. -/
def readBracket : Nat → List Char → Bool → List (Char × Char) → Option (List (Char × Char) × List Char)
  | 0, _, _, _ => none
  | _, [], _, _ => none
  | fuel + 1, c :: rest, first, acc =>
    if c = ']' && !first then some (acc.reverse, rest)
    else if c = '[' && rest.head? == some ':' then
      let name := (rest.drop 1).takeWhile (· ≠ ':')
      let after := (rest.drop 1).drop name.length
      match after with
      | ':' :: ']' :: more => readBracket fuel more false ((classRanges (String.ofList name)).reverse ++ acc)
      | _ => readBracket fuel rest false ((c, c) :: acc)
    else
      match rest with
      | '-' :: d :: more => if d = ']' then readBracket fuel rest false ((c, c) :: acc)
          else readBracket fuel more false ((c, d) :: acc)
      | _ => readBracket fuel rest false ((c, c) :: acc)

/-- Reads an interval `m`, `m,` or `m,n` up to its closing `\}`. -/
def readInterval (cs : List Char) : Option (Nat × Option Nat × List Char) :=
  let lo := cs.takeWhile Char.isDigit
  let rest := cs.drop lo.length
  let loN := (String.ofList lo).toNat?.getD 0
  match rest with
  | '\\' :: '}' :: more => if lo.isEmpty then none else some (loN, some loN, more)
  | ',' :: more =>
    let hi := more.takeWhile Char.isDigit
    match more.drop hi.length with
    | '\\' :: '}' :: after =>
      if hi.isEmpty then some (loN, none, after) else some (loN, (String.ofList hi).toNat?, after)
    | _ => none
  | _ => none

/-- Reads a basic regular expression up to the end or to a closing `\)`: the elements with their
repetition bounds, the rest of the pattern, and the next group number. -/
def readPattern : Nat → List Char → Nat → Bool → List (PatternAtom × Nat × Option Nat) →
    Except String (List (PatternAtom × Nat × Option Nat) × List Char × Nat)
  | 0, _, _, _, _ => .error "Regular expression too big"
  | _, [], groups, _, acc => .ok (acc.reverse, [], groups)
  | fuel + 1, cs, groups, atStart, acc =>
    -- a repetition applies to the element before it
    let repeated (lo : Nat) (hi : Option Nat) (rest : List Char) :
        Except String (List (PatternAtom × Nat × Option Nat) × List Char × Nat) :=
      match acc with
      | (a, _, _) :: more => readPattern fuel rest groups false ((a, lo, hi) :: more)
      | [] => readPattern fuel rest groups false ((.char '*', 1, some 1) :: acc)
    match cs with
    | '\\' :: ')' :: rest => .ok (acc.reverse, '\\' :: ')' :: rest, groups)
    | '\\' :: '(' :: rest =>
      match readPattern fuel rest (groups + 1) true [] with
      | .ok (body, '\\' :: ')' :: after, g) =>
        readPattern fuel after g false ((.group (groups + 1) body, 1, some 1) :: acc)
      | .ok _ => .error "Unmatched ( or \\("
      | .error e => .error e
    | '*' :: rest =>
      if atStart then readPattern fuel rest groups false ((.char '*', 1, some 1) :: acc)
      else repeated 0 none rest
    | '\\' :: '{' :: rest =>
      match readInterval rest with
      | some (lo, hi, after) => if acc.isEmpty then .error "Invalid preceding regular expression" else repeated lo hi after
      | none => .error "Invalid content of \\\x7b\\\x7d"
    | '\\' :: '+' :: rest => if acc.isEmpty then readPattern fuel rest groups false ((.char '+', 1, some 1) :: acc) else repeated 1 none rest
    | '\\' :: '?' :: rest => if acc.isEmpty then readPattern fuel rest groups false ((.char '?', 1, some 1) :: acc) else repeated 0 (some 1) rest
    | '\\' :: c :: rest => readPattern fuel rest groups false ((.char c, 1, some 1) :: acc)
    | ['\\'] => .error "Trailing backslash"
    | '^' :: rest => if atStart then readPattern fuel rest groups false acc
        else readPattern fuel rest groups false ((.char '^', 1, some 1) :: acc)
    | ['$'] => .ok ((((.finish, 1, some 1) :: acc).reverse), [], groups)
    | '$' :: '\\' :: ')' :: rest => .ok ((((.finish, 1, some 1) :: acc).reverse), '\\' :: ')' :: rest, groups)
    | '.' :: rest => readPattern fuel rest groups false ((.any, 1, some 1) :: acc)
    | '[' :: rest =>
      let (negated, body) := match rest with
        | '^' :: more => (true, more)
        | more => (false, more)
      match readBracket (body.length + 1) body true [] with
      | some (members, after) => readPattern fuel after groups false ((.set negated members, 1, some 1) :: acc)
      | none => .error "Unmatched [, [^, [:, [., or [="
    | c :: rest => readPattern fuel rest groups false ((.char c, 1, some 1) :: acc)
    | [] => .ok (acc.reverse, [], groups)

/-- The texts matched so far by groups, by number. -/
abbrev Captures := List (Nat × String)

/-- Every way a list of elements matches at the front of a text: the text left and the groups'
matches, longest repetitions first. -/
def matchAll : Nat → List (PatternAtom × Nat × Option Nat) → List Char → Captures → List (List Char × Captures)
  | 0, _, _, _ => []
  | _, [], input, caps => [(input, caps)]
  | fuel + 1, (atom, lo, hi) :: rest, input, caps =>
    -- one occurrence of the element
    let once (inp : List Char) (cs : Captures) : List (List Char × Captures) :=
      match atom, inp with
      | .char c, d :: more => if c == d then [(more, cs)] else []
      | .any, _ :: more => [(more, cs)]
      | .set negated members, d :: more =>
        if (members.any fun (a, b) => a ≤ d && d ≤ b) != negated then [(more, cs)] else []
      | .finish, [] => [([], cs)]
      | .group k body, _ =>
        (matchAll fuel body inp cs).map fun (after, cs') =>
          (after, (k, String.ofList (inp.take (inp.length - after.length))) :: cs'.filter (·.1 != k))
      | _, _ => []
    -- the results of exactly n occurrences, for n up to the bound, each making progress
    let rec levels : Nat → Nat → List (List Char × Captures) → List (List (List Char × Captures))
      | 0, _, _ => []
      | _, _, [] => []
      | steps + 1, n, current =>
        let next := current.flatMap fun (inp, cs) =>
          (once inp cs).filter fun (after, _) => after.length < inp.length || (atom matches .finish)
        let stop : Bool := match hi with
          | some h => decide (n + 1 > h)
          | none => false
        if stop then [] else next :: levels steps (n + 1) next
    let all := [(input, caps)] :: levels (input.length + 1) 0 [(input, caps)]
    let chosen := (all.zipIdx.filter fun (_, n) => lo ≤ n).map (·.1)
    chosen.reverse.flatten.flatMap fun (inp, cs) => matchAll fuel rest inp cs

/-- The value of `text : pattern`: the first group's match, or the length matched. -/
def regexMatch (text pattern : String) : Except ExprError ExprValue :=
  match readPattern (pattern.length + 1) pattern.toList 0 true [] with
  | .error e => .error (.failure e)
  | .ok (nodes, rest, groups) =>
    if !rest.isEmpty then .error (.failure "Unmatched ) or \\)")
    else
      let results := matchAll (text.length * 4 + pattern.length * 4 + 16) nodes text.toList []
      -- the longest match wins
      let best := results.foldl (fun (b : Option (List Char × Captures)) r =>
        match b with
        | some (inp, _) => if r.1.length < inp.length then some r else b
        | none => some r) none
      match best with
      | some (inp, caps) =>
        if groups > 0 then .ok (.text (((caps.find? (·.1 == 1)).map (·.2)).getD ""))
        else .ok (.int (text.length - inp.length))
      | none => if groups > 0 then .ok (.text "") else .ok (.int 0)

/-- The message naming an operand, in curved quotes. -/
def afterMessage (what : String) (token : String) : String := what ++ " " ++ curvedQuote token

/-- Applies an arithmetic operator. -/
def arithmetic (op : String) (a b : ExprValue) : Except ExprError ExprValue :=
  match a.toInt?, b.toInt? with
  | some x, some y =>
    match op with
    | "+" => .ok (.int (x + y))
    | "-" => .ok (.int (x - y))
    | "*" => .ok (.int (x * y))
    | "/" => if y == 0 then .error (.failure "division by zero") else .ok (.int (x.tdiv y))
    | _ => if y == 0 then .error (.failure "division by zero") else .ok (.int (x.tmod y))
  | _, _ => .error (.invalid "non-integer argument")

/-- Applies a comparison. -/
def comparison (op : String) (a b : ExprValue) : ExprValue :=
  let ord : Ordering := match a.toInt?, b.toInt? with
    | some x, some y => compare x y
    | _, _ => compare a.toText b.toText
  let holds : Bool := match op with
    | "<" => ord == .lt
    | "<=" => ord != .gt
    | "=" | "==" => ord == .eq
    | "!=" => ord != .eq
    | ">=" => ord != .lt
    | _ => ord == .gt
  .int (if holds then 1 else 0)

/-- The operators of each level, loosest first. -/
def operatorLevels : List (List String) :=
  [["|"], ["&"], ["<", "<=", "=", "==", "!=", ">=", ">"], ["+", "-"], ["*", "/", "%"], [":"]]

/-- Evaluates tokens at a precedence level: the value and the tokens left. `previous` is the
token before, for messages. -/
def evalLevel : Nat → Nat → List String → String → Except ExprError (ExprValue × List String)
  | 0, _, _, _ => .error (.invalid "syntax error")
  | fuel + 1, level, tokens, previous =>
    if level < operatorLevels.length then
      match evalLevel fuel (level + 1) tokens previous with
      | .error e => .error e
      | .ok (first, rest) =>
        let ops := operatorLevels.getD level []
        let rec more : Nat → ExprValue → List String → Except ExprError (ExprValue × List String)
          | 0, v, ts => .ok (v, ts)
          | steps + 1, v, ts =>
            match ts with
            | op :: after =>
              if ops.contains op then
                match evalLevel fuel (level + 1) after op with
                | .error e => .error e
                | .ok (w, rest') =>
                  let combined : Except ExprError ExprValue :=
                    match level with
                    | 0 => .ok (if !v.isNull then v else if !w.isNull then w else .int 0)
                    | 1 => .ok (if v.isNull || w.isNull then .int 0 else v)
                    | 2 => .ok (comparison op v w)
                    | 5 => regexMatch v.toText w.toText
                    | _ => arithmetic op v w
                  match combined with
                  | .ok r => more steps r rest'
                  | .error e => .error e
              else .ok (v, ts)
            | [] => .ok (v, ts)
        more (rest.length + 1) first rest
    else
      -- a primary
      match tokens with
      | [] => .error (.invalid ("syntax error: " ++ afterMessage "missing argument after" previous))
      | "(" :: rest =>
        match evalLevel fuel 0 rest "(" with
        | .error e => .error e
        | .ok (v, ")" :: after) => .ok (v, after)
        | .ok (_, t :: _) => .error (.invalid ("syntax error: " ++ afterMessage "expecting ')' instead of" t))
        | .ok (_, []) =>
          let last := (rest.getLast?).getD "("
          .error (.invalid ("syntax error: " ++ afterMessage "expecting ')' after" last))
      | ")" :: _ => .error (.invalid "syntax error: unexpected ')'")
      | "+" :: rest =>
        match rest with
        | t :: after => .ok (.text t, after)
        | [] => .error (.invalid ("syntax error: " ++ afterMessage "missing argument after" "+"))
      | "length" :: rest =>
        match evalLevel fuel level rest "length" with
        | .ok (v, after) => .ok (.int v.toText.length, after)
        | .error e => .error e
      | "match" :: rest =>
        match evalLevel fuel level rest "match" with
        | .error e => .error e
        | .ok (s, after) =>
          match evalLevel fuel level after "match" with
          | .error e => .error e
          | .ok (p, after') =>
            match regexMatch s.toText p.toText with
            | .ok v => .ok (v, after')
            | .error e => .error e
      | "index" :: rest =>
        match evalLevel fuel level rest "index" with
        | .error e => .error e
        | .ok (s, after) =>
          match evalLevel fuel level after "index" with
          | .error e => .error e
          | .ok (chars, after') =>
            let cs := chars.toText.toList
            let pos : Nat := ((s.toText.toList.findIdx? fun c => cs.contains c).map (· + 1)).getD 0
            .ok (.int pos, after')
      | "substr" :: rest =>
        match evalLevel fuel level rest "substr" with
        | .error e => .error e
        | .ok (s, a1) =>
          match evalLevel fuel level a1 "substr" with
          | .error e => .error e
          | .ok (p, a2) =>
            match evalLevel fuel level a2 "substr" with
            | .error e => .error e
            | .ok (l, a3) =>
              let text := s.toText
              let result := match p.toInt?, l.toInt? with
                | some pos, some len =>
                  if pos < 1 || len < 1 || pos > text.length then ""
                  else String.ofList ((text.toList.drop (pos.toNat - 1)).take len.toNat)
                | _, _ => ""
              .ok (.text result, a3)
      | t :: rest => .ok (.text t, rest)

/-- `expr`. -/
def runExpr (inv : Invocation) : Effect :=
  let args := match inv.args with
    | "--" :: rest => rest
    | rest => rest
  if args.isEmpty then optionFailure inv (usageError inv.name "missing operand") 2
  else
    match evalLevel (args.length * 8 + 16) 0 args "" with
    | .error (.invalid m) => optionFailure inv (inv.name ++ ": " ++ m) 2
    | .error (.failure m) => optionFailure inv (inv.name ++ ": " ++ m) 3
    | .ok (v, rest) =>
      match rest with
      | t :: _ => optionFailure inv (inv.name ++ ": syntax error: " ++ afterMessage "unexpected argument" t) 2
      | [] => ((Effect.start inv).say (v.toText ++ "\n")).exit (if v.isNull then 1 else 0)

end CrashTest.Utility
