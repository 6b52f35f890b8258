import CrashTest.Os.State
import CrashTest.Shell.Arith
import CrashTest.Shell.Pattern
/-!
Word expansion.

A word expands in four steps. A `~` at its start, unquoted and followed by nothing but a login
name up to the first `/`, becomes that user's home directory (`$HOME` for the bare `~`). Then its
parts become bytes: literal text as written, parameters as their values, arithmetic as its
decimal value, and command substitutions as their output (which has already been produced).
Each byte remembers whether it was quoted, and whether it came from an unquoted expansion.

Then the bytes from unquoted expansions that are in `IFS` split the word into fields. Blanks,
tabs and line ends in `IFS` are white space: a run of them separates two fields and makes none
at either end. Any other `IFS` byte ends a field, taking the white space around it along, so two
in a row leave an empty field between them, one at the start leaves an empty first field, and
one at the end ends the last field without adding another. An unset `IFS` stands for blank, tab
and line end; an empty one splits nothing. A quoted empty text still makes a field, and `"$@"`
makes one field for each positional parameter.

Last, unless `set -f` is on, a field with an unquoted `*`, `?` or `[` names the files it matches,
in byte order, or stays as it is when it matches none.

Assignments, redirection targets and `case` subjects expand to one text, without splitting and
without file names. An expansion that fails ends the shell: an unset parameter under `set -u`,
`${x?}` of an unset `x`, a bad `${...}`, an arithmetic error, or an assignment to a read-only
variable.
-/
namespace CrashTest.Shell

open CrashTest.Os CrashTest.Text

/-- A byte of a word being expanded. -/
inductive Piece where
  /-- A byte; `quoted` keeps it from pattern matching, `split` lets it separate fields. -/
  | char (c : Char) (quoted : Bool) (split : Bool)
  /-- A quoted empty text, which keeps its field. -/
  | mark
  /-- A boundary between fields, as between the words of `"$@"`. -/
  | boundary
  deriving DecidableEq, Repr, Inhabited

/-- Why an expansion failed: a message that ends the shell, a syntax error found only when the
word is used, or a signal that kills the shell. -/
inductive ExpandError where
  | fail (message : String)
  | malformed (message : String)
  | killed (sig : Nat)
  deriving DecidableEq, Repr, Inhabited

/-- The pieces of an expansion's text. -/
def piecesOf (s : String) (quoted : Bool) : List Piece :=
  if s.isEmpty && quoted then [.mark] else s.toList.map fun c => .char c quoted (!quoted)

/-- The field separators of a shell. -/
def separators (s : ShellState) : String := (s.var? "IFS").getD " \t\n"

/-- The byte that joins the positional parameters in `$*`: the first of `IFS`, a blank when it
is unset, none when it is empty. -/
def joiner (s : ShellState) : Option Char :=
  match s.var? "IFS" with
  | none => some ' '
  | some ifs => ifs.toList.head?

/-- Whether a byte is white space for field splitting. -/
def isIfsWhite (c : Char) : Bool := c = ' ' || c = '\t' || c = '\n'

/-- Removes the shortest or longest prefix, or suffix, of a text that a pattern matches. -/
def trimMatch (p : List PatElem) (suffix longest : Bool) (s : String) : String :=
  let cs := s.toList
  let n := cs.length
  let cuts := if longest then (List.range (n + 1)).reverse else List.range (n + 1)
  let hit := cuts.find? fun k =>
    if suffix then matchPattern p (cs.drop (n - k)) else matchPattern p (cs.take k)
  match hit with
  | some k => if suffix then String.ofList (cs.take (n - k)) else String.ofList (cs.drop k)
  | none => s

/-- An expansion's result: pieces and the shell afterwards, or an error. -/
abbrev Expansion := Except ExpandError (List Piece × ShellState)

/-- The text of pieces, ignoring quoting. -/
def textOf (ps : List Piece) : String :=
  String.ofList (ps.filterMap fun p => match p with
    | .char c _ _ => some c
    | _ => none)

/-- The characters of pieces with their quoting, for patterns. -/
def patternChars (ps : List Piece) : List (Char × Bool) :=
  ps.filterMap fun p => match p with
    | .char c q _ => some (c, q)
    | _ => none

/-- The pieces of the positional parameters: with `"$@"` one field each; otherwise joined by
the byte of `joiner`, split later unless quoted. -/
def paramsPieces (s : ShellState) (name : String) (quoted : Bool) : List Piece :=
  if name == "@" && quoted then
    (s.args.map (piecesOf · true)).foldl (fun acc ps =>
      if acc.isEmpty then ps else acc ++ [.boundary] ++ ps) []
  else
    let sep := match joiner s with
      | some c => String.singleton c
      | none => ""
    piecesOf (sep.intercalate s.args) quoted

/-- Evaluates an arithmetic expression's text in a shell: the value and the shell with the
expression's assignments made. -/
def arithIn (s : ShellState) (text : String) : Except ExpandError (Int × ShellState) :=
  let env : ArithEnv := ⟨s.var?, s.readonly.contains⟩
  match evalArith env text with
  | .ok (v, assigned) => .ok (v, assigned.foldl (fun st (n, x) => st.setVar n (toString x)) s)
  | .error (.malformed m) => .error (.fail ("arithmetic expression: " ++ m ++ ": \"" ++ text ++ "\""))
  | .error (.illegalNumber t) => .error (.fail ("Illegal number: " ++ t))
  | .error (.readOnly n) => .error (.fail (n ++ ": is read only"))
  | .error .trap => .error (.killed 8)

/-- The home directory of a user, from the password file of the machine. -/
def homeOf (user : String) : Option String :=
  (passwdText.splitOn "\n").findSome? fun line =>
    match line.splitOn ":" with
    | [name, _, _, _, _, home, _] => if name == user then some home else none
    | _ => none

/-- The parts a tilde prefix becomes, for a stretch of unquoted literal text that starts with
it; `final` says whether the word ends with this text. The name after the `~` runs to the first
`/`; it must end inside the text unless the word ends there, since a quote or an expansion right
after it makes it no login name. The bare `~` stands for `$HOME`, an empty one for nothing at
all; an unknown login or an unset `HOME` leaves the text as written. -/
def tildeSegment (s : ShellState) (final : Bool) (seg : String) : List Part :=
  match seg.toList with
  | '~' :: cs =>
    let user := cs.takeWhile (· ≠ '/')
    let after := cs.drop user.length
    let home := if after.isEmpty && !final then none
      else if user.isEmpty then s.var? "HOME" else homeOf (String.ofList user)
    match home with
    | some h => (if h.isEmpty then [] else [.lit h true]) ++ [.lit (String.ofList after) false]
    | none => [.lit seg false]
  | _ => [.lit seg false]

/-- Expands the tilde prefixes of a word: the one at its start and, in the value of an
assignment (`assign`), one after each unquoted `:` too, where a prefix also ends. -/
def expandTilde (s : ShellState) (assign : Bool) (w : Word) : Word :=
  go true w
where
  /-- Walks the parts; `atStart` holds for the first one only. -/
  go : Bool → Word → Word
    | _, [] => []
    | atStart, .lit t false :: rest =>
      let segs := if assign then t.splitOn ":" else [t]
      let n := segs.length
      let parts := segs.zipIdx.map fun (seg, i) =>
        if i = 0 && !atStart then [Part.lit seg false]
        else tildeSegment s (i + 1 < n || rest.isEmpty) seg
      [Part.lit ":" false].intercalate parts ++ go false rest
    | _, p :: rest => p :: go false rest

mutual

/-- Expands the parts of a word into pieces. Inside the operand of a parameter expansion
(`operand`), unquoted literal text may split fields too. -/
def expandParts (fuel : Nat) (s : ShellState) (operand : Bool) : List Part → Expansion
  | [] => .ok ([], s)
  | p :: rest =>
    match fuel with
    | 0 => .error (.fail "expansion too deep")
    | fuel + 1 =>
      match expandPart fuel s operand p with
      | .error e => .error e
      | .ok (ps, s') =>
        match expandParts fuel s' operand rest with
        | .error e => .error e
        | .ok (qs, s'') => .ok (ps ++ qs, s'')

/-- Expands one part into pieces. -/
def expandPart (fuel : Nat) (s : ShellState) (operand : Bool) : Part → Expansion
  | .lit t q => .ok (if t.isEmpty && q then [.mark] else t.toList.map fun c => .char c q (operand && !q), s)
  | .done t q => .ok (piecesOf t q, s)
  | .subst _ _ q => .ok (piecesOf "" q, s)
  | .arith expr q =>
    match fuel with
    | 0 => .error (.fail "expansion too deep")
    | fuel + 1 =>
      match expandParts fuel s false expr with
      | .error e => .error e
      | .ok (ps, s') =>
        match arithIn s' (textOf ps) with
        | .error e => .error e
        | .ok (v, s'') => .ok (piecesOf (toString v) q, s'')
  | .param name op word q =>
    match fuel with
    | 0 => .error (.fail "expansion too deep")
    | fuel + 1 =>
      let positional := name == "@" || name == "*"
      let value : Option String :=
        if positional then (if s.args.isEmpty then none else some ((joiner s).map String.singleton |>.getD "" |>.intercalate s.args))
        else s.param? name
      let unsetOrEmpty (colon : Bool) : Bool :=
        match value with
        | none => true
        | some v => colon && v.isEmpty
      let valuePieces : List Piece :=
        if positional then paramsPieces s name q else piecesOf (value.getD "") q
      let operandOf := fun (st : ShellState) => expandParts fuel st true ((expandTilde st false word).map fun p => match p with
        | .lit t pq => .lit t (q || pq)
        | other => other)
      let unsetError : Option ExpandError :=
        if value.isNone && !positional && s.opt "nounset" then
          some (.fail (name ++ ": parameter not set"))
        else none
      match op with
      | .bad => .error (.fail "Bad substitution")
      | .plain =>
        match unsetError with
        | some e => .error e
        | none => .ok (valuePieces, s)
      | .length =>
        match unsetError with
        | some e => .error e
        | none => .ok (piecesOf (toString (value.getD "").length) q, s)
      | .orDefault colon =>
        if unsetOrEmpty colon then operandOf s else .ok (valuePieces, s)
      | .orAssign colon =>
        if unsetOrEmpty colon then
          match operandOf s with
          | .error e => .error e
          | .ok (ps, s') =>
            match s'.assign name (textOf ps) with
            | .ok s'' => .ok (piecesOf (textOf ps) q, s'')
            | .error m => .error (.fail m)
        else .ok (valuePieces, s)
      | .ifSet colon =>
        if unsetOrEmpty colon then .ok (if q then [.mark] else [], s) else operandOf s
      | .orFail colon =>
        if unsetOrEmpty colon then
          match operandOf s with
          | .error e => .error e
          | .ok (ps, _) =>
            let msg := textOf ps
            let msg := if msg.isEmpty then
                "parameter not set" ++ (if colon then " or null" else "") else msg
            .error (.fail (name ++ ": " ++ msg))
        else .ok (valuePieces, s)
      | .dropSuffix longest | .dropPrefix longest =>
        match unsetError with
        | some e => .error e
        | none =>
          -- the pattern keeps only its own quoting, even between double quotes
          match expandParts fuel s true (expandTilde s false word) with
          | .error e => .error e
          | .ok (ps, s') =>
            let chars := patternChars ps
            let pat := compilePattern (chars.length + 1) chars
            let suffix := match op with
              | .dropSuffix _ => true
              | _ => false
            .ok (piecesOf (trimMatch pat suffix longest (value.getD "")) q, s')

end

/-- Where field splitting stands. -/
inductive SplitMode where
  /-- Before anything of a field. -/
  | start
  /-- Inside a field. -/
  | inField
  /-- After white space that ended a field. -/
  | afterWhite
  /-- After a separator that is not white space. -/
  | afterSep
  deriving DecidableEq, Repr, Inhabited

/-- Splits pieces into fields at unquoted separators of `ifs`; each field keeps its characters'
quoting. -/
def splitFields (ifs : String) (ps : List Piece) : List (List (Char × Bool)) :=
  let seps := ifs.toList
  let step (acc : List (List (Char × Bool)) × List (Char × Bool) × SplitMode) (p : Piece) :=
    let (done, cur, mode) := acc
    match p with
    | .char c q split =>
      if split && seps.contains c then
        if isIfsWhite c then
          match mode with
          | .inField => (cur.reverse :: done, [], .afterWhite)
          | m => (done, [], m)
        else
          match mode with
          | .inField => (cur.reverse :: done, [], .afterSep)
          | .afterWhite => (done, [], .afterSep)
          | _ => ([] :: done, [], .afterSep)
      else (done, (c, q) :: cur, .inField)
    | .mark => (done, cur, .inField)
    | .boundary =>
      match mode with
      | .inField => (cur.reverse :: done, [], .start)
      | _ => (done, [], .start)
  let (done, cur, mode) := ps.foldl step ([], [], .start)
  (if mode == .inField then cur.reverse :: done else done).reverse

/-- The paths that a pattern of path components matches, starting from the directory `dir`
(normalised) and the text `shown` written for it so far. -/
def globFrom (fs : FileSystem) : List (List (Char × Bool)) → String → String → List String
  | [], _, shown => [shown]
  | comp :: rest, dir, shown =>
    let pat := compilePattern (comp.length + 1) comp
    let sep := if shown.isEmpty || shown.endsWith "/" then "" else "/"
    if isMagic pat then
      let listed := match fs.resolve "/" dir true with
        | .ok real => fs.children real
        | .error _ => []
      let names := listed.filter fun n =>
        (!n.startsWith "." || comp.head?.map (·.1) == some '.') && matchPattern pat n.toList
      names.flatMap fun n =>
        let path := (if dir == "/" then "/" else dir ++ "/") ++ n
        if rest.isEmpty then [shown ++ sep ++ n]
        else if fs.isDir "/" path then globFrom fs rest path (shown ++ sep ++ n) else []
    else
      let n := String.ofList (comp.map (·.1))
      let path := normalize dir n
      if rest.isEmpty then
        if (fs.findLink? "/" path).isSome then [shown ++ sep ++ n] else []
      else globFrom fs rest path (shown ++ sep ++ n)

/-- The file names a field matches, sorted, or the field itself (without its quoting) if it has
no pattern or matches nothing. -/
def globField (fs : FileSystem) (cwd : String) (field : List (Char × Bool)) : List String :=
  let text := String.ofList (field.map (·.1))
  let magic := field.any fun (c, q) => !q && (c = '*' || c = '?' || c = '[')
  if !magic then [text]
  else
    let absolute := field.head?.map (·.1) == some '/'
    let comps := ((field.splitBy fun a b => a.1 != '/' && b.1 != '/').filter fun g =>
      !(g.all (·.1 == '/')))
    let found := if absolute then globFrom fs comps "/" "/" else globFrom fs comps cwd ""
    match found with
    | [] => [text]
    | fs' => fs'.mergeSort (fun a b => decide (a ≤ b))

/-- The fuel for expanding a word. -/
def wordFuel (w : Word) : Nat := 4 * w.length + 64

/-- The text of pieces where fields do not split: the boundaries of `"$@"` become the byte that
joins the positional parameters in `$*`. -/
def joinedText (s : ShellState) (ps : List Piece) : String :=
  String.ofList (ps.flatMap fun p => match p with
    | .char c _ _ => [c]
    | .boundary => (joiner s).toList
    | .mark => [])

/-- Expands a word into one text, without splitting or file names; `assign` says whether it is
the value of an assignment, where a `~` after a `:` is expanded too. -/
def expandOne (s : ShellState) (assign : Bool) (w : Word) : Except ExpandError (String × ShellState) := do
  let w := expandTilde s assign w
  let (ps, s') ← expandParts (wordFuel w) s false w
  return (joinedText s' ps, s')

/-- Expands a word into one text, without splitting or file names. -/
def expandText (s : ShellState) (w : Word) : Except ExpandError (String × ShellState) :=
  expandOne s false w

/-- Expands the value of an assignment. -/
def expandValue (s : ShellState) (w : Word) : Except ExpandError (String × ShellState) :=
  expandOne s true w

/-- Whether the fields of a command so far begin a declaration: `export`, `readonly` or
`local`, after any number of `command` words. Its later words written as `name=value` are
assignments, expanded as one field each. -/
def declares (fields : List String) : Bool :=
  match fields.dropWhile (· == "command") with
  | c :: _ => c == "export" || c == "readonly" || c == "local"
  | [] => false

/-- Expands words into fields, with splitting and, unless `set -f` is on, file names; the
assignments of a declaration make one field each. -/
def expandWords (s : ShellState) (fs : FileSystem) (cwd : String) (ws : List Word) :
    Except ExpandError (List String × ShellState) :=
  ws.foldlM (fun (acc : List String × ShellState) w => do
    match (if declares acc.1 then assignment? w else none) with
    | some (name, value) =>
      let (v, s') ← expandValue acc.2 value
      return (acc.1 ++ [name ++ "=" ++ v], s')
    | none =>
      let w := expandTilde acc.2 false w
      let (ps, s') ← expandParts (wordFuel w) acc.2 false w
      let fields := splitFields (separators s') ps
      let names := if s'.opt "noglob" then fields.map fun f => String.ofList (f.map (·.1))
        else fields.flatMap (globField fs cwd)
      return (acc.1 ++ names, s')) ([], s)

/-- Expands a word into a pattern. -/
def expandPattern (s : ShellState) (w : Word) : Except ExpandError (List PatElem × ShellState) := do
  let (ps, s') ← expandParts (wordFuel w) s false w
  let chars := patternChars ps
  return (compilePattern (chars.length + 1) chars, s')

end CrashTest.Shell
