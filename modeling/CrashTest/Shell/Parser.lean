import CrashTest.Shell.Lexer
/-!
Reading tokens into commands.

The grammar is the shell's: a list is and-or lists separated by `;`, `&` or line ends; an and-or
list is pipelines joined by `&&` and `||`, grouped from the left; a pipeline is commands joined by
`|`, negated by a leading `!`. Reserved words (`if`, `then`, `while`, `do`, ...) are recognised
only where a command may start.

A script is read one complete command at a time, as the shell reads it: everything up to a line
end outside any compound command. A syntax error ends the script at that point, and the commands
read before it still run; the error's message names the unexpected token and, where one is
expected, the token that was.
-/
namespace CrashTest.Shell

/-- Tokens still to read. -/
abbrev Tokens := List Located

/-- A syntax error: its line and message. -/
structure ParseFail where
  line : Nat
  message : String
  deriving Repr, Inhabited

/-- The result of reading a piece of a script: the piece and the tokens after it. -/
abbrev Parsed (α : Type) := Except ParseFail (α × Tokens)

/-- Words reserved where a command may start. -/
def reservedWords : List String :=
  ["if", "then", "else", "elif", "fi", "do", "done", "case", "esac", "while", "until", "for",
    "in", "\x7b", "\x7d", "!"]

/-- The special commands of the shell, which no function may be named after. -/
def specialBuiltins : List String :=
  [".", ":", "break", "continue", "eval", "exec", "exit", "export", "local", "readonly", "return",
    "set", "shift", "times", "trap", "unset"]

/-- How a token is named in a syntax error. A reserved word is named as itself when it was read
where reserved words are recognised (`kw`), and as a word elsewhere. -/
def tokenName (kw : Bool) : Token → String
  | .word _ (some s) => if kw && reservedWords.contains s then "\"" ++ s ++ "\"" else "word"
  | .word _ none => "word"
  | .op s => "\"" ++ s ++ "\""
  | .redir .. => "redirection"
  | .newline => "newline"
  | .heredocBody _ => "word"
  | .eof => "end of file"
  | .error m => m

/-- The next token, or the end of the text. -/
def peekTok (ts : Tokens) : Located := ts.headD (.eof, 0)

/-- The tokens after the next one; the end of the text stays. -/
def advance : Tokens → Tokens
  | (.eof, l) :: rest => (.eof, l) :: rest
  | _ :: rest => rest
  | [] => []

/-- A syntax error at the token `t` read with reserved words recognised or not (`kw`),
expecting the token named `expecting` if given. A token that could not be read carries its own
message. An error at a line end is reported on the line after it. -/
def unexpectedAs (kw : Bool) (t : Located) (expecting : Option String) : ParseFail :=
  match t.1 with
  | .error m => ⟨t.2, m⟩
  | tok =>
    let base := "Syntax error: " ++ tokenName kw tok ++ " unexpected"
    -- a line end is only seen once the next line has begun
    let line := if tok matches .newline then t.2 + 1 else t.2
    match expecting with
    | some e => ⟨line, base ++ " (expecting " ++ e ++ ")"⟩
    | none => ⟨line, base⟩

/-- A syntax error at a token read where reserved words are recognised. -/
def unexpected (t : Located) (expecting : Option String) : ParseFail := unexpectedAs true t expecting

/-- A token's name in quotes, as an expected token is named. -/
def quotedName (s : String) : String := "\"" ++ s ++ "\""

/-- Whether the token is the reserved word `w`. -/
def isWord (w : String) : Token → Bool
  | .word _ (some s) => s == w
  | _ => false

/-- Whether the token is the operator `o`. -/
def isOp (o : String) : Token → Bool
  | .op s => s == o
  | _ => false

/-- Skips line ends. -/
def skipNewlines : Tokens → Tokens
  | (.newline, _) :: rest => skipNewlines rest
  | ts => ts

/-- Skips the reserved word `w`, or fails expecting it. -/
def expectWord (w : String) (ts : Tokens) : Except ParseFail Tokens :=
  let t := peekTok ts
  if isWord w t.1 then .ok (advance ts) else .error (unexpected t (some (quotedName w)))

/-- Skips the operator `o`, or fails expecting it. -/
def expectOp (o : String) (ts : Tokens) : Except ParseFail Tokens :=
  let t := peekTok ts
  if isOp o t.1 then .ok (advance ts) else .error (unexpected t (some (quotedName o)))

/-- The reserved words that cannot begin a command. -/
def closingWords : List String := ["then", "else", "elif", "fi", "do", "done", "esac", "\x7d", "in", "!"]

/-- Whether a token ends a list inside a compound command: the end of the text, `)`, `;;`, and
the reserved words that continue or close a compound command. -/
def endsList : Token → Bool
  | .eof => true
  | .op s => s == ")" || s == ";;"
  | .word _ (some s) => ["do", "done", "elif", "else", "esac", "fi", "then", "\x7d"].contains s
  | _ => false

/-- An assignment `name=value` written as a word: the name and the value's word. -/
def assignment? : Word → Option (String × Word)
  | .lit s false :: rest =>
    match s.splitOn "=" with
    | name :: value :: more =>
      if isName name then
        let v := "=".intercalate (value :: more)
        some (name, if v.isEmpty then rest else .lit v false :: rest)
      else none
    | _ => none
  | _ => none

/-- The descriptor a redirection applies to when none is written. -/
def RedirOp.defaultFd : RedirOp → Nat
  | .write | .clobber | .append | .dupOut => 1
  | .read | .readWrite | .dupIn | .heredoc _ => 0

/-- Reads the redirections that follow a compound command. -/
def parseRedirs : Nat → Tokens → List Redir → Parsed (List Redir)
  | 0, ts, acc => .ok (acc.reverse, ts)
  | fuel + 1, ts, acc =>
    match ts with
    | (.redir fd op, _) :: (.word w _, _) :: rest =>
      parseRedirs fuel rest (⟨fd.getD op.defaultFd, op, w⟩ :: acc)
    | (.redir .., _) :: rest => .error (unexpected (peekTok rest) none)
    | _ => .ok (acc.reverse, ts)

/-- Wraps a compound command in its redirections, if it has any. -/
def withRedirs (c : Cmd) : List Redir → Cmd
  | [] => c
  | rs => .group c rs

/-- Joins two commands in sequence, the first one being optional. -/
def Cmd.andSeq : Option Cmd → Cmd → Cmd
  | none, c => c
  | some a, c => .seq a c

/-- Reads the words of a `for` loop up to the first token that is not a word. -/
def parseForWords : Nat → Tokens → List Word → Parsed (List Word)
  | 0, ts, acc => .ok (acc.reverse, ts)
  | fuel + 1, ts, acc =>
    match ts with
    | (.word w _, _) :: rest => parseForWords fuel rest (w :: acc)
    | _ => .ok (acc.reverse, ts)

/-- Reads the patterns of a `case` arm, separated by `|`, up to `)`. Whatever token stands where
a pattern belongs is taken as one; a token that is not a word stands for the last word read
(`last`). -/
def parsePatterns : Nat → Word → Tokens → List Word → Parsed (List Word)
  | 0, _, ts, acc => .ok (acc.reverse, ts)
  | fuel + 1, last, ts, acc =>
    let t := peekTok ts
    match t.1 with
    | .error _ => .error (unexpected t none)
    | _ =>
      let w := match t.1 with
        | .word w _ => w
        | _ => last
      let rest := advance ts
      let u := peekTok rest
      if isOp "|" u.1 then parsePatterns fuel w (advance rest) (w :: acc)
      else if isOp ")" u.1 then .ok ((w :: acc).reverse, advance rest)
      else .error (unexpectedAs false u (some (quotedName ")")))

/-- Where a list stands: at the top of a script, where a line end ends it; in the body of a
compound command, whose first member must be a command; or in an arm of a `case`, which may be
empty. -/
inductive ListKind where
  | top
  | body
  | arm
  deriving DecidableEq, Repr, Inhabited

mutual

/-- Reads a list of and-or lists separated by `;`, `&` or line ends, with `acc` the list read so
far. At the top of a script a line end or the end of the text ends the list, and anything else
after a member is an error. Inside a compound command line ends only separate members; after
the first member (before it too, in an arm of a `case`) the list ends at a token that continues
or closes a compound command, and at any token that cannot follow a member. -/
def parseList (fuel : Nat) (kind : ListKind) (first : Bool) (acc : Option Cmd) (ts : Tokens) :
    Parsed Cmd :=
  match fuel with
  | 0 => .error ⟨(peekTok ts).2, "Syntax error: script too long"⟩
  | fuel + 1 =>
    let t := peekTok ts
    let sofar := acc.getD .empty
    if kind = .top && (t.1 matches .newline) then .ok (sofar, advance ts)
    else if t.1 matches .eof then .ok (sofar, ts)
    else
      let ts := skipNewlines ts
      if kind ≠ .top && !(first && kind = .body) && endsList (peekTok ts).1 then .ok (sofar, ts)
      else
        match parseAndOr fuel none ts with
        | .error e => .error e
        | .ok (c, rest) =>
          let u := peekTok rest
          match u.1 with
          | .newline | .eof => parseList fuel kind false (some (Cmd.andSeq acc c)) rest
          | .op ";" => parseList fuel kind false (some (Cmd.andSeq acc c)) (advance rest)
          | .op "&" => parseList fuel kind false (some (Cmd.andSeq acc (.background c))) (advance rest)
          | _ => if kind = .top then .error (unexpected u none) else .ok (Cmd.andSeq acc c, rest)

/-- Reads pipelines joined by `&&` and `||`; `acc` is the list read so far with the operator
that joins it to the next pipeline. Line ends after an operator are skipped. -/
def parseAndOr (fuel : Nat) (acc : Option (Cmd × Bool)) (ts : Tokens) : Parsed Cmd :=
  match fuel with
  | 0 => .error ⟨(peekTok ts).2, "Syntax error: script too long"⟩
  | fuel + 1 =>
    match parsePipeline fuel ts with
    | .error e => .error e
    | .ok (p, rest) =>
      let cur := match acc with
        | none => p
        | some (a, true) => Cmd.andThen a p
        | some (a, false) => Cmd.orElse a p
      match rest with
      | (.op "&&", _) :: rest' => parseAndOr fuel (some (cur, true)) (skipNewlines rest')
      | (.op "||", _) :: rest' => parseAndOr fuel (some (cur, false)) (skipNewlines rest')
      | _ => .ok (cur, rest)

/-- Reads a pipeline, with one leading `!` if any; the command after `!` must follow on the same
line. -/
def parsePipeline (fuel : Nat) (ts : Tokens) : Parsed Cmd :=
  match fuel with
  | 0 => .error ⟨(peekTok ts).2, "Syntax error: script too long"⟩
  | fuel + 1 =>
    if isWord "!" (peekTok ts).1 then
      match parsePipeTail fuel none (advance ts) with
      | .ok (c, rest') => .ok (.negate c, rest')
      | .error e => .error e
    else parsePipeTail fuel none ts

/-- Reads commands joined by `|`; line ends after `|` are skipped. -/
def parsePipeTail (fuel : Nat) (acc : Option Cmd) (ts : Tokens) : Parsed Cmd :=
  match fuel with
  | 0 => .error ⟨(peekTok ts).2, "Syntax error: script too long"⟩
  | fuel + 1 =>
    match parseCommand fuel ts with
    | .error e => .error e
    | .ok (c, rest) =>
      let c' := match acc with
        | none => c
        | some a => .pipe a c
      match rest with
      | (.op "|", _) :: rest' => parsePipeTail fuel (some c') (skipNewlines rest')
      | _ => .ok (c', rest)

/-- Reads one command: a compound command with its redirections, a function definition, or a
simple command. Any other token is an error. -/
def parseCommand (fuel : Nat) (ts : Tokens) : Parsed Cmd :=
  match fuel with
  | 0 => .error ⟨(peekTok ts).2, "Syntax error: script too long"⟩
  | fuel + 1 =>
    let t := peekTok ts
    let rest := advance ts
    let finish (c : Cmd) (ts' : Tokens) : Parsed Cmd :=
      match parseRedirs (ts'.length + 1) ts' [] with
      | .ok (rs, ts'') => .ok (withRedirs c rs, ts'')
      | .error e => .error e
    if isWord "if" t.1 then
      match parseIf fuel rest with
      | .ok (c, ts') => finish c ts'
      | .error e => .error e
    else if isWord "while" t.1 || isWord "until" t.1 then
      match parseList fuel .body true none rest with
      | .error e => .error e
      | .ok (cond, ts1) =>
        match expectWord "do" ts1 with
        | .error e => .error e
        | .ok ts2 =>
          match parseList fuel .body true none ts2 with
          | .error e => .error e
          | .ok (body, ts3) =>
            match expectWord "done" ts3 with
            | .error e => .error e
            | .ok ts4 => finish (.loop (isWord "until" t.1) cond body) ts4
    else if isWord "for" t.1 then
      let v := peekTok rest
      match v.1 with
      | .word _ (some name) =>
        if !isName name then .error ⟨v.2, "Syntax error: Bad for loop variable"⟩
        else
          let ts1 := skipNewlines (advance rest)
          let words : Parsed (Option (List Word)) :=
            if isWord "in" (peekTok ts1).1 then
              match parseForWords (ts1.length + 1) (advance ts1) [] with
              | .ok (ws, ts3) =>
                let u := peekTok ts3
                if isOp ";" u.1 || (u.1 matches .newline) then .ok (some ws, advance ts3)
                else .error (unexpected u none)
              | .error e => .error e
            else if isOp ";" (peekTok ts1).1 then .ok (none, advance ts1)
            else .ok (none, ts1)
          match words with
          | .error e => .error e
          | .ok (ws, ts3) =>
            match expectWord "do" (skipNewlines ts3) with
            | .error e => .error e
            | .ok ts4 =>
              match parseList fuel .body true none ts4 with
              | .error e => .error e
              | .ok (body, ts5) =>
                match expectWord "done" ts5 with
                | .error e => .error e
                | .ok ts6 => finish (.forIn name ws body) ts6
      | .error m => .error ⟨v.2, m⟩
      | _ => .error ⟨v.2, "Syntax error: Bad for loop variable"⟩
    else if isWord "case" t.1 then
      let v := peekTok rest
      match v.1 with
      | .word subject _ =>
        match expectWord "in" (skipNewlines (advance rest)) with
        | .error e => .error e
        | .ok ts2 =>
          match parseArms fuel [.lit "in" false] ts2 [] with
          | .ok (arms, ts3) => finish (.caseOf subject arms) ts3
          | .error e => .error e
      | _ => .error (unexpected v (some "word"))
    else if isWord "\x7b" t.1 then
      match parseList fuel .body true none rest with
      | .error e => .error e
      | .ok (body, ts1) =>
        match expectWord "\x7d" ts1 with
        | .error e => .error e
        | .ok ts2 => finish (.group body []) ts2
    else if isOp "(" t.1 then
      match parseList fuel .body true none rest with
      | .error e => .error e
      | .ok (body, ts1) =>
        match expectOp ")" ts1 with
        | .error e => .error e
        | .ok ts2 =>
          match parseRedirs (ts2.length + 1) ts2 [] with
          | .ok (rs, ts3) => .ok (.subshell body rs, ts3)
          | .error e => .error e
    else
      match t.1 with
      | .word _ (some s) =>
        if closingWords.contains s then .error (unexpected t none)
        else parseSimple fuel t.2 [] [] [] ts
      | .word .. | .redir .. => parseSimple fuel t.2 [] [] [] ts
      | _ => .error (unexpected t none)

/-- Reads the rest of an `if` after the word `if`: the condition, the branches, and `fi`. -/
def parseIf (fuel : Nat) (ts : Tokens) : Parsed Cmd :=
  match fuel with
  | 0 => .error ⟨(peekTok ts).2, "Syntax error: script too long"⟩
  | fuel + 1 =>
    match parseList fuel .body true none ts with
    | .error e => .error e
    | .ok (cond, ts1) =>
      match expectWord "then" ts1 with
      | .error e => .error e
      | .ok ts2 =>
        match parseList fuel .body true none ts2 with
        | .error e => .error e
        | .ok (yes, ts3) =>
          let t := peekTok ts3
          if isWord "elif" t.1 then
            match parseIf fuel (advance ts3) with
            | .ok (no, ts4) => .ok (.ifThen cond yes no, ts4)
            | .error e => .error e
          else if isWord "else" t.1 then
            match parseList fuel .body true none (advance ts3) with
            | .error e => .error e
            | .ok (no, ts4) =>
              match expectWord "fi" ts4 with
              | .ok ts5 => .ok (.ifThen cond yes no, ts5)
              | .error e => .error e
          else
            match expectWord "fi" ts3 with
            | .ok ts4 => .ok (.ifThen cond yes .empty, ts4)
            | .error e => .error e

/-- Reads the arms of a `case` up to `esac`, with `last` the last word read. An arm is an
optional `(`, its patterns, `)`, and a list that may be empty, ended by `;;` or `esac`. -/
def parseArms (fuel : Nat) (last : Word) (ts : Tokens) (acc : List (List Word × Cmd)) :
    Parsed (List (List Word × Cmd)) :=
  match fuel with
  | 0 => .error ⟨(peekTok ts).2, "Syntax error: script too long"⟩
  | fuel + 1 =>
    let ts := skipNewlines ts
    let t := peekTok ts
    if isWord "esac" t.1 then .ok (acc.reverse, advance ts)
    else
      let ts := if isOp "(" t.1 then advance ts else ts
      match parsePatterns (ts.length + 1) last ts [] with
      | .error e => .error e
      | .ok (pats, ts1) =>
        match parseList fuel .arm true none ts1 with
        | .error e => .error e
        | .ok (c, ts2) =>
          let ts2 := skipNewlines ts2
          let u := peekTok ts2
          let last := pats.getLastD last
          if isWord "esac" u.1 then .ok (((pats, c) :: acc).reverse, advance ts2)
          else if isOp ";;" u.1 then parseArms fuel last (advance ts2) ((pats, c) :: acc)
          else .error (unexpected u (some (quotedName ";;")))

/-- Reads a simple command: assignments before the first word, then words, with redirections
anywhere. A single word followed by `(` begins a function definition: `)` must follow, the word
must be a name that is not a special command, and the body is the command after them. -/
def parseSimple (fuel : Nat) (line : Nat) (assigns : List (String × Word)) (words : List Word)
    (redirs : List Redir) (ts : Tokens) : Parsed Cmd :=
  let done : Parsed Cmd :=
    if assigns.isEmpty && words.isEmpty && redirs.isEmpty then .error (unexpected (peekTok ts) none)
    else .ok (.simple line assigns.reverse words.reverse redirs.reverse, ts)
  match fuel with
  | 0 => done
  | fuel + 1 =>
    match ts with
    | (.word w _, _) :: rest =>
      match (if words.isEmpty then assignment? w else none) with
      | some a => parseSimple fuel line (a :: assigns) words redirs rest
      | none => parseSimple fuel line assigns (w :: words) redirs rest
    | (.redir fd op, _) :: (.word w _, _) :: rest =>
      parseSimple fuel line assigns words (⟨fd.getD op.defaultFd, op, w⟩ :: redirs) rest
    | (.redir .., _) :: rest => .error (unexpected (peekTok rest) none)
    | (.op "(", _) :: rest =>
      match words, assigns, redirs with
      | [w], [], [] =>
        let u := peekTok rest
        if !isOp ")" u.1 then .error (unexpectedAs false u (some (quotedName ")")))
        else
          match plainText w with
          | some name =>
            if isName name && !specialBuiltins.contains name then
              match parseCommand fuel (skipNewlines (advance rest)) with
              | .ok (body, ts2) => .ok (.funcDef name body, ts2)
              | .error e => .error e
            else .error ⟨u.2, "Syntax error: Bad function name"⟩
          | none => .error ⟨u.2, "Syntax error: Bad function name"⟩
      | _, _, _ => done
    | _ => done

end

/-- Reads the next complete command of a script: `none` at the end of the text. -/
def nextChunk (ts : Tokens) : Option (Chunk × Tokens) :=
  let ts := skipNewlines ts
  match ts with
  | [] | (.eof, _) :: _ => none
  | _ =>
    match parseList (4 * ts.length + 4) .top true none ts with
    | .error e => some (.syntaxError e.line e.message, [])
    | .ok (c, rest) => some (.cmd c, rest)

/-- All complete commands of a script text whose first line is `line`, in order; the list ends at
the first syntax error, which is its last element. -/
def chunksOf (text : String) (line : Nat) : List Chunk :=
  let rec go : Nat → Tokens → List Chunk
    | 0, _ => []
    | fuel + 1, ts =>
      match nextChunk ts with
      | none => []
      | some (c, rest) => c :: go fuel rest
  let ts := Token.ofScript text line
  go (ts.length + 1) ts

end CrashTest.Shell
