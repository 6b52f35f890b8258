import CrashTest.Shell.Syntax
/-!
Reading script text into tokens.

Tokens are words, operators (`;`, `&`, `|`, `&&`, `||`, `;;`, `(`, `)`), redirection operators
with the descriptor written before them, and line ends. Blanks separate tokens; `#` at the start
of a token begins a comment that runs to the end of the line, and a backslash before a line end
joins two lines.

Inside a word, single quotes keep everything up to the next single quote; double quotes keep
everything up to the next double quote except that `$`, the backquote and a backslash before
`$`, the backquote, `"`, `\` or a line end keep their meaning; a backslash outside quotes
quotes the next character. A `$` begins a parameter (`$name`, `$1`, `${...}`), a command
substitution `$(...)` or an arithmetic expansion `$((...))`.

A text that stops in the middle of a quote or an expansion ends in an error token, so that the
commands before it can still run.
-/
namespace CrashTest.Shell

/-- A token of script text. -/
inductive Token where
  /-- A word, with its text when it has no quotes and no expansions. -/
  | word (w : Word) (plain : Option String)
  /-- An operator. -/
  | op (s : String)
  /-- A redirection operator, with the descriptor written before it, if any. -/
  | redir (fd : Option Nat) (op : RedirOp)
  /-- A line end. -/
  | newline
  /-- The body of a here-document, read after the line end that follows its operator. -/
  | heredocBody (body : Word)
  /-- The end of the text. -/
  | eof
  /-- Text that cannot be read; the message says why. -/
  | error (message : String)
  deriving Repr, Inhabited

/-- Where a word stops. -/
inductive WordEnd where
  /-- At a blank or an operator character. -/
  | top
  /-- At the closing double quote. -/
  | dquote
  /-- At the closing brace of `${...}`. -/
  | brace (quoted : Bool)
  /-- At the end of the text (an arithmetic expression). -/
  | whole
  /-- At the end of the text (the body of a here-document). -/
  | heredoc
  deriving DecidableEq, Repr, Inhabited

/-- Characters that end an unquoted word. -/
def isMeta (c : Char) : Bool :=
  c = ' ' || c = '\t' || c = '\n' || c = ';' || c = '&' || c = '|' || c = '<' || c = '>' ||
    c = '(' || c = ')'

/-- Characters that may start a name. -/
def isNameStart (c : Char) : Bool := c.isAlpha || c = '_'

/-- Characters that may continue a name. -/
def isNameChar (c : Char) : Bool := c.isAlphanum || c = '_'

/-- Whether a text is a name: a letter or underscore, then letters, digits and underscores. -/
def isName (s : String) : Bool :=
  match s.toList with
  | c :: rest => isNameStart c && rest.all isNameChar
  | [] => false

/-- The parameters written with one special character after `$`. -/
def isSpecialParam (c : Char) : Bool :=
  c = '$' || c = '?' || c = '#' || c = '!' || c = '@' || c = '*' || c = '-' || c.isDigit

/-- The backquote character. -/
def backquote : Char := Char.ofNat 96

/-- Adds a literal character to a list of parts kept in reverse, joining it to the literal before
it when both have the same quoting. -/
def pushChar (c : Char) (quoted : Bool) : List Part → List Part
  | .lit s q :: rest => if q = quoted then .lit (s.push c) q :: rest else .lit (String.singleton c) quoted :: .lit s q :: rest
  | parts => .lit (String.singleton c) quoted :: parts

/-- The number of line ends in a list of characters. -/
def countLines (cs : List Char) : Nat := (cs.filter (· = '\n')).length

/-- Splits off the text up to the parenthesis that closes one already open, skipping quoted
text: the text inside and the rest after the closing parenthesis, or `none` if it never closes. -/
def splitParen : Nat → Nat → List Char → List Char → Option (List Char × List Char)
  | 0, _, _, _ => none
  | _ + 1, _, _, [] => none
  | fuel + 1, depth, acc, c :: rest =>
    if c = ')' then
      if depth = 0 then some (acc.reverse, rest) else splitParen fuel (depth - 1) (c :: acc) rest
    else if c = '(' then splitParen fuel (depth + 1) (c :: acc) rest
    else if c = '\\' then
      match rest with
      | d :: rest' => splitParen fuel depth (d :: c :: acc) rest'
      | [] => none
    else if c = '\'' then
      let inner := rest.takeWhile (· ≠ '\'')
      match rest.dropWhile (· ≠ '\'') with
      | q :: rest' => splitParen fuel depth (q :: (inner.reverse ++ c :: acc)) rest'
      | [] => none
    else splitParen fuel depth (c :: acc) rest

/-- Splits off the text of a backquoted command up to the closing backquote, undoing the
backslashes before `$`, the backquote and `\`. -/
def splitBackquote : Nat → List Char → List Char → Option (List Char × List Char)
  | 0, _, _ => none
  | _ + 1, _, [] => none
  | fuel + 1, acc, c :: rest =>
    if c = backquote then some (acc.reverse, rest)
    else if c = '\\' then
      match rest with
      | d :: rest' =>
        if d = '$' || d = backquote || d = '\\' then splitBackquote fuel (d :: acc) rest'
        else splitBackquote fuel (d :: c :: acc) rest'
      | [] => none
    else splitBackquote fuel (c :: acc) rest

/-- What follows `${`: the parameter, its operator, and the text after them. `word` says
whether an operand word follows, up to the closing brace; without one, the text is what follows
the closing brace. A braced expansion that cannot be read has the operator `bad`; its text up to
the closing brace is read as a word all the same. -/
structure BraceHead where
  name : String
  op : ParamOp
  word : Bool
  rest : List Char
  deriving Repr, Inhabited

/-- The operator after the parameter's name inside `${...}`. -/
def braceOperator (name : String) : List Char → BraceHead
  | '}' :: r => ⟨name, .plain, false, r⟩
  | ':' :: '}' :: r => ⟨name, .plain, true, r⟩
  | ':' :: '-' :: r => ⟨name, .orDefault true, true, r⟩
  | ':' :: '=' :: r => ⟨name, .orAssign true, true, r⟩
  | ':' :: '?' :: r => ⟨name, .orFail true, true, r⟩
  | ':' :: '+' :: r => ⟨name, .ifSet true, true, r⟩
  | ':' :: r => ⟨name, .bad, true, r⟩
  | '-' :: r => ⟨name, .orDefault false, true, r⟩
  | '=' :: r => ⟨name, .orAssign false, true, r⟩
  | '?' :: r => ⟨name, .orFail false, true, r⟩
  | '+' :: r => ⟨name, .ifSet false, true, r⟩
  | '%' :: '%' :: r => ⟨name, .dropSuffix true, true, r⟩
  | '%' :: r => ⟨name, .dropSuffix false, true, r⟩
  | '#' :: '#' :: r => ⟨name, .dropPrefix true, true, r⟩
  | '#' :: r => ⟨name, .dropPrefix false, true, r⟩
  | r => ⟨name, .bad, true, r⟩

/-- A name or a run of digits at the front: the text and what follows. -/
def takeNameOrDigits (c : Char) (rest : List Char) : String × List Char :=
  if c.isDigit then (String.ofList (c :: rest.takeWhile Char.isDigit), rest.dropWhile Char.isDigit)
  else (String.ofList (c :: rest.takeWhile isNameChar), rest.dropWhile isNameChar)

/-- Reads the parameter and operator after `${`. After `${#` a name or number asks for the length
of its value, which must be followed at once by the closing brace; so does a special parameter
with the brace right after it. Otherwise `#` is itself the parameter. -/
def braceHead : List Char → BraceHead
  | '#' :: c :: r =>
    if c = '_' || c.isAlphanum then
      let (name, after) := takeNameOrDigits c r
      match after with
      | '}' :: r' => ⟨name, .length, false, r'⟩
      | _ => ⟨name, .bad, true, after⟩
    else
      match r with
      | '}' :: r' =>
        if c = '}' then braceOperator "#" (c :: r)
        else if isSpecialParam c then ⟨String.singleton c, .length, false, r'⟩
        else ⟨"", .bad, true, r⟩
      | _ => braceOperator "#" (c :: r)
  | c :: r =>
    if c = '}' then ⟨"", .bad, true, c :: r⟩
    else if isNameStart c || c.isDigit then
      let (name, after) := takeNameOrDigits c r
      braceOperator name after
    else if isSpecialParam c then braceOperator (String.singleton c) r
    else ⟨"", .bad, true, r⟩
  | [] => ⟨"", .bad, true, []⟩

/-- The result of reading a word: its parts in order, the text after it, and the lines it took. -/
abbrev WordRead := Except String (List Part × List Char × Nat)

mutual

/-- Reads the parts of a word up to where `stop` says, with `acc` the parts so far in reverse.
`line` is the line the reading is on. -/
def readParts (fuel : Nat) (stop : WordEnd) (line : Nat) (acc : List Part) (cs : List Char) :
    WordRead :=
  match fuel with
  | 0 => .error "Syntax error: script too long"
  | fuel + 1 =>
    let done (rest : List Char) : WordRead := .ok (acc.reverse, rest, 0)
    let more (acc' : List Part) (rest : List Char) (lines : Nat) : WordRead :=
      match readParts fuel stop (line + lines) acc' rest with
      | .ok (ps, rest', n) => .ok (ps, rest', n + lines)
      | .error e => .error e
    match cs with
    | [] =>
      match stop with
      | .top | .whole | .heredoc => done []
      | .dquote => .error "Syntax error: Unterminated quoted string"
      | .brace _ => .error "Syntax error: Missing '\x7d'"
    | c :: rest =>
      match stop with
      | .top =>
        if isMeta c then done cs
        else if c = '\'' then
          let inner := rest.takeWhile (· ≠ '\'')
          match rest.dropWhile (· ≠ '\'') with
          | _ :: rest' =>
            let acc' := if inner.isEmpty then .lit "" true :: acc
              else inner.foldl (fun a d => pushChar d true a) acc
            more acc' rest' (countLines inner)
          | [] => .error "Syntax error: Unterminated quoted string"
        else if c = '"' then
          match readParts fuel .dquote line [] rest with
          | .ok (ps, rest', n) =>
            let ps := if ps.isEmpty then [.lit "" true] else ps
            more (ps.reverse ++ acc) rest' n
          | .error e => .error e
        else if c = '\\' then
          match rest with
          | '\n' :: rest' => more acc rest' 1
          | d :: rest' => more (pushChar d true acc) rest' 0
          | [] => more (pushChar '\\' false acc) [] 0
        else if c = '$' then dollar fuel stop line acc rest
        else if c = backquote then backquoted fuel stop line acc rest
        else more (pushChar c false acc) rest (if c = '\n' then 1 else 0)
      | .dquote =>
        if c = '"' then done rest
        else if c = '\\' then
          match rest with
          | '\n' :: rest' => more acc rest' 1
          | d :: rest' =>
            if d = '$' || d = backquote || d = '"' || d = '\\' then more (pushChar d true acc) rest' 0
            else more (pushChar d true (pushChar '\\' true acc)) rest' 0
          | [] => .error "Syntax error: Unterminated quoted string"
        else if c = '$' then dollar fuel stop line acc rest
        else if c = backquote then backquoted fuel stop line acc rest
        else more (pushChar c true acc) rest (if c = '\n' then 1 else 0)
      | .brace q =>
        if c = '}' then done rest
        else if c = '\'' && !q then
          let inner := rest.takeWhile (· ≠ '\'')
          match rest.dropWhile (· ≠ '\'') with
          | _ :: rest' => more (inner.foldl (fun a d => pushChar d true a) acc) rest' (countLines inner)
          | [] => .error "Syntax error: Unterminated quoted string"
        else if c = '"' then
          match readParts fuel .dquote line [] rest with
          | .ok (ps, rest', n) => more (ps.reverse ++ acc) rest' n
          | .error e => .error e
        else if c = '\\' then
          match rest with
          | '\n' :: rest' => more acc rest' 1
          | d :: rest' =>
            if !q || d = '$' || d = backquote || d = '"' || d = '\\' || d = '}' then
              more (pushChar d true acc) rest' 0
            else more (pushChar d true (pushChar '\\' true acc)) rest' 0
          | [] => .error "Syntax error: Missing '\x7d'"
        else if c = '$' then dollar fuel stop line acc rest
        else if c = backquote then backquoted fuel stop line acc rest
        else more (pushChar c q acc) rest (if c = '\n' then 1 else 0)
      | .heredoc =>
        if c = '$' then dollar fuel stop line acc rest
        else if c = backquote then backquoted fuel stop line acc rest
        else if c = '\\' then
          match rest with
          | '\n' :: rest' => more acc rest' 1
          | d :: rest' =>
            if d = '$' || d = backquote || d = '\\' then more (pushChar d true acc) rest' 0
            else more (pushChar '\\' true acc) (d :: rest') 0
          | [] => more (pushChar '\\' true acc) [] 0
        else more (pushChar c true acc) rest (if c = '\n' then 1 else 0)
      | .whole =>
        if c = '$' then dollar fuel stop line acc rest
        else if c = backquote then backquoted fuel stop line acc rest
        else if c = '\\' then
          match rest with
          | d :: rest' => more (pushChar d true acc) rest' 0
          | [] => more (pushChar '\\' true acc) [] 0
        else more (pushChar c true acc) rest (if c = '\n' then 1 else 0)

/-- Reads what follows a `$`. -/
def dollar (fuel : Nat) (stop : WordEnd) (line : Nat) (acc : List Part) (cs : List Char) :
    WordRead :=
  let quoted := stop = .dquote || stop = .brace true || stop = .whole || stop = .heredoc
  let more (acc' : List Part) (rest : List Char) (lines : Nat) : WordRead :=
    match readParts fuel stop (line + lines) acc' rest with
    | .ok (ps, rest', n) => .ok (ps, rest', n + lines)
    | .error e => .error e
  match cs with
  | '(' :: '(' :: rest =>
    match splitParen (rest.length + 1) 0 [] rest with
    | some (inner, ')' :: rest') =>
      match readParts fuel .whole line [] inner with
      | .ok (ps, _, _) => more (.arith ps quoted :: acc) rest' (countLines inner)
      | .error e => .error e
    | _ => .error "Syntax error: Missing '))'"
  | '(' :: rest =>
    match splitParen (rest.length + 1) 0 [] rest with
    | some (inner, rest') => more (.subst (String.ofList inner) line quoted :: acc) rest' (countLines inner)
    | none => .error "Syntax error: end of file unexpected (expecting \")\")"
  | '{' :: rest =>
    let h := braceHead rest
    -- a pattern to remove is read as if unquoted, even between double quotes
    let inner := match h.op with
      | .dropSuffix _ | .dropPrefix _ => false
      | _ => quoted
    if h.word then
      match readParts fuel (.brace inner) line [] h.rest with
      | .ok (ps, rest', n) =>
        -- after ${x:} the closing brace was taken as the operator, so the text up to the next
        -- brace follows the value as if it stood after the expansion
        if h.op = .plain then more (ps.reverse ++ .param h.name .plain [] quoted :: acc) rest' n
        else more (.param h.name h.op ps quoted :: acc) rest' n
      | .error e => .error e
    else more (.param h.name h.op [] quoted :: acc) h.rest 0
  | c :: rest =>
    if isNameStart c then
      let name := String.ofList (c :: rest.takeWhile isNameChar)
      more (.param name .plain [] quoted :: acc) (rest.dropWhile isNameChar) 0
    else if isSpecialParam c then more (.param (String.singleton c) .plain [] quoted :: acc) rest 0
    else more (pushChar '$' quoted acc) cs 0
  | [] => more (pushChar '$' quoted acc) [] 0

/-- Reads a backquoted command substitution. -/
def backquoted (fuel : Nat) (stop : WordEnd) (line : Nat) (acc : List Part) (cs : List Char) :
    WordRead :=
  let quoted := stop = .dquote || stop = .brace true || stop = .whole || stop = .heredoc
  match splitBackquote (cs.length + 1) [] cs with
  | some (inner, rest) =>
    match readParts fuel stop (line + countLines inner) (.subst (String.ofList inner) line quoted :: acc) rest with
    | .ok (ps, rest', n) => .ok (ps, rest', n + countLines inner)
    | .error e => .error e
  | none => .error "Syntax error: EOF in backquote substitution"

end

/-- The text of a word written with no quotes and no expansions. -/
def plainText : Word → Option String
  | [] => none
  | [.lit s false] => some s
  | _ => none

/-- A token with the line it starts on. -/
abbrev Located := Token × Nat

/-- The redirection operator at the front of the text, if any, with the text after it. -/
def redirOp : List Char → Option (RedirOp × List Char)
  | '>' :: '>' :: rest => some (.append, rest)
  | '>' :: '&' :: rest => some (.dupOut, rest)
  | '>' :: '|' :: rest => some (.clobber, rest)
  | '>' :: rest => some (.write, rest)
  | '<' :: '<' :: '-' :: rest => some (.heredoc true, rest)
  | '<' :: '<' :: rest => some (.heredoc false, rest)
  | '<' :: '>' :: rest => some (.readWrite, rest)
  | '<' :: '&' :: rest => some (.dupIn, rest)
  | '<' :: rest => some (.read, rest)
  | _ => none

/-- The operator at the front of the text, if any, with the text after it. -/
def controlOp : List Char → Option (String × List Char)
  | '&' :: '&' :: rest => some ("&&", rest)
  | '|' :: '|' :: rest => some ("||", rest)
  | ';' :: ';' :: rest => some (";;", rest)
  | '&' :: rest => some ("&", rest)
  | '|' :: rest => some ("|", rest)
  | ';' :: rest => some (";", rest)
  | '(' :: rest => some ("(", rest)
  | ')' :: rest => some (")", rest)
  | _ => none

/-- A here-document waiting for its body: the delimiter, whether any of it was quoted, and
whether leading tabs are stripped. -/
structure PendingDoc where
  delimiter : List Char
  quoted : Bool
  stripTabs : Bool
  deriving Repr, Inhabited

/-- The delimiter a word spells, and whether any of it was quoted. -/
def delimiterOf (w : Word) : List Char × Bool :=
  w.foldl (fun (acc : List Char × Bool) p => match p with
    | .lit s q => (acc.1 ++ s.toList, acc.2 || q)
    | _ => acc) ([], false)

/-- Reads the lines of a here-document body up to the delimiter line: the body, the text after
the delimiter line, and the lines taken. The end of the text also ends the body. -/
def readDocLines (doc : PendingDoc) : Nat → List Char → List Char → List Char × List Char × Nat
  | 0, acc, rest => (acc, rest, 0)
  | fuel + 1, acc, rest =>
    if rest.isEmpty then (acc, [], 0)
    else
      let raw := rest.takeWhile (· ≠ '\n')
      let ended := raw.length < rest.length
      let after := rest.drop (raw.length + 1)
      let line := if doc.stripTabs then raw.dropWhile (· = '\t') else raw
      if line = doc.delimiter then (acc, after, 1)
      else
        let acc := acc ++ line ++ (if ended then ['\n'] else [])
        let (body, rest', n) := readDocLines doc fuel acc after
        (body, rest', n + 1)

/-- The body of a here-document as a word: literal when its delimiter was quoted, otherwise with
its parameters, command substitutions and arithmetic, starting on line `line`. -/
def docWord (doc : PendingDoc) (line : Nat) (body : List Char) : Word :=
  if doc.quoted then [.lit (String.ofList body) true]
  else
    match readParts (body.length + 1) .heredoc line [] body with
    | .ok (ps, _, _) => if ps.isEmpty then [.lit "" true] else ps
    | .error _ => [.lit (String.ofList body) true]

/-- Reads the bodies of the waiting here-documents after a line end, starting on line `line`:
their tokens, the text after them, and the lines they took. -/
def readDocs (line : Nat) : List PendingDoc → List Char → List Located × List Char × Nat
  | [], rest => ([], rest, 0)
  | d :: ds, rest =>
    let (body, rest', n) := readDocLines d (rest.length + 1) [] rest
    let (ts, rest'', m) := readDocs (line + n) ds rest'
    ((.heredocBody (docWord d line body), line) :: ts, rest'', n + m)

/-- Reads all tokens of a text, starting on line `line`, with here-documents `docs` waiting for
their bodies; the list ends with `eof` or `error`. -/
def tokenize : Nat → Nat → List PendingDoc → List Char → List Located
  | 0, line, _, _ => [(.error "Syntax error: script too long", line)]
  | fuel + 1, line, docs, cs =>
    match cs with
    | [] => [(.eof, line)]
    | c :: rest =>
      if c = ' ' || c = '\t' then tokenize fuel line docs rest
      else if c = '\\' && rest.head? = some '\n' then tokenize fuel (line + 1) docs (rest.drop 1)
      else if c = '#' then tokenize fuel line docs (rest.dropWhile (· ≠ '\n'))
      else if c = '\n' then
        let (bodies, rest', n) := readDocs (line + 1) docs rest
        (.newline, line) :: bodies ++ tokenize fuel (line + 1 + n) [] rest'
      else
        let digits := cs.takeWhile Char.isDigit
        let afterDigits := cs.dropWhile Char.isDigit
        let redir : Option (Option Nat × RedirOp × List Char) :=
          match redirOp cs with
          | some (op, rest') => some (none, op, rest')
          | none =>
            if digits.isEmpty then none
            else (redirOp afterDigits).map fun (op, rest') => (some (String.ofList digits).toNat!, op, rest')
        match redir with
        | some (fd, .heredoc strip, rest') =>
          let rest' := rest'.dropWhile (fun d => d = ' ' || d = '\t')
          match readParts (rest'.length + 1) .top line [] rest' with
          | .ok (ps@(_ :: _), rest'', n) =>
            let (delim, quoted) := delimiterOf ps
            (.redir fd (.heredoc strip), line) :: (.word ps none, line) ::
              tokenize fuel (line + n) (docs ++ [⟨delim, quoted, strip⟩]) rest''
          | .ok ([], _, _) => (.redir fd (.heredoc strip), line) :: tokenize fuel line docs rest'
          | .error e => [(.error e, line)]
        | some (fd, op, rest') => (.redir fd op, line) :: tokenize fuel line docs rest'
        | none =>
          match controlOp cs with
          | some (op, rest') => (.op op, line) :: tokenize fuel line docs rest'
          | none =>
            match readParts (cs.length + 1) .top line [] cs with
            | .ok (ps, rest', n) => (.word ps (plainText ps), line) :: tokenize fuel (line + n) docs rest'
            | .error e => [(.error e, line)]

/-- Puts each here-document body in place of its delimiter word, in order; a here-document
whose body never came has an empty one. -/
def attachDocs (ts : List Located) : List Located :=
  let bodies := ts.filterMap fun (t, _) => match t with
    | .heredocBody b => some b
    | _ => none
  let rec go : List Located → List Word → List Located
    | [], _ => []
    | (.redir fd (.heredoc s), l) :: (.word _ _, l2) :: rest, bs =>
      match bs with
      | b :: bs' => (.redir fd (.heredoc s), l) :: (.word b none, l2) :: go rest bs'
      | [] => (.redir fd (.heredoc s), l) :: (.word [.lit "" true] none, l2) :: go rest []
    | (.heredocBody _, _) :: rest, bs => go rest bs
    | t :: rest, bs => t :: go rest bs
  go ts bodies

/-- The tokens of a script text. -/
def Token.ofScript (text : String) (firstLine : Nat) : List Located :=
  attachDocs (tokenize (text.length + 2) firstLine [] text.toList)

end CrashTest.Shell
