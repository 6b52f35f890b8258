/-!
The syntax of shell scripts.

A script is a sequence of commands; a command is a simple command (assignments, words and
redirections), or a compound built from commands: sequences, `&&` and `||` lists, negation,
pipelines, background jobs, `if`, `while` and `until` loops, `for` loops, `case`, brace groups,
subshells and function definitions.

A word is a list of parts. A part is literal text or an expansion, and remembers whether it stood
between quotes: only unquoted expansions are split into fields, and only unquoted literal text
takes part in pattern matching. The text of a command substitution is kept as written and read
when it runs, the way the shell itself reads it. Script text is a byte text: one character per
byte.
-/
namespace CrashTest.Shell

/-- What a parameter expansion does. -/
inductive ParamOp where
  /-- `$x` or `${x}`: the value, or nothing. -/
  | plain
  /-- `${#x}`: the length of the value in bytes. -/
  | length
  /-- `${x-w}` and `${x:-w}`: the value, or the word when unset (or empty, with the colon). -/
  | orDefault (colon : Bool)
  /-- `${x=w}` and `${x:=w}`: as `orDefault`, also assigning the word. -/
  | orAssign (colon : Bool)
  /-- `${x+w}` and `${x:+w}`: the word when set (and not empty, with the colon), else nothing. -/
  | ifSet (colon : Bool)
  /-- `${x?w}` and `${x:?w}`: the value, or an error with the word. -/
  | orFail (colon : Bool)
  /-- `${x%p}`, `${x%%p}`: the value without its shortest (longest) suffix matching `p`. -/
  | dropSuffix (longest : Bool)
  /-- `${x#p}`, `${x##p}`: the value without its shortest (longest) prefix matching `p`. -/
  | dropPrefix (longest : Bool)
  /-- A braced expansion the shell cannot read, such as `${#x:-w}`: an error when expanded. -/
  | bad
  deriving DecidableEq, Repr, Inhabited

/-- A piece of a word. -/
inductive Part where
  /-- Literal text; `quoted` when it stood in quotes or after a backslash. -/
  | lit (s : String) (quoted : Bool)
  /-- A parameter: a name, a number or one of `$ ? # ! @ * -`; `word` is the operand of `op`. -/
  | param (name : String) (op : ParamOp) (word : List Part) (quoted : Bool)
  /-- `$(...)` or a backquoted command, with the line it starts on. -/
  | subst (script : String) (line : Nat) (quoted : Bool)
  /-- `$((...))`: the expression, itself expanded before it is evaluated. -/
  | arith (expr : List Part) (quoted : Bool)
  /-- The output of a command substitution that has already run, in place of its `subst`. -/
  | done (s : String) (quoted : Bool)
  deriving Repr, Inhabited

/-- A word: its parts in order. -/
abbrev Word := List Part

/-- How a redirection opens its target. -/
inductive RedirOp where
  /-- `>`: write, truncating; refused for an existing file under `set -C`. -/
  | write
  /-- `>|`: write, truncating, always. -/
  | clobber
  /-- `>>`: write at the end. -/
  | append
  /-- `<`: read. -/
  | read
  /-- `<>`: read and write. -/
  | readWrite
  /-- `>&`: duplicate an output descriptor, or close it with `-`. -/
  | dupOut
  /-- `<&`: duplicate an input descriptor, or close it with `-`. -/
  | dupIn
  /-- `<<` and `<<-`: a here-document; the target is its body. -/
  | heredoc (stripTabs : Bool)
  deriving DecidableEq, Repr, Inhabited

/-- A redirection of descriptor `fd`. -/
structure Redir where
  fd : Nat
  op : RedirOp
  target : Word
  deriving Repr, Inhabited

/-- A command. -/
inductive Cmd where
  /-- Assignments, words and redirections, on line `line`. -/
  | simple (line : Nat) (assigns : List (String × Word)) (words : List Word) (redirs : List Redir)
  /-- `a; b` -/
  | seq (a b : Cmd)
  /-- `a && b` -/
  | andThen (a b : Cmd)
  /-- `a || b` -/
  | orElse (a b : Cmd)
  /-- `! a` -/
  | negate (a : Cmd)
  /-- `a | b` -/
  | pipe (a b : Cmd)
  /-- `a &` -/
  | background (a : Cmd)
  /-- `if c; then t; else e; fi`; a missing `else` is `empty`. -/
  | ifThen (cond yes no : Cmd)
  /-- `while c; do b; done`, or `until` when `negated`. -/
  | loop (negated : Bool) (cond body : Cmd)
  /-- `for name in words; do body; done`; no words means the positional parameters. -/
  | forIn (name : String) (words : Option (List Word)) (body : Cmd)
  /-- `case subject in patterns) body;; esac` -/
  | caseOf (subject : Word) (arms : List (List Word × Cmd))
  /-- `{ body; }` with redirections. -/
  | group (body : Cmd) (redirs : List Redir)
  /-- `( body )` with redirections. -/
  | subshell (body : Cmd) (redirs : List Redir)
  /-- `name() body` -/
  | funcDef (name : String) (body : Cmd)
  /-- Nothing, with status 0. -/
  | empty
  deriving Repr, Inhabited

/-- A piece of a script as the shell reads it: a complete command, or the syntax error that
stopped reading, with its line. -/
inductive Chunk where
  | cmd (c : Cmd)
  | syntaxError (line : Nat) (message : String)
  deriving Repr, Inhabited

end CrashTest.Shell
