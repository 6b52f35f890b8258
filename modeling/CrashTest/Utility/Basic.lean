import CrashTest.Os.Files
/-!
The small programs of the machine: what they are given and what they do.

A program that does its work at once is a function from an invocation (the name it was started
as, its operands, environment, working directory, standard input and the file system) to an
effect: the bytes it writes to standard output and standard error, in order, the file system
afterwards, and its exit status. All text is byte text.

The programs read their options the way the GNU option reader does: options may stand anywhere
among the operands unless the program asks otherwise, `--` ends them, letters may be grouped
(`-lw`), an option's argument may be glued to it (`-n5`) or be the next operand, and a long
option (`--lines=5`) may be shortened to any prefix that names only one. Their messages start with
the name they were started as.

Three quoting styles appear in messages: curved quotes (`‘x’`) for values, and for file names
either single quotes only when the name needs them or single quotes always.
-/
namespace CrashTest.Utility

open CrashTest.Os CrashTest.Text

/-- What a program is started with. -/
structure Invocation where
  /-- The name it was started as, which its messages begin with. -/
  name : String
  args : List String
  env : List (String × String)
  cwd : String
  /-- Its standard input, all of it. -/
  input : String
  fs : FileSystem
  deriving Inhabited

/-- What a program did. -/
structure Effect where
  /-- Bytes written, in order, to descriptor 1 or 2. -/
  writes : List (Nat × String) := []
  fs : FileSystem
  code : Nat := 0
  deriving Inhabited

namespace Effect

/-- The effect of a program that has done nothing yet. -/
def start (inv : Invocation) : Effect := { fs := inv.fs }

/-- Writes to standard output. -/
def say (e : Effect) (s : String) : Effect :=
  if s.isEmpty then e else { e with writes := e.writes ++ [(1, s)] }

/-- Writes a line to standard error. -/
def complain (e : Effect) (line : String) : Effect := { e with writes := e.writes ++ [(2, line ++ "\n")] }

/-- Sets the exit status. -/
def exit (e : Effect) (code : Nat) : Effect := { e with code := code }

/-- Writes a line to standard error and sets the exit status to 1. -/
def fail (e : Effect) (line : String) : Effect := (e.complain line).exit 1

end Effect

/-- A text in curved quotes. -/
def curvedQuote (s : String) : String := "\xe2\x80\x98" ++ s ++ "\xe2\x80\x99"

/-- Whether a byte may stand in a file name without quotes. -/
def plainNameChar (first : Bool) (c : Char) : Bool :=
  c.isAlphanum || "%+,-./:=@_^".contains c || c.toNat ≥ 128 || (!first && (c = '~' || c = '#'))

/-- A file name in single quotes, a single quote inside written as `'\''`. -/
def singleQuoted (s : String) : String := "'" ++ "'\\''".intercalate (s.splitOn "'") ++ "'"

/-- A file name as messages show it: as it is when it needs no quotes, else in single quotes. -/
def nameQuote (s : String) : String :=
  match s.toList with
  | [] => "''"
  | c :: cs => if plainNameChar true c && cs.all (plainNameChar false) then s else singleQuoted s

/-- A file name in single quotes always. -/
def nameQuoteAlways (s : String) : String := singleQuoted s

/-- An option a program knows: its letter, whether it takes an argument, and its long name. -/
structure OptionSpec where
  letter : Char
  takesArg : Bool := false
  long : String := ""
  deriving Repr, Inhabited

/-- Options read from the operands: each option's letter and argument, in order, and the
operands left. -/
structure ReadOptions where
  options : List (Char × Option String)
  operands : List String
  deriving Repr, Inhabited

namespace ReadOptions

/-- Whether an option was given. -/
def has (r : ReadOptions) (c : Char) : Bool := r.options.any (·.1 == c)

/-- The argument of the last occurrence of an option. -/
def last? (r : ReadOptions) (c : Char) : Option String :=
  (r.options.filter (·.1 == c)).getLast?.bind (·.2)

end ReadOptions

/-- The message of an option the program does not know, with the help line. -/
def usageError (name : String) (message : String) : String :=
  name ++ ": " ++ message ++ "\nTry '" ++ name ++ " --help' for more information."

/-- Reads the options of a program. With `inOrder`, the first operand ends the options; `stop`
may also end them at an operand it picks (such as a negative number). The error is the message
to print. -/
def readOptions (name : String) (specs : List OptionSpec) (inOrder : Bool)
    (stop : String → Bool) (args : List String) : Except String ReadOptions :=
  go (args.length + 1) args [] []
where
  /-- Reads the operands left, with the options and operands found so far (reversed). -/
  go : Nat → List String → List (Char × Option String) → List String → Except String ReadOptions
    | 0, rest, opts, ops => .ok ⟨opts.reverse, ops.reverse ++ rest⟩
    | _, [], opts, ops => .ok ⟨opts.reverse, ops.reverse⟩
    | fuel + 1, a :: rest, opts, ops =>
      if a == "--" then .ok ⟨opts.reverse, ops.reverse ++ rest⟩
      else if a.startsWith "--" then
        let body := (a.drop 2).toString
        let (lname, value) := match body.splitOn "=" with
          | [n] => (n, none)
          | n :: vs => (n, some ("=".intercalate vs))
          | [] => (body, none)
        let exact := specs.filter (·.long == lname)
        let candidates := if exact.isEmpty then specs.filter fun s =>
            !s.long.isEmpty && s.long.startsWith lname else exact
        match candidates with
        | [s] =>
          if s.takesArg then
            match value with
            | some v => go fuel rest ((s.letter, some v) :: opts) ops
            | none =>
              match rest with
              | v :: rest' => go fuel rest' ((s.letter, some v) :: opts) ops
              | [] => .error (usageError name ("option '--" ++ s.long ++ "' requires an argument"))
          else
            match value with
            | some _ => .error (usageError name ("option '--" ++ s.long ++ "' doesn't allow an argument"))
            | none => go fuel rest ((s.letter, none) :: opts) ops
        | [] => .error (usageError name ("unrecognized option '" ++ a ++ "'"))
        | _ => .error (usageError name ("option '" ++ a ++ "' is ambiguous"))
      else if a.startsWith "-" && a.length > 1 && !stop a then
        match shorts a.length (a.toList.drop 1) rest opts with
        | .ok (opts', rest') => go fuel rest' opts' ops
        | .error e => .error e
      else if inOrder then .ok ⟨opts.reverse, ops.reverse ++ a :: rest⟩
      else go fuel rest opts (a :: ops)
  /-- Reads a group of short options. -/
  shorts : Nat → List Char → List String → List (Char × Option String) →
      Except String (List (Char × Option String) × List String)
    | 0, _, rest, opts => .ok (opts, rest)
    | _, [], rest, opts => .ok (opts, rest)
    | fuel + 1, c :: cs, rest, opts =>
      match specs.find? (·.letter == c) with
      | none => .error (usageError name ("invalid option -- '" ++ String.singleton c ++ "'"))
      | some s =>
        if s.takesArg then
          if !cs.isEmpty then .ok ((c, some (String.ofList cs)) :: opts, rest)
          else
            match rest with
            | v :: rest' => .ok ((c, some v) :: opts, rest')
            | [] => .error (usageError name ("option requires an argument -- '" ++ String.singleton c ++ "'"))
        else shorts fuel cs rest ((c, none) :: opts)

/-- The effect of a program whose options could not be read. -/
def optionFailure (inv : Invocation) (message : String) (code : Nat) : Effect :=
  ((Effect.start inv).complain message).exit code

/-- The lines of a byte text, each with its line end; a last line without one is kept. -/
def linesOf (s : String) : List String :=
  let parts := s.splitOn "\n"
  match parts.reverse with
  | "" :: before => before.reverse.map (· ++ "\n")
  | last :: before => before.reverse.map (· ++ "\n") ++ [last]
  | [] => []

/-- Reads a file for a program: its bytes, or the system's words for why it cannot. -/
def readFileText (inv : Invocation) (path : String) : Except FileError String :=
  (inv.fs.read inv.cwd path).map ofBytes

/-- The value of a variable in the environment. -/
def envLookup (env : List (String × String)) (name : String) : Option String :=
  (env.find? (·.1 == name)).map (·.2)

end CrashTest.Utility
