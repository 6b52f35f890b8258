import CrashTest.Shell.Process
/-!
Commands the shell runs itself.

Some are *special*: an error in one ends the shell, and assignments written before one stay
after it. The others are *regular*: an error sets the status to 2 and the shell goes on, and
assignments before one last only while it runs. Reserved words are not commands but are named by
`type`.

Most of these commands only read and change the shell's state and write text; they are functions
from the state and their operands to an outcome: the state afterwards, what they write to
standard output and standard error, their status, and whether they raised an error. The shell
writes the error text first and the output after it, as its buffered output is written only when
the command is done.
-/
namespace CrashTest.Shell

open CrashTest.Os CrashTest.Text

/-- The regular commands the shell runs itself. -/
def regularBuiltins : List String :=
  ["[", "alias", "bg", "cd", "chdir", "command", "echo", "false", "fg", "getopts", "hash", "jobs",
    "kill", "printf", "pwd", "read", "test", "true", "type", "ulimit", "umask", "unalias", "wait"]

/-- What a command the shell runs itself did. -/
structure Outcome where
  state : ShellState
  /-- Bytes for standard output. -/
  out : String := ""
  /-- Bytes for standard error. -/
  err : String := ""
  status : Nat := 0
  /-- Whether the command raised an error, which ends the shell for a special command. -/
  raised : Bool := false
  deriving Inhabited

namespace Outcome

/-- An outcome with status 0 and nothing written. -/
def ok (s : ShellState) : Outcome := { state := s }

/-- Adds output. -/
def say (o : Outcome) (text : String) : Outcome := { o with out := o.out ++ text }

/-- Adds a warning of command `name`, after the shell's prefix. -/
def warn (o : Outcome) (name msg : String) : Outcome :=
  { o with err := o.err ++ shellPrefix o.state ++ name ++ ": " ++ msg ++ "\n" }

/-- Adds bytes to standard error as they are. -/
def note (o : Outcome) (text : String) : Outcome := { o with err := o.err ++ text }

/-- Sets the status. -/
def withStatus (o : Outcome) (n : Nat) : Outcome := { o with status := n }

/-- Raises an error of command `name`: the warning, status 2. -/
def raise (o : Outcome) (name msg : String) : Outcome :=
  { o.warn name msg with status := 2, raised := true }

end Outcome

/-- A text in single quotes as the shell writes it back: each run of single quotes goes in
double quotes between the quoted pieces. -/
def shellSingleQuote (s : String) : String :=
  let rec go : Nat → List Char → String
    | 0, _ => ""
    | fuel + 1, cs =>
      let plain := cs.takeWhile (· ≠ '\'')
      let rest := cs.drop plain.length
      let piece := "'" ++ String.ofList plain ++ "'"
      match rest with
      | [] => piece
      | _ =>
        let quotes := rest.takeWhile (· = '\'')
        let after := rest.drop quotes.length
        let q := "\"" ++ String.ofList quotes ++ "\""
        if after.isEmpty then piece ++ q else piece ++ q ++ go fuel after
  go (s.length + 1) s.toList

/-- Looks up an option letter in a specification such as `ab:c`, where a `:` after a letter
means it takes an argument: `some` with that flag when the letter is there. -/
def optionLetter? : List Char → Char → Option Bool
  | [], _ => none
  | x :: ':' :: rest, c => if x = c then some true else optionLetter? rest c
  | x :: rest, c => if x = c then some false else optionLetter? rest c

/-- The options of a command read as the shell reads them: single letters after a `-`, those in
`known` allowed, `--` ending them; a letter followed by `:` in `known` takes an argument. The
options found with their arguments and the operands left, or the error. -/
def shellOptions (known : String) (args : List String) :
    Except String (List (Char × Option String) × List String) :=
  go (args.length + 1) args []
where
  /-- Reads the operands left. -/
  go : Nat → List String → List (Char × Option String) →
      Except String (List (Char × Option String) × List String)
    | 0, rest, acc => .ok (acc.reverse, rest)
    | _, [], acc => .ok (acc.reverse, [])
    | fuel + 1, a :: rest, acc =>
      if a == "--" then .ok (acc.reverse, rest)
      else if a.startsWith "-" && a.length > 1 then
        match letters fuel (a.toList.drop 1) rest acc with
        | .ok (acc', rest') => go fuel rest' acc'
        | .error e => .error e
      else .ok (acc.reverse, a :: rest)
  /-- Reads the letters of one operand. -/
  letters : Nat → List Char → List String → List (Char × Option String) →
      Except String (List (Char × Option String) × List String)
    | 0, _, rest, acc => .ok (acc, rest)
    | _, [], rest, acc => .ok (acc, rest)
    | fuel + 1, c :: cs, rest, acc =>
      match optionLetter? known.toList c with
      | none => .error ("Illegal option -" ++ String.singleton c)
      | some takes =>
        if takes then
          if !cs.isEmpty then .ok ((c, some (String.ofList cs)) :: acc, rest)
          else
            match rest with
            | v :: rest' => .ok ((c, some v) :: acc, rest')
            | [] => .error ("No arg for -" ++ String.singleton c ++ " option")
        else letters fuel cs rest ((c, none) :: acc)

end CrashTest.Shell
