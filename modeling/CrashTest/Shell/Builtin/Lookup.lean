import CrashTest.Shell.Builtin.Signals
/-!
Finding what a command name stands for, and the commands that tell: `type`, `command -v` and
`command -V`, and `hash`.

A name with a slash is a path. Otherwise the shell looks, in order, for a special command, a
function (unless asked to skip functions), a regular command of its own, and last a regular file
of that name in the directories of `PATH`, in order (an empty directory meaning the working
directory). Something of that name that is not a regular file makes a failed search report
"Permission denied" instead of "not found". A program found on the path is remembered, and
`type` calls it a tracked alias from then on; assigning `PATH` forgets them all.
-/
namespace CrashTest.Shell

open CrashTest.Os CrashTest.Text

/-- What a command name stands for. -/
inductive CommandKind where
  | keyword
  | function
  | special
  | builtin
  /-- A program at this path; `tracked` when it was remembered from an earlier search. -/
  | program (path : String) (tracked : Bool)
  /-- Nothing: `denied` when something of the name was found that cannot run. -/
  | missing (denied : Bool)
  deriving DecidableEq, Repr, Inhabited

/-- The directories of a shell's search path. -/
def searchDirs (s : ShellState) : List String :=
  match s.var? "PATH" with
  | some p => p.splitOn ":"
  | none => ["/usr/local/sbin", "/usr/local/bin", "/usr/sbin", "/usr/bin", "/sbin", "/bin"]

/-- Searches the directories for a regular file named `name`: its path, or whether something
else of the name was seen. -/
def searchPath (fs : FileSystem) (cwd : String) (name : String) :
    List String → Except Bool String
  | [] => .error false
  | d :: ds =>
    let full := if d.isEmpty then name else joinPath d name
    match fs.stat cwd full with
    | some st =>
      if st.kind == .regular then .ok full
      else
        match searchPath fs cwd name ds with
        | .ok p => .ok p
        | .error _ => .error true
    | none => searchPath fs cwd name ds

/-- What a name stands for in a shell, and the shell with the program remembered if one was
found on the path. -/
def findCommand (fs : FileSystem) (cwd : String) (s : ShellState) (name : String) (skipFunctions : Bool) :
    CommandKind × ShellState :=
  if name.contains '/' then
    if (fs.stat cwd name).isSome then (.program name false, s) else (.missing false, s)
  else if specialBuiltins.contains name then (.special, s)
  else if !skipFunctions && s.funcs.any (·.1 == name) then (.function, s)
  else if regularBuiltins.contains name then (.builtin, s)
  else
    match searchPath fs cwd name (searchDirs s) with
    | .ok path =>
      let tracked := s.hashed.any (·.1 == name)
      (.program path tracked, { s with hashed := (s.hashed.filter (·.1 != name)) ++ [(name, path)] })
    | .error denied => (.missing denied, s)

/-- What `type` and `command -V` say about a name, and its status. -/
def describeVerbose (fs : FileSystem) (cwd : String) (s : ShellState) (name : String) :
    String × Nat × ShellState :=
  if reservedWords.contains name then (name ++ " is a shell keyword\n", 0, s)
  else
    match findCommand fs cwd s name false with
    | (.function, st) => (name ++ " is a shell function\n", 0, st)
    | (.special, st) => (name ++ " is a special shell builtin\n", 0, st)
    | (.builtin, st) => (name ++ " is a shell builtin\n", 0, st)
    | (.program path tracked, st) =>
      (name ++ " is " ++ (if tracked then "a tracked alias for " else "") ++ path ++ "\n", 0, st)
    | (_, st) => (name ++ ": not found\n", 127, st)

/-- What `command -v` says about a name, and its status. -/
def describeBrief (fs : FileSystem) (cwd : String) (s : ShellState) (name : String) :
    String × Nat × ShellState :=
  if reservedWords.contains name then (name ++ "\n", 0, s)
  else
    match findCommand fs cwd s name false with
    | (.program path _, st) => (path ++ "\n", 0, st)
    | (.missing _, st) => ("", 127, st)
    | (_, st) => (name ++ "\n", 0, st)

/-- The `type` command. -/
def typeCommand (fs : FileSystem) (cwd : String) (s : ShellState) (args : List String) : Outcome :=
  let (text, status, st) := args.foldl (fun (acc : String × Nat × ShellState) a =>
    let (t, code, st) := describeVerbose fs cwd acc.2.2 a
    (acc.1 ++ t, if code != 0 then code else acc.2.1, st)) ("", 0, s)
  ((Outcome.ok st).say text).withStatus status

/-- The `command` command when it only describes: with `-v` or `-V`. `none` when it is to run a
command instead: the operands of that command. -/
def commandDescribe (fs : FileSystem) (cwd : String) (s : ShellState) (args : List String) :
    Outcome ⊕ List String :=
  match shellOptions "pvV" args with
  | .error e => .inl ((Outcome.ok s).raise "command" e)
  | .ok (opts, operands) =>
    let verbose := opts.any (·.1 == 'V')
    let brief := opts.any (·.1 == 'v')
    if verbose || brief then
      match operands with
      | [] => .inl (Outcome.ok s)
      | name :: _ =>
        let (text, code, st) :=
          if verbose then describeVerbose fs cwd s name else describeBrief fs cwd s name
        .inl (((Outcome.ok st).say text).withStatus code)
    else .inr operands

/-- The `hash` command. -/
def hashCommand (fs : FileSystem) (cwd : String) (s : ShellState) (args : List String) : Outcome :=
  match shellOptions "r" args with
  | .error e => (Outcome.ok s).raise "hash" e
  | .ok (opts, names) =>
    if opts.any (·.1 == 'r') then Outcome.ok { s with hashed := [] }
    else if names.isEmpty then
      (Outcome.ok s).say (String.join (s.hashed.map fun (_, p) => p ++ "\n"))
    else
      names.foldl (fun (o : Outcome) n =>
        let st := { o.state with hashed := o.state.hashed.filter (·.1 != n) }
        match findCommand fs cwd st n false with
        | (.missing denied, st) =>
          ({ o with state := st }.warn "hash" (n ++ (if denied then ": Permission denied" else ": not found"))).withStatus 1
        | (_, st) => { o with state := st }) (Outcome.ok s)

end CrashTest.Shell
