import CrashTest.Os.World
import CrashTest.Utility.Run
/-!
Starting programs.

A program name with a slash is a path; any other is searched for in the directories of `PATH`
(by default `/bin` and `/usr/bin`), where the first executable file of that name wins, and a
name found only as something that cannot run fails with "Permission denied". What the path leads
to decides what runs: an installed program; a script whose first line starts with `#!`, which
runs the interpreter named there (with the one operand written after it, if any) on the script;
or a file with no such line, which fails with "Exec format error" unless the starter falls back
to the shell for it, as shells and `env` do. A file without an execute bit, a directory or a
device fails with "Permission denied", and so does a start whose working directory does not
exist.

A started shell reads its script from `-c`, from a file, or from its standard input. `sleep`
sleeps. `env` runs its command in the environment it makes. The other programs do their work at
once and end: their messages go out first and their buffered output after, so that an output
that cannot be written is reported as a write error at the end.
-/
-- Powers of numbers are the core ones, also where Mathlib's monoid powers are in scope.
attribute [local instance (high)] instPowNat

namespace CrashTest.Os

open CrashTest.Text CrashTest.Shell CrashTest.Utility

/-- What to start. -/
structure Launch where
  program : String
  argv0 : String
  args : List String
  env : List (String × String)
  cwd : String
  fds : FdTable
  ignored : List Nat
  parent : Option Nat
  /-- Whether a file with no `#!` line runs as a shell script. -/
  fallback : Bool := false
  deriving Repr, Inhabited

/-- The directories searched for a program name, from the `PATH` of an environment. -/
def programDirs (env : List (String × String)) : List String :=
  match env.find? (·.1 == "PATH") with
  | some (_, p) => p.splitOn ":"
  | none => ["/bin", "/usr/bin"]

/-- Whether an entry may be run. -/
def Entry.runnable : Entry → Bool
  | .program _ => true
  | .file _ m => m &&& 0o111 != 0
  | _ => false

/-- The path a program name leads to: itself when it has a slash, else the first runnable
entry of that name in the directories, failing with "Permission denied" when only something
else of that name was seen. -/
def locateProgram (fs : FileSystem) (cwd : String) (dirs : List String) (name : String) :
    Except FileError String :=
  if name.isEmpty then .error .noEntry
  else if name.contains '/' then .ok name
  else
    let tries := dirs.map fun d =>
      let full := if d.isEmpty then name else joinPath d name
      (full, fs.find? cwd full)
    match tries.find? (fun (_, e) => e.any Entry.runnable) with
    | some (full, _) => .ok full
    | none => if tries.any (fun (_, e) => e.isSome) then .error .denied else .error .noEntry

/-- The interpreter line of a script: the interpreter and its one operand, if the file starts
with `#!`. -/
def interpreterOf (data : Bytes) : Option (String × Option String) :=
  match data with
  | 35 :: 33 :: rest =>
    let line := (ofBytes (rest.takeWhile (· != 10))).toList
    let blank := fun (c : Char) => c = ' ' || c = '\t'
    let line := line.dropWhile blank
    let interp := line.takeWhile (!blank ·)
    let operand := ((line.drop interp.length).dropWhile blank).reverse.dropWhile blank |>.reverse
    some (String.ofList interp, if operand.isEmpty then none else some (String.ofList operand))
  | _ => none

/-- A duration written for `sleep`: a non-negative number with an optional unit `s`, `m`, `h`
or `d`, in nanoseconds rounded up; `none` for a text that is not one, and a very long time for
infinity. -/
def sleepNanos? (s : String) : Option Nat :=
  let r := readFloat s.toList
  let unit : Option Nat := match r.rest with
    | [] | ['s'] => some 1
    | ['m'] => some 60
    | ['h'] => some 3600
    | ['d'] => some 86400
    | _ => none
  if !r.converted then none
  else
    match unit, r.value with
    | some u, .finite x =>
      if x.neg && !x.isZero then none
      else
        let (num, den) := x.fraction
        some ((num * u * 1000000000 + den - 1) / den)
    | some _, .inf false => some (10 ^ (20 : Nat))
    | _, _ => none

/-- Whether a program's standard output goes out as it is written rather than at its end. -/
def unbufferedOutput : Tool → Bool
  | .cat | .tee | .yes => true
  | _ => false

/-- The variables a shell starts with and the names it exports: those it was given, all
exported; `IFS`, `OPTIND` and `PPID` set afresh; prompts and a search path when none was given;
and `PWD`, exported, naming the working directory. -/
def shellVars (env : List (String × String)) (cwd : String) (ppid : Nat) :
    List (String × String) × List String :=
  let pwd := match env.find? (·.1 == "PWD") with
    | some (_, p) => if p.startsWith "/" && normalize "/" p == cwd then p else cwd
    | none => cwd
  let fresh : List (String × String) := [("IFS", " \t\n"), ("OPTIND", "1"), ("PPID", toString ppid)]
  let defaults : List (String × String) :=
    [("PS1", "# "), ("PS2", "> "), ("PS4", "+ "),
      ("PATH", "/usr/local/sbin:/usr/local/bin:/usr/sbin:/usr/bin:/sbin:/bin")]
  let given := env.filter fun (k, _) => k != "PWD" && !fresh.any (·.1 == k)
  let vars := given ++ fresh ++ defaults.filter (fun (k, _) => !env.any (·.1 == k)) ++ [("PWD", pwd)]
  (vars.reverse, (env.map (·.1)).filter (· != "PWD") ++ ["PWD"])

/-- Reads a shell's own options: the options set, whether `-c` was given, and the operands left;
or the message of an option it does not know. -/
def shellStartOptions : Nat → List String → List String → Bool →
    Except String (List String × Bool × List String)
  | 0, rest, opts, c => .ok (opts, c, rest)
  | _, [], opts, c => .ok (opts, c, [])
  | fuel + 1, a :: rest, opts, c =>
    match a.toList with
    | ['-'] | ['-', '-'] => .ok (opts, c, rest)
    | sign :: letters =>
      if sign != '-' && sign != '+' then .ok (opts, c, a :: rest)
      else
        let on := sign == '-'
        let rec letterLoop : List Char → List String → Bool → List String →
            Except String (List String × Bool × List String)
          | [], opts, c, rest => .ok (opts, c, rest)
          | l :: ls, opts, c, rest =>
            if l == 'c' then letterLoop ls opts (c || on) rest
            else if l == 's' || l == 'l' then letterLoop ls opts c rest
            else if l == 'o' then
              match rest with
              | name :: more =>
                if optionTable.any (·.2 == name) then
                  letterLoop ls (if on then opts ++ [name] else opts.filter (· != name)) c more
                else .error ("Illegal option -o " ++ name)
              | [] => letterLoop ls opts c []
            else
              match optionTable.find? (·.1 == some l) with
              | some (_, name) => letterLoop ls (if on then opts ++ [name] else opts.filter (· != name)) c rest
              | none => .error ("Illegal option " ++ String.singleton sign ++ String.singleton l)
        match letterLoop letters opts c rest with
        | .ok (opts, c, rest') => shellStartOptions fuel rest' opts c
        | .error e => .error e
    | [] => .ok (opts, c, a :: rest)

namespace World

/-- A shell's state when it starts with these arguments: `-c` and a script, with optional name
and positional parameters; or a script file; or nothing, reading the script from standard input.
The message and status when it cannot start. -/
def shellFor (w : World) (pid : Nat) (argv0 : String) (args : List String)
    (env : List (String × String)) (cwd : String) (ppid : Nat) : Except (String × Nat) ShellState :=
  match shellStartOptions (args.length + 1) args [] false with
  | .error e => .error (argv0 ++ ": 0: " ++ e ++ "\n", 2)
  | .ok (opts, command, rest) =>
    let (vars, exported) := shellVars env cwd ppid
    let base := fun (script : String) (name : String) (params : List String) (named : Bool) =>
      ({ vars := vars, exported := exported, arg0 := name, args := params, rootPid := pid,
         options := opts, stack := [.chunks (chunksOf script 1) false],
         commandName := if named then some name else none } : ShellState)
    if command then
      match rest with
      | script :: name :: params => .ok (base script name params true)
      | [script] => .ok (base script argv0 [] false)
      | [] => .error (argv0 ++ ": 0: -c requires an argument\n", 2)
    else
      match rest with
      | file :: params =>
        match w.fs.read cwd file with
        | .ok bs => .ok (base (ofBytes bs) file params true)
        | .error e =>
          let why := if e == .noEntry || e == .notDir then "No such file" else e.text
          .error (argv0 ++ ": 0: cannot open " ++ file ++ ": " ++ why ++ "\n", 2)
      | [] => .ok (base (ofBytes (w.stdinOf pid)) argv0 [] false)

/-- The process with this pid made ready to run a newly started program. -/
def placeProc (w : World) (pid : Nat) (l : Launch) : World :=
  let cwd := normalize "/" l.cwd
  if (w.proc? pid).isSome then
    w.modifyProc pid fun p =>
      { p with fds := l.fds, ignored := l.ignored, cwd := cwd, env := l.env, program := .ended }
  else
    let p : Proc :=
      { pid := pid, parent := l.parent, program := .ended, fds := l.fds, ignored := l.ignored,
        cwd := cwd, env := l.env, readyAt := w.now }
    { w with procs := w.procs ++ [p] }

/-- Carries out what a program did and ends it: its file changes, its messages, then its output
(in order with the messages when it writes at once); an output that cannot be written ends it
with status 1 and a write error. -/
def applyEffect (w : World) (pid : Nat) (name : String) (inOrder : Bool) (e : Effect) : World :=
  let w := { w with fs := e.fs }
  let writes := if inOrder then e.writes
    else e.writes.filter (·.1 != 1) ++ e.writes.filter (·.1 == 1)
  let (w, failure) := writes.foldl (fun (acc : World × Option FileError) (n, text) =>
    let (w, failure) := acc
    if n == 1 && failure.isSome then (w, failure)
    else
      match w.tryWriteFd pid n (bytesOf text) with
      | (w', none) => (w', failure)
      | (w', some err) => if n == 1 then (w', some err) else (w', failure)) (w, none)
  match failure with
  | some err =>
    (w.writeText pid 2 (name ++ ": write error: " ++ err.text ++ "\n")).finish pid (.code 1)
  | none => w.finish pid (.code e.code)

mutual

/-- Runs a program in a placed process. `env` starts its command in the same process, which is
why this takes fuel. -/
def runProgram (w : World) (pid : Nat) (fuel : Nat) (t : Tool) (l : Launch) : World :=
  let cwd := normalize "/" l.cwd
  let inv : Invocation :=
    { name := l.argv0, args := l.args, env := l.env, cwd := cwd, input := ofBytes (w.stdinOf pid),
      fs := w.fs }
  match t with
  | .shell =>
    let ppid := match l.parent with
      | some p => p
      | none => 1
    match w.shellFor pid l.argv0 l.args l.env cwd ppid with
    | .ok s => w.modifyProc pid fun p => { p with program := .shell s }
    | .error (msg, code) => (w.writeText pid 2 msg).finish pid (.code code)
  | .sleep =>
    match readOptions l.argv0 [] false (fun _ => false) l.args with
    | .error m => applyEffect w pid l.argv0 false (optionFailure inv m 1)
    | .ok r =>
      match r.operands with
      | [] => applyEffect w pid l.argv0 false (optionFailure inv (usageError l.argv0 "missing operand") 1)
      | ops =>
        match ops.find? (sleepNanos? · |>.isNone) with
        | some bad =>
          applyEffect w pid l.argv0 false
            (optionFailure inv (usageError l.argv0 ("invalid time interval " ++ curvedQuote bad)) 1)
        | none =>
          let ns := (ops.filterMap sleepNanos?).foldr (· + ·) 0
          w.modifyProc pid fun p => { p with program := .sleeper (w.now + ns) }
  | .env =>
    match envPlan inv with
    | .finish e => applyEffect w pid l.argv0 false e
    | .exec env dir command =>
      match fuel, command with
      | fuel' + 1, prog :: rest =>
        let next : Launch :=
          { l with program := prog, argv0 := prog, args := rest, env := env, cwd := dir, fallback := true }
        match startIn w pid fuel' next with
        | .ok w' => w'
        | .error err =>
          let code := if err == .noEntry then 127 else 126
          applyEffect w pid l.argv0 false
            (((Effect.start inv).complain (l.argv0 ++ ": " ++ curvedQuote prog ++ ": " ++ err.text)).exit code)
      | _, _ => w.finish pid (.code 126)
  | t => applyEffect w pid l.argv0 (unbufferedOutput t) (runTool t inv)
termination_by (fuel, 0)

/-- Starts a program in the process with this pid, replacing whatever it ran: the machine, or
why the program could not start. -/
def startIn (w : World) (pid : Nat) (fuel : Nat) (l : Launch) : Except FileError World := do
  match w.fs.find? "/" l.cwd with
  | some (.dir _) => pure ()
  | some _ => throw .notDir
  | none => throw .noEntry
  let path ← locateProgram w.fs l.cwd (programDirs l.env) l.program
  match w.fs.find? l.cwd path with
  | none => throw .noEntry
  | some (.program t) => return runProgram (w.placeProc pid l) pid fuel t l
  | some (.file data mode) =>
    if mode &&& 0o111 == 0 then throw .denied
    match fuel with
    | 0 => throw .loop
    | fuel' + 1 =>
      match interpreterOf data with
      | some (interp, operand) =>
        if interp.isEmpty then throw .noExec
        let next : Launch :=
          { l with program := interp, argv0 := interp, args := operand.toList ++ [path] ++ l.args,
                   fallback := false }
        startIn w pid fuel' next
      | none =>
        if l.fallback then
          let next : Launch :=
            { l with program := "/bin/sh", argv0 := "/bin/sh", args := path :: l.args, fallback := false }
          startIn w pid fuel' next
        else throw .noExec
  | some _ => throw .denied
termination_by (fuel, 1)

end

/-- Starts a program in the process with this pid, replacing whatever it ran. -/
def start (w : World) (pid : Nat) (l : Launch) : Except FileError World := w.startIn pid 8 l

/-- Starts a program in a new process; returns its pid. -/
def spawn (w : World) (l : Launch) : Except FileError (World × Nat) := do
  let pid := w.nextPid
  let w' ← { w with nextPid := w.nextPid + 1 }.start pid l
  return (w', pid)

end World

end CrashTest.Os
