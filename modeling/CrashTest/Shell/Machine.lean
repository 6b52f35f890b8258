import CrashTest.Os.Spawn
import CrashTest.Shell.Redirect
import CrashTest.Shell.Builtin.Lookup
import CrashTest.Text.Echo
import CrashTest.Condition.Shell
/-!
The shell as a machine.

A shell process holds a stack of frames, innermost first. One step pops the top frame and does
what it says: running a command pushes the frames for its parts, and the frames left behind say
what happens once those parts are done (test a status, loop again, put back descriptors,
variables or positional parameters, end a trap, a sourced script or the shell).

A simple command runs in the shell's order: its words are expanded, then its redirections made,
then its assignments expanded and made, then it is traced under `set -x`, and last the name is
looked up and run. Assignments stay for a special command and when there is no command; for
anything else they hold only while it runs, and programs see them in their environment. An
expansion that fails ends the shell with status 2; so does an error of a special command, and a
redirection that fails for one. Any other command that fails to start or to redirect has status 2
(126 or 127 for a program that cannot run or cannot be found) and the shell goes on.

A shell that starts a child, whether a program, a subshell, a command substitution or one side
of a pipeline, records what it waits for and makes no step until the child has ended; for a
command substitution also until nobody writes to its pipe any more. The command that needs the
substitution's output stays on top of the stack; once the output is there it replaces the
substitution in the command, and the command runs again, finding its next substitution or none.

A signal the shell has a trap for is noted and handled between commands: after the command
running at the time, a foreground child included, has finished; only the `wait` command is cut
short by it. Under `set -e` a simple command, pipeline or subshell that fails ends the shell,
unless its status is being tested.
-/
namespace CrashTest.Shell

open CrashTest.Os CrashTest.Text CrashTest.Condition CrashTest.Utility

/-! ## Failures -/

/-- Ends the shell after an expansion failed. -/
def expansionFailed (w : World) (pid : Nat) (s : ShellState) : ExpandError → World
  | .fail m => leave (report w pid s m) pid s 2
  | .malformed m => leave (report w pid s ("Syntax error: " ++ m)) pid s 2
  | .killed sig => w.finish pid (.signaled sig)

/-- The status and the words of a program that could not be started. -/
def execFailure (e : FileError) : Nat × String :=
  let status := match e with
    | .denied => 126
    | .noEntry => 127
    | _ => 2
  let words := match e with
    | .noEntry | .notDir => "not found"
    | e => e.text
  (status, words)

/-- Writes what a command the shell runs itself produced and stores its state: its messages
first, then its output. Output that cannot be written draws an I/O error and sets the low bit of
the status. An error raised by a special command ends the shell. -/
def applyOutcome (w : World) (pid : Nat) (name : String) (special : Bool) (o : Outcome) : World :=
  let w := w.writeText pid 2 o.err
  let (w, failed) := w.tryWriteFd pid 1 (bytesOf o.out)
  let (w, status) := match failed with
    | some _ => (w.writeText pid 2 (shellPrefix o.state ++ name ++ ": " ++ name ++ ": I/O error\n"), o.status ||| 1)
    | none => (w, o.status)
  if o.raised && special then leave w pid o.state 2
  else w.putShell pid { o.state with status := status }

/-! ## Assignments and tracing -/

/-- Expands and makes the assignments of a command in order, each seeing the ones before: the
shell, the values, and what the names held before; or the failed expansion, or the message of a
read-only name. -/
def makeAssignments (s : ShellState) :
    List (String × Word) → Except (ExpandError ⊕ String) (ShellState × List (String × String) × List SavedVar)
  | [] => .ok (s, [], [])
  | (n, word) :: rest =>
    match expandValue s word with
    | .error e => .error (.inl e)
    | .ok (v, s) =>
      let saved : SavedVar := ⟨n, s.var? n, s.exported.contains n⟩
      match s.assign n v with
      | .error m => .error (.inr m)
      | .ok s =>
        match makeAssignments s rest with
        | .ok (s, vals, saves) => .ok (s, (n, v) :: vals, saved :: saves)
        | .error e => .error e

/-- Marks assigned names exported, for assignments that hold only while a command runs. -/
def exportAll (s : ShellState) (vals : List (String × String)) : ShellState :=
  vals.foldl (fun st (n, _) => st.exportName n) s

/-- The trace line of a command under `set -x`: `PS4`, then the assignments and the words. -/
def traceLine (s : ShellState) (vals : List (String × String)) (fields : List String) : String :=
  (s.var? "PS4").getD "" ++ " ".intercalate (vals.map (fun (n, v) => n ++ "=" ++ v) ++ fields) ++ "\n"

/-! ## Loops, returns and sourced text -/

/-- Leaves `n` enclosing loops (`break`), or the innermost `n - 1` of them and goes on with the
next round of the `n`-th (`continue`). -/
def leaveLoops (w : World) (pid : Nat) (s : ShellState) (again : Bool) : Nat → World
  | 0 => w.putShell pid { s with status := 0 }
  | n + 1 =>
    -- with no loop around (in this function), nothing happens
    let inLoop := (s.stack.takeWhile (!·.isCall)).any Frame.isLoop
    if !inLoop then w.putShell pid { s with status := 0 } else
    let (w, s', rest) := unwind w pid (fun f => f.isLoop || f.isCall) s.stack s
    match rest with
    | f :: more =>
      if f.isLoop then
        if n == 0 then
          if again then w.putShell pid { s' with stack := f :: more, status := 0 }
          else w.putShell pid { s' with stack := more, status := 0 }
        else leaveLoops w pid { s' with stack := more } again n
      else w.putShell pid { s' with stack := f :: more, status := 0 }
    | [] => w.putShell pid { s' with stack := [], status := 0 }

/-- Returns from the innermost function or script read by `.` with a status; outside both, the
rest of the script is skipped and the shell ends. -/
def returnFrom (w : World) (pid : Nat) (s : ShellState) (status : Nat) : World :=
  let (w, s', rest) := unwind w pid (fun f => f.isCall || f.isSourceEnd) s.stack s
  match rest with
  | [] => leave w pid s' status
  | more => w.putShell pid { s' with stack := more, status := status }

/-- The file `.` reads for a name: the name itself when it has a slash, else the first regular
file of that name in the directories of `PATH`. -/
def dotFile (fs : FileSystem) (cwd : String) (s : ShellState) (name : String) : Option String :=
  if name.contains '/' then some name
  else
    (searchDirs s).findSome? fun d =>
      let full := if d.isEmpty then name else joinPath d name
      match fs.stat cwd full with
      | some st => if st.kind == .regular then some full else none
      | none => none

/-! ## Commands the shell runs itself that work on the machine -/

/-- The `cd` command: changes the working directory to the logical path it names, and sets
`OLDPWD` and `PWD`; `-P` takes the physical path instead. -/
def cdCommand (w : World) (pid : Nat) (p : Proc) (s : ShellState) (args : List String) : World :=
  match shellOptions "LP" args with
  | .error e => applyOutcome w pid "cd" false ((Outcome.ok s).raise "cd" e)
  | .ok (opts, rest) =>
    let physical := (opts.getLast?.map (·.1)) == some 'P'
    let (dest, print) : String × Bool := match rest with
      | [] => ((s.var? "HOME").getD "", false)
      | "-" :: _ => ((s.var? "OLDPWD").getD "", true)
      | a :: _ => (a, false)
    let dest := if dest.isEmpty then "." else dest
    let direct := dest.startsWith "/" || dest == "." || dest == ".." || dest.startsWith "./" ||
      dest.startsWith "../"
    -- the places to try, and whether reaching one by `CDPATH` prints it
    let tries : List (String × Bool) :=
      match s.var? "CDPATH", direct with
      | some cdpath, false =>
        (cdpath.splitOn ":").map (fun d => if d.isEmpty then (dest, false) else (joinPath d dest, true)) ++
          [(dest, false)]
      | _, _ => [(dest, false)]
    -- the first place that is a directory, else the operand itself; the logical path is worked
    -- out on the text before the directory is entered
    let (t, printIt) := (tries.find? fun (t, _) => w.fs.isDir p.cwd t).getD (dest, false)
    let target : Option String :=
      if physical then if w.fs.isDir p.cwd t then some (physicalPath w.fs p.cwd t) else none
      else
        let l := logicalPath p.cwd t
        if w.fs.isDir "/" l then some l else none
    match target with
    | none => applyOutcome w pid "cd" false ((Outcome.ok s).raise "cd" ("can't cd to " ++ dest))
    | some target =>
      let s := (s.setVar "OLDPWD" p.cwd |>.exportName "OLDPWD").setVar "PWD" target |>.exportName "PWD"
      let w := w.modifyProc pid fun q => { q with cwd := target }
      let o := Outcome.ok s
      let o := if print || printIt then o.say (target ++ "\n") else o
      applyOutcome w pid "cd" false o

def killCommand (w : World) (pid : Nat) (s : ShellState) (args : List String) : World :=
  match killPlan s.jobs args with
  | .list text => applyOutcome w pid "kill" false ((Outcome.ok s).say text)
  | .fail m => applyOutcome w pid "kill" false ((Outcome.ok s).raise "kill" m)
  | .send sig targets =>
    -- the shell is stored first: it may be among the targets
    let rec go : List (Except String Int) → World → Bool → World
      | [], w, failed => w.modifyShell pid fun st => { st with status := if failed then 1 else 0 }
      | .error m :: _, w, _ =>
        match w.shellOf? pid with
        | some st => applyOutcome w pid "kill" false ((Outcome.ok st).raise "kill" m)
        | none => w
      | .ok t :: rest, w, failed =>
        -- no process groups are made without job control, so a group is never found
        let (w', found) := if t > 0 then w.signal t.toNat sig else (w, false)
        if found then go rest w' failed
        else go rest (w'.writeText pid 2 (shellPrefix s ++ "kill: No such process\n\n")) true
    go targets (w.putShell pid { s with status := 0 }) false

/-- The `wait` command: for every background job, or for the jobs named by the pid of their
last process or as jobs, in turn. The status is that of the last job waited for; a pid that is
no job's is passed over, and the status is 127 when no job was named. -/
def waitCommand (w : World) (pid : Nat) (s : ShellState) (args : List String) : World :=
  let ended := fun (c : Nat) => !((w.proc? c).any Proc.alive)
  match shellOptions "" args with
  | .error m => applyOutcome w pid "wait" false ((Outcome.ok s).raise "wait" m)
  | .ok (_, []) =>
    -- the jobs that have ended are seen at once
    let s := { s with jobs := s.jobs.map fun (j : Job) => if ended j.pid then { j with waited := true } else j }
    let running := (s.jobs.filter fun (j : Job) => !ended j.pid).map Job.pid
    if running.isEmpty then w.putShell pid { s with status := 0 }
    else w.putShell pid { s with wait := some (.children running (some 0)) }
  | .ok (_, names) =>
    let resolve : String → Except String (Option Nat) := fun a =>
      if a.startsWith "%" then (findJob s.jobs a).map fun j => some j.pid
      else
        match shellCount? a with
        | some n => .ok (if s.jobs.any (·.pid == n) then some n else none)
        | none => .error ("Illegal number: " ++ a)
    match names.mapM resolve with
    | .error m => applyOutcome w pid "wait" false ((Outcome.ok s).raise "wait" m)
    | .ok found =>
      let known := found.filterMap id
      if known.isEmpty then w.putShell pid { s with status := 127 }
      else w.putShell pid { s with wait := some (.children known none) }

/-- How a job stands: running, or how it ended. -/
def jobStanding (w : World) (j : Job) : String :=
  match (w.proc? j.pid).bind (·.exit) with
  | none => "Running"
  | some (.code 0) => "Done"
  | some (.code n) => "Done(" ++ toString n ++ ")"
  | some (.signaled sig) => signalDescription sig

/-- The line `jobs` shows for a job, with `current` the jobs as they stand: its number, `+` for
the current job and `-` for the one before it, its pid under `-l`, how it stands, padded to a
column, and for each further command of its pipeline a bar (under `-l` a line of its own). -/
def jobLine (w : World) (current : List Job) (withPid : Bool) (j : Job) : String :=
  let mark := if (current.head?.map (·.number)) == some j.number then "+"
    else if (current[1]?.map (·.number)) == some j.number then "-" else " "
  let lead := "[" ++ toString j.number ++ "] " ++ mark ++ " "
  let head := lead ++ (if withPid then toString j.pid ++ " " else "") ++ jobStanding w j
  let pad := fun (n : Nat) => String.ofList (List.replicate (max (33 - n) 1) ' ')
  let rest := List.replicate (j.commands - 1) ()
  if withPid then
    let more := rest.map fun _ =>
      let cell := String.ofList (List.replicate lead.length ' ') ++ toString j.pid ++ " "
      " |\n" ++ cell ++ pad cell.length
    head ++ pad head.length ++ String.join more ++ "\n"
  else head ++ pad head.length ++ String.join (rest.map fun _ => " | ") ++ "\n"

/-- The `jobs` command: shows every job, newest first, or the jobs named; `-l` adds the pids and
`-p` shows only the pids. A job shown as ended is forgotten. -/
def jobsCommand (w : World) (pid : Nat) (s : ShellState) (args : List String) : World :=
  match shellOptions "lp" args with
  | .error m => applyOutcome w pid "jobs" false ((Outcome.ok s).raise "jobs" m)
  | .ok (opts, names) =>
    let mode := opts.getLast?.map (·.1)
    let ended := fun (j : Job) => !((w.proc? j.pid).any Proc.alive)
    let present := fun (o : Outcome) (j : Job) =>
      if mode == some 'p' then o.say (toString j.pid ++ "\n")
      else
        let o := o.say (jobLine w o.state.jobs (mode == some 'l') j)
        if ended j then { o with state := { o.state with jobs := o.state.jobs.filter (·.number != j.number) } }
        else o
    let rec named : List String → Outcome → Outcome
      | [], o => o
      | n :: rest, o =>
        match findJob o.state.jobs n with
        | .ok j => named rest (present o j)
        | .error m => o.raise "jobs" m
    let o := match names with
      | [] => s.jobs.foldl present (Outcome.ok s)
      | _ => named names (Outcome.ok s)
    applyOutcome w pid "jobs" false o

/-- The `read` command: takes a line from descriptor 0. -/
def readBuiltin (w : World) (pid : Nat) (fds : FdTable) (s : ShellState) (args : List String) : World :=
  let input : Bytes := match fdLookup fds 0 with
    | some (.input bs) => bs
    | _ => []
  let (o, used) := readCommand s args (ofBytes input)
  let w := w.modifyProc pid fun q => match fdLookup q.fds 0 with
    | some (.input bs) => { q with fds := fdSet q.fds 0 (.input (bs.drop used)) }
    | _ => q
  applyOutcome w pid "read" false o

/-- The `umask` command: shows the mask in octal (or with `-S` symbolically), or sets it. -/
def umaskCommand (s : ShellState) (args : List String) : Outcome :=
  let octal := fun (m : Nat) =>
    let digits := natDigits 8 m
    String.ofList (List.replicate (4 - digits.length) '0') ++ digits
  let symbolic := fun (m : Nat) =>
    let part := fun (shift : Nat) =>
      let bits := (0o7 - ((m >>> shift) &&& 0o7))
      (if bits &&& 4 != 0 then "r" else "") ++ (if bits &&& 2 != 0 then "w" else "") ++
        (if bits &&& 1 != 0 then "x" else "")
    "u=" ++ part 6 ++ ",g=" ++ part 3 ++ ",o=" ++ part 0
  match args with
  | [] => (Outcome.ok s).say (octal s.mask ++ "\n")
  | ["-S"] => (Outcome.ok s).say (symbolic s.mask ++ "\n")
  | m :: _ =>
    if !m.isEmpty && m.all (fun c => '0' ≤ c && c ≤ '7') then
      Outcome.ok { s with mask := m.toList.foldl (fun acc c => acc * 8 + (c.toNat - '0'.toNat)) 0 % 0o1000 }
    else (Outcome.ok s).raise "umask" ("Illegal mode: " ++ m)

/-! ## Running commands -/

/-- Starts a program as a child the shell waits for; a program that cannot start fails the way
the shell reports it. -/
def runProgram (w : World) (pid : Nat) (p : Proc) (fds : FdTable) (s : ShellState) (name path : String)
    (args : List String) : World :=
  let l : Launch :=
    { program := path, argv0 := name, args := args, env := s.environment, cwd := p.cwd, fds := fds,
      ignored := World.ignoredBy p s, parent := some pid, fallback := true }
  match w.spawn l with
  | .ok (w', child) => w'.putShell pid { s.forked with wait := some (.child child) }
  | .error e =>
    let (status, words) := execFailure e
    setStatus (report w pid s (name ++ ": " ++ words)) pid s status

/-- Runs a program in place of the shell, as the shell does for its last command when no trap
is set; a program that cannot start fails as it does in a child. -/
def replaceWithProgram (w : World) (pid : Nat) (p : Proc) (fds : FdTable) (s : ShellState)
    (name path : String) (args : List String) : World :=
  let l : Launch :=
    { program := path, argv0 := name, args := args, env := s.environment, cwd := p.cwd, fds := fds,
      ignored := World.ignoredBy p s, parent := p.parent, fallback := true }
  match w.start pid l with
  | .ok w' => w'.closeUnheld
  | .error _ => runProgram w pid p fds s name path args

/-- Replaces the shell with a program (`exec`); its caught traps are gone, its ignored signals
stay ignored. A program that cannot start ends the shell. -/
def execProgram (w : World) (pid : Nat) (p : Proc) (fds : FdTable) (s : ShellState) (name : String)
    (args : List String) : World :=
  let failed := fun (e : FileError) =>
    let (status, words) := execFailure e
    leave (w.writeText pid 2 (shellPrefix s ++ "exec: " ++ name ++ ": " ++ words ++ "\n")) pid s status
  match locateProgram w.fs p.cwd (searchDirs s) name with
  | .error e => failed e
  | .ok path =>
    let l : Launch :=
      { program := path, argv0 := name, args := args, env := s.environment, cwd := p.cwd, fds := fds,
        ignored := World.ignoredBy p s, parent := p.parent, fallback := true }
    match w.start pid l with
    | .ok w' => w'.closeUnheld
    | .error e => failed e

/-- Runs a command the shell runs itself. Its redirections are in place (`fds`) and `s.stack`
holds what comes after it; `special` says whether an error ends the shell, `ownRedirs` whether
the command had redirections of its own (which `exec` keeps), `tested` whether its status is
being tested. -/
def runBuiltin (w : World) (pid : Nat) (p : Proc) (fds : FdTable) (s : ShellState) (name : String)
    (args : List String) (special ownRedirs tested : Bool) (fuel : Nat) : World :=
  let done := fun (o : Outcome) => applyOutcome w pid name special o
  match name with
  | ":" | "true" => done (Outcome.ok s)
  | "false" => done ((Outcome.ok s).withStatus 1)
  | "echo" => done ((Outcome.ok s).say (shellEcho args))
  | "printf" =>
    match shellOptions "" args with
    | .error m => done ((Outcome.ok s).raise "printf" m)
    | .ok (_, []) => done ((Outcome.ok s).raise "printf" "usage: printf format [arg ...]")
    | .ok (_, fmt :: rest) =>
      let r := shellPrintf fmt rest
      let o := r.emits.foldl (fun (o : Outcome) em =>
        match em with
        | .out t => o.say t
        | .warn m => o.warn "printf" m
        | .line l => o.note (l ++ "\n")) (Outcome.ok s)
      done (o.withStatus r.status)
  | "test" | "[" =>
    let view := FileView.ofSystem w.fs p.cwd
    let result := if name == "[" then shellBracket view args else shellTest view args
    match result with
    | .ok b => done ((Outcome.ok s).withStatus (if b then 0 else 1))
    | .error m => done (((Outcome.ok s).warn name m).withStatus 2)
  | "exit" =>
    match args with
    | [] => leave w pid s ((trapStatus? s.stack).getD s.status)
    | a :: _ =>
      match shellCount? a with
      | some n => leave w pid s n
      | none => done ((Outcome.ok s).raise "exit" ("Illegal number: " ++ a))
  | "return" =>
    match args with
    | [] => returnFrom w pid s ((trapStatus? s.stack).getD s.status)
    | a :: _ =>
      match shellCount? a with
      | some n => returnFrom w pid s n
      | none => done ((Outcome.ok s).raise "return" ("Illegal number: " ++ a))
  | "break" | "continue" =>
    let count : Option Nat := match args with
      | [] => some 1
      | a :: _ => (shellCount? a).bind fun n => if n == 0 then none else some n
    match count with
    | some n => leaveLoops w pid s (name == "continue") n
    | none => done ((Outcome.ok s).raise name ("Illegal number: " ++ args.headD ""))
  | "eval" =>
    -- the commands read see the status from before; with none the status is 0
    match chunksOf (" ".intercalate args) 1 with
    | [] => done (Outcome.ok s)
    | chunks =>
      w.putShell pid { s with
        commandName := some "eval",
        stack := .chunks chunks tested :: .endSource s.commandName false :: s.stack }
  | "." =>
    match args with
    | [] => done (Outcome.ok s)
    | file :: _ =>
      match dotFile w.fs p.cwd s file with
      | none => done ((Outcome.ok s).raise "." (file ++ ": not found"))
      | some full =>
        match w.fs.read p.cwd full with
        | .error e => done ((Outcome.ok s).raise "." ("cannot open " ++ full ++ ": " ++ openError false e))
        | .ok data =>
          match chunksOf (ofBytes data) 1 with
          | [] => done (Outcome.ok s)
          | chunks =>
            w.putShell pid { s with
              commandName := some full,
              stack := .chunks chunks false :: .endSource s.commandName true :: s.stack }
  | "exec" =>
    match args with
    | [] =>
      -- the redirections stay: the frame that would put them back goes
      let stack := match ownRedirs, s.stack with
        | true, .restoreFds _ :: rest => rest
        | _, st => st
      (w.putShell pid { s with stack := stack, status := 0 }).closeUnheld
    | prog :: rest => execProgram w pid p fds s prog rest
  | "export" => done (exportCommand s "export" true args)
  | "readonly" => done (exportCommand s "readonly" false args)
  | "local" => done (localCommand s args)
  | "unset" => done (unsetCommand s args)
  | "set" => done (setCommand s args)
  | "shift" => done (shiftCommand s args)
  | "trap" => done (trapCommand s args)
  | "times" => done ((Outcome.ok s).say "0m0.000000s 0m0.000000s\n0m0.000000s 0m0.000000s\n")
  | "cd" | "chdir" => cdCommand w pid p s args
  | "pwd" =>
    match shellOptions "LP" args with
    | .error e => done ((Outcome.ok s).raise "pwd" e)
    | .ok (opts, _) =>
      let physical := (opts.getLast?.map (·.1)) == some 'P'
      done ((Outcome.ok s).say ((if physical then physicalPath w.fs "/" p.cwd else p.cwd) ++ "\n"))
  | "command" =>
    match commandDescribe w.fs p.cwd s args with
    | .inl o => done o
    | .inr [] => done (Outcome.ok s)
    | .inr (cmd :: rest) =>
      match fuel with
      | 0 => done (Outcome.ok s)
      | fuel' + 1 =>
        match findCommand w.fs p.cwd s cmd true with
        | (.special, s) | (.builtin, s) | (.function, s) | (.keyword, s) =>
          runBuiltin w pid p fds s cmd rest false false tested fuel'
        | (.program path _, s) => runProgram w pid p fds s cmd path rest
        | (.missing denied, s) =>
          setStatus (report w pid s (cmd ++ (if denied then ": Permission denied" else ": not found"))) pid s 127
  | "getopts" => done (getoptsCommand s args)
  | "hash" => done (hashCommand w.fs p.cwd s args)
  | "type" => done (typeCommand w.fs p.cwd s args)
  | "kill" => killCommand w pid s args
  | "wait" => waitCommand w pid s args
  | "read" => readBuiltin w pid fds s args
  | "umask" => done (umaskCommand s args)
  | "ulimit" => done ((Outcome.ok s).say "unlimited\n")
  | "alias" =>
    done (args.foldl (fun (o : Outcome) a =>
      if a.contains '=' then o else (o.note ("alias: " ++ a ++ " not found\n")).withStatus 1) (Outcome.ok s))
  | "unalias" =>
    done (args.foldl (fun (o : Outcome) a =>
      if a.startsWith "-" then o else (o.note ("unalias: " ++ a ++ " not found\n")).withStatus 1) (Outcome.ok s))
  | "fg" | "bg" =>
    match shellOptions "" args with
    | .error m => done ((Outcome.ok s).raise name m)
    | .ok (_, operands) =>
      let spec := operands.head?
      match findJob s.jobs (spec.getD "%") with
      | .error m => done ((Outcome.ok s).raise name m)
      | .ok _ => done ((Outcome.ok s).raise name ("job " ++ spec.getD "(null)" ++ " not created under job control"))
  | "jobs" => jobsCommand w pid s args
  | _ => done (Outcome.ok s)

/-- Runs a simple command whose substitutions have all run, on line `line`; `hadOutput` tells
whether it held the output of one, whose status then stands when there is no command. -/
def runSimple (w : World) (pid : Nat) (p : Proc) (s : ShellState) (assigns : List (String × Word))
    (words : List Word) (redirs : List Redir) (hadOutput tested : Bool) : World :=
  match expandWords s w.fs p.cwd words with
  | .error e => expansionFailed w pid s e
  | .ok (fields, s) =>
    -- redirections; one that cannot be made is reported at once
    let made : Except ExpandError (World × ShellState × FdTable × Bool) :=
      match redirect w s p.cwd p.fds redirs with
      | .ok (w', s', fds) => .ok (w', s', fds, false)
      | .error (.failed m) => .ok (report w pid s m, s, p.fds, true)
      | .error (.expansion e) => .error e
    match made with
    | .error e => expansionFailed w pid s e
    | .ok (w, s, fds, redirFailed) =>
      match makeAssignments s assigns with
      | .error (.inl e) => expansionFailed w pid s e
      | .error (.inr m) => leave (report w pid s m) pid s 2
      | .ok (assigned, vals, saved) =>
        -- the trace goes to the standard error from before the redirections
        let w := if assigned.opt "xtrace" then w.writeText pid 2 (traceLine assigned vals fields) else w
        let ownRedirs := !redirs.isEmpty && !redirFailed
        let w := if ownRedirs then w.modifyProc pid fun q => { q with fds := fds } else w
        let tail := if ownRedirs then .restoreFds (savedFds p.fds redirs) :: assigned.stack else assigned.stack
        let temporary := if saved.isEmpty then tail else .restoreVars saved :: tail
        match fields with
        | [] =>
          let status := if redirFailed then 2 else if hadOutput then s.substStatus else 0
          w.putShell pid { assigned with status := status, stack := tail }
        | name :: args =>
          -- without the assignments, for when they do not stay
          let kept := exportAll assigned vals
          match findCommand w.fs p.cwd kept name false with
          | (.missing denied, st) =>
            let st := { st with stack := temporary }
            setStatus (report w pid st (name ++ (if denied then ": Permission denied" else ": not found"))) pid st 127
          | (kind, st) =>
            if redirFailed then
              if kind == .special then leave w pid st 2
              else w.putShell pid { st with status := 2, stack := temporary }
            else
              match kind with
              | .special =>
                runBuiltin w pid p fds { assigned with hashed := st.hashed, stack := tail } name args true ownRedirs tested 4
              | .builtin =>
                runBuiltin w pid p fds { st with stack := temporary } name args false ownRedirs tested 4
              | .function =>
                match st.funcs.find? (·.1 == name) with
                | some (_, body) =>
                  w.putShell pid { st with
                    args := args,
                    stack := .run body tested :: .endCall st.args [] :: temporary }
                | none => w.putShell pid { st with stack := temporary }
              | .program path _ =>
                let st := { st with stack := temporary }
                if assigned.execsLast && atTail assigned.stack && !(st.traps.any fun (_, a) => !a.isEmpty) then
                  replaceWithProgram w pid p fds st name path args
                else runProgram w pid p fds st name path args
              | _ => w.putShell pid { st with stack := temporary }

/-- Expands the patterns of `case` arms in order until one matches the subject: the body of
that arm, if any, or the failed expansion. -/
def chooseArm (s : ShellState) (text : String) :
    List (List Word × Cmd) → Except ExpandError (Option Cmd × ShellState)
  | [] => .ok (none, s)
  | (pats, body) :: rest =>
    let rec tryPats : List Word → ShellState → Except ExpandError (Bool × ShellState)
      | [], st => .ok (false, st)
      | pw :: more, st =>
        match expandPattern st pw with
        | .error e => .error e
        | .ok (pat, st) => if matchPattern pat text.toList then .ok (true, st) else tryPats more st
    match tryPats pats s with
    | .error e => .error e
    | .ok (true, s) => .ok (some body, s)
    | .ok (false, s) => chooseArm s text rest

/-- Runs a command, `tested` when its status is being tested. -/
def runCmd (w : World) (pid : Nat) (p : Proc) (s : ShellState) (c : Cmd) (tested : Bool) : World :=
  if s.opt "noexec" then w.putShell pid s
  else
  match c.pendingSubst? with
  | some (script, line) =>
    let s := match c with
      | .simple l .. => { s with line := l }
      | _ => s
    startSubst w pid p { s with stack := .run c tested :: s.stack } script line
  | none =>
    -- under set -e the commands that can end the shell
    let checked := fun (st : ShellState) => if tested then st else { st with stack := .checkExit :: st.stack }
    match c with
    | .simple line assigns words redirs =>
      let s := checked { s with line := line }
      let hadOutput := words.any wordHasOutput || assigns.any (wordHasOutput ·.2) ||
        redirs.any (wordHasOutput ·.target)
      runSimple w pid p s assigns words redirs hadOutput tested
    | .seq a b => w.putShell pid { s with stack := .run a tested :: .run b tested :: s.stack }
    | .andThen a b => w.putShell pid { s with stack := .run a true :: .andThen b tested :: s.stack }
    | .orElse a b => w.putShell pid { s with stack := .run a true :: .orElse b tested :: s.stack }
    | .negate a => w.putShell pid { s with stack := .run a true :: .negate :: s.stack }
    | .pipe a b =>
      let s := checked s
      let (w, pipe) := w.newPipe .capture
      let (w, child) := w.spawnShell p (childState s [.run a tested]) (fdSet p.fds 1 (.pipe pipe))
      w.putShell pid { s.forked with wait := some (.pipeLeft child pipe b tested) }
    | .background a =>
      -- the job ignores interrupts only once it runs: one sent at once still ends it
      let (w, child) := w.spawnShell p (childState s [.ignore [sigInt, sigQuit], .run a false])
        (fdSet p.fds 0 (.input []))
      w.putShell pid { s.addJob child a.pipeCommands with status := 0 }
    | .ifThen cond yes no => w.putShell pid { s with stack := .run cond true :: .branch yes no tested :: s.stack }
    | .loop negated cond body =>
      w.putShell pid { s with stack := .run cond true :: .loopTest negated cond body 0 tested :: s.stack }
    | .forIn name words body =>
      let values : Except ExpandError (List String × ShellState) := match words with
        | none => .ok (s.args, s)
        | some ws => expandWords s w.fs p.cwd ws
      match values with
      | .error e => expansionFailed w pid s e
      | .ok ([], s') => w.putShell pid { s' with status := 0 }
      | .ok (vs, s') => w.putShell pid { s' with stack := .forNext name vs body tested :: s'.stack }
    | .caseOf subject arms =>
      match expandText s subject with
      | .error e => expansionFailed w pid s e
      | .ok (text, s') =>
        match chooseArm s' text arms with
        | .error e => expansionFailed w pid s' e
        | .ok (some body, s'') => w.putShell pid { s'' with stack := .run body tested :: s''.stack }
        | .ok (none, s'') => w.putShell pid { s'' with status := 0 }
    | .group body redirs =>
      if redirs.isEmpty then w.putShell pid { s with stack := .run body tested :: s.stack }
      else
        match redirect w s p.cwd p.fds redirs with
        | .error (.failed m) => setStatus (report w pid s m) pid s 2
        | .error (.expansion e) => expansionFailed w pid s e
        | .ok (w, s', fds) =>
          let w := w.modifyProc pid fun q => { q with fds := fds }
          w.putShell pid { s' with stack := .run body tested :: .restoreFds (savedFds p.fds redirs) :: s'.stack }
    | .subshell body redirs =>
      let s := checked s
      -- the shell's last command needs no new process: nothing runs after it
      let inPlace := s.execsLast && atTail s.stack && !(s.traps.any fun (_, a) => !a.isEmpty)
      if inPlace then
        match redirect w s p.cwd p.fds redirs with
        | .error (.failed m) => setStatus (report w pid s m) pid s 2
        | .error (.expansion e) => expansionFailed w pid s e
        | .ok (w, s', fds) =>
          let w := w.modifyProc pid fun q => { q with fds := fds }
          w.putShell pid { s' with stack := .run body tested :: s'.stack }
      else
      match redirect w s p.cwd p.fds redirs with
      | .error (.failed m) => setStatus (report w pid s m) pid s 2
      | .error (.expansion e) => expansionFailed w pid s e
      | .ok (w, s', fds) =>
        let (w, child) := w.spawnShell p (childState s' [.run body tested]) fds
        w.putShell pid { s'.forked with wait := some (.child child) }
    | .funcDef name body =>
      w.putShell pid { s with funcs := (name, body) :: s.funcs.filter (·.1 != name), status := 0 }
    | .empty => setStatus w pid s 0

/-- Does what a frame says; the frame has been taken off the stack. -/
def runFrame (w : World) (pid : Nat) (p : Proc) (s : ShellState) : Frame → World
  | .run c tested => runCmd w pid p s c tested
  | .chunks [] _ => w.putShell pid s
  | .chunks (.cmd c :: rest) tested => w.putShell pid { s with stack := .run c tested :: .chunks rest tested :: s.stack }
  | .chunks (.syntaxError line msg :: _) _ =>
    let s := { s with line := line }
    leave (report w pid s msg) pid s 2
  | .andThen c tested =>
    if s.status == 0 then w.putShell pid { s with stack := .run c tested :: s.stack } else w.putShell pid s
  | .orElse c tested =>
    if s.status != 0 then w.putShell pid { s with stack := .run c tested :: s.stack } else w.putShell pid s
  | .negate => setStatus w pid s (if s.status == 0 then 1 else 0)
  | .branch yes no tested =>
    w.putShell pid { s with stack := .run (if s.status == 0 then yes else no) tested :: s.stack }
  | .loopTest negated cond body last tested =>
    if (s.status == 0) != negated then
      w.putShell pid { s with stack := .run body tested :: .loopNext negated cond body tested :: s.stack }
    else setStatus w pid s last
  | .loopNext negated cond body tested =>
    w.putShell pid { s with stack := .run cond true :: .loopTest negated cond body s.status tested :: s.stack }
  | .forNext _ [] _ _ => w.putShell pid s
  | .forNext name (v :: vs) body tested =>
    match s.assign name v with
    | .ok s' => w.putShell pid { s' with stack := .run body tested :: .forNext name vs body tested :: s'.stack }
    | .error m => leave (report w pid s m) pid s 2
  | .restoreFds saved =>
    ((w.modifyProc pid fun q => { q with fds := restoreTable q.fds saved }).putShell pid s).closeUnheld
  | .restoreVars saved => w.putShell pid (restoreVars s saved)
  | .endCall args locals => w.putShell pid (restoreVars { s with args := args } locals)
  | .endTrap status => setStatus w pid s status
  | .endShell status => w.finish pid (.code status)
  | .ignore sigs => (w.modifyProc pid fun q => { q with ignored := q.ignored ++ sigs }).putShell pid s
  | .checkExit => if s.opt "errexit" && s.status != 0 then leave w pid s s.status else w.putShell pid s
  | .endSource saved _ => w.putShell pid { s with commandName := saved }

/-- Handles the oldest signal noted for a shell, if any: runs its trap, or takes the default
action if the trap has gone since. -/
def takeSignal (w : World) (pid : Nat) (s : ShellState) : Option World :=
  match s.pending with
  | [] => none
  | sig :: rest =>
    let s := { s with pending := rest }
    match s.traps.find? (·.1 == sig) with
    | some (_, action) =>
      if action.isEmpty then some (w.putShell pid s)
      else
        some (w.putShell pid
          { s with stack := .chunks (chunksOf action 1) false :: .endTrap s.status :: s.stack })
    | none => some (if ignoredByDefault sig then w.putShell pid s else w.finish pid (.signaled sig))

/-- Ends a wait that is over: `none` while the shell must still wait. -/
def resume (w : World) (pid : Nat) (p : Proc) (s : ShellState) : Wait → Option World
  | .child c =>
    match (w.proc? c).bind (·.exit) with
    | some e => some (w.putShell pid { s with wait := none, status := e.status })
    | none => none
  | .subst c pipe =>
    match (w.proc? c).bind (·.exit) with
    | some e =>
      if w.pipeClosed pipe then
        let text := substText (w.captured pipe)
        let stack := match s.stack with
          | .run cmd tested :: rest => .run (cmd.fillSubst text) tested :: rest
          | st => st
        some ((w.dropPipe pipe).putShell pid { s with wait := none, substStatus := e.status, stack := stack })
      else none
    | none => none
  | .pipeLeft c pipe right tested =>
    match (w.proc? c).bind (·.exit) with
    | some _ =>
      if w.pipeClosed pipe then
        let input := w.captured pipe
        let (w, child) := (w.dropPipe pipe).spawnShell p (childState s [.run right tested])
          (fdSet p.fds 0 (.input input))
        some (w.putShell pid { s with wait := some (.child child) })
      else none
    | none => none
  | .children pids final =>
    -- children that have ended are collected first; a signal noted while some still run ends
    -- the wait with 128 and the latest signal's number
    let exits := pids.map fun c => (w.proc? c).bind (·.exit)
    if exits.all (·.isSome) then
      let status := match final with
        | some n => n
        | none =>
          match exits.getLast? with
          | some (some e) => e.status
          | _ => 0
      let jobs := s.jobs.map fun j => if pids.contains j.pid then { j with waited := true } else j
      some (w.putShell pid { s with wait := none, status := status, jobs := jobs })
    else
      match s.pending.getLast? with
      | some sig => some (w.putShell pid { s with wait := none, status := 128 + sig })
      | none => none

/-- One step of the shell a process runs, if it can make one: ends a wait that is over, handles
a noted signal, or does what the top frame says; with no frames left the shell ends. The flag
says whether anything happened. -/
def step (w : World) (pid : Nat) : World × Bool :=
  match w.proc? pid with
  | some p =>
    match p.program, p.exit with
    | .shell s, none =>
      if w.now < p.readyAt then (w, false)
      else
        -- a child that has ended raises CHLD: noted once for a trap, however many ended
        let trapped := s.traps.any fun (n, a) => n == sigChld && !a.isEmpty
        let s := if p.childEnded && trapped && !s.pending.contains sigChld then
            { s with pending := s.pending ++ [sigChld] } else s
        let w := if p.childEnded then
            (w.modifyProc pid fun q => { q with childEnded := false }).putShell pid s else w
        let p := { p with childEnded := false }
        match s.wait with
        | some wt =>
          match resume w pid p s wt with
          | some w' => (w', true)
          | none => (w, false)
        | none =>
          -- signals wait until a command part way through its expansions has run
          let midway := match s.stack with
            | .run c _ :: _ => c.midway
            | _ => false
          match (if midway then none else takeSignal w pid s) with
          | some w' => (w', true)
          | none =>
            match s.stack with
            | [] => (leave w pid s s.status, true)
            | f :: rest => (runFrame w pid p { s with stack := rest } f, true)
    | _, _ => (w, false)
  | none => (w, false)

end CrashTest.Shell
