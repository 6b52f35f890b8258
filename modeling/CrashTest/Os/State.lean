import CrashTest.Shell.Parser
import CrashTest.Os.Files
import CrashTest.Os.Signal
import CrashTest.Output.Bus
import CrashTest.Text.Numeral
/-!
The state of a simulated machine: files, processes, the pipes between them, and the clock.

Time is virtual and counted in nanoseconds. Commands take no time; only sleeping does, and a
process that computes for long is charged one millisecond per slice of work, so that time moves
on while it spins.

A process runs a shell or sleeps, or has ended with an exit status. Its descriptors lead to
pipes, files, the null device, input given in advance, or nowhere. A pipe is read by the system
itself: either each finished line goes to the output bus as an event of the target that owns the
pipe, or all bytes are kept for whoever ran the command. A pipe closes when no live process holds
it any more; the unfinished last line is published then.

A shell is a machine: a stack of frames, innermost first, that says what to do next, and at
most one wait, for a child or a command substitution, that holds it still.
-/
namespace CrashTest.Os

open CrashTest.Text CrashTest.Shell

/-- Where a descriptor leads. -/
inductive Fd where
  /-- The writing end of a pipe. -/
  | pipe (id : Nat)
  /-- A file opened for writing; writes go to its end. -/
  | file (path : String)
  /-- The null device. -/
  | null
  /-- A device that refuses writes: the disk is full. -/
  | full
  /-- Input given in advance: the bytes not read yet. -/
  | input (rest : Bytes)
  deriving DecidableEq, Repr, Inhabited

/-- A descriptor table: descriptor numbers and where they lead. -/
abbrev FdTable := List (Nat × Fd)

/-- How a process ended: with an exit code, or by a signal. -/
inductive Exit where
  | code (n : Nat)
  | signaled (sig : Nat)
  deriving DecidableEq, Repr, Inhabited

/-- The status a shell sees for an ended child: the code, or 128 plus the signal. -/
def Exit.status : Exit → Nat
  | .code n => n
  | .signaled s => 128 + s

/-- A variable a function made local, and what to put back when the function returns: the
value before, or `none` if it was unset, and whether it was exported. -/
structure SavedVar where
  name : String
  value : Option String
  exported : Bool
  deriving Repr, Inhabited

/-- What a shell does next. `tested` marks commands whose status is being tested (conditions,
the left side of `&&` and `||`, negated commands), which `set -e` leaves alone. -/
inductive Frame where
  /-- Runs a command. -/
  | run (c : Cmd) (tested : Bool)
  /-- Runs the next complete command of a script, in order. -/
  | chunks (cs : List Chunk) (tested : Bool)
  /-- Runs the command if the last status is 0. -/
  | andThen (c : Cmd) (tested : Bool)
  /-- Runs the command if the last status is not 0. -/
  | orElse (c : Cmd) (tested : Bool)
  /-- Inverts the last status. -/
  | negate
  /-- Chooses a branch by the last status. -/
  | branch (yes no : Cmd) (tested : Bool)
  /-- A loop after its condition: `last` is the status of the last body run, 0 if none. -/
  | loopTest (negated : Bool) (cond body : Cmd) (last : Nat) (tested : Bool)
  /-- A loop after its body: evaluates the condition again. -/
  | loopNext (negated : Bool) (cond body : Cmd) (tested : Bool)
  /-- A `for` loop: the values still to take. -/
  | forNext (name : String) (values : List String) (body : Cmd) (tested : Bool)
  /-- Puts back the descriptors that redirections changed: each as it was, or closed if it was
  not open. -/
  | restoreFds (saved : List (Nat × Option Fd))
  /-- Puts back variables set only for the duration of a command. -/
  | restoreVars (saved : List SavedVar)
  /-- Ends a function call: puts back the positional parameters and the variables it made
  local. -/
  | endCall (args : List String) (locals : List SavedVar)
  /-- Ends a trap action: puts back the status from before it. -/
  | endTrap (status : Nat)
  /-- Ends the shell with this status once the exit trap has run. -/
  | endShell (status : Nat)
  /-- Starts ignoring these signals, as a job started in the background does first thing. -/
  | ignore (sigs : List Nat)
  /-- Under `set -e`, ends the shell if the command just run failed. -/
  | checkExit
  /-- Ends a script read by `.` (`file`) or a text run by `eval`, putting back the name the
  shell's messages carried before. -/
  | endSource (saved : Option String) (file : Bool)
  deriving Repr, Inhabited

/-- What holds a shell still. -/
inductive Wait where
  /-- A foreground child; its status becomes the last status. -/
  | child (pid : Nat)
  /-- A command substitution writing into pipe `pipe`. -/
  | subst (pid : Nat) (pipe : Nat)
  /-- The left side of a pipeline writing into pipe `pipe`; `right` runs on its output. -/
  | pipeLeft (pid : Nat) (pipe : Nat) (right : Cmd) (tested : Bool)
  /-- The `wait` command, for these background children; its status is `final` if given,
  otherwise that of the last child. -/
  | children (pids : List Nat) (final : Option Nat)
  deriving Repr, Inhabited

/-- The shell's options, by letter, with their long names; the last two have no letter. -/
def optionTable : List (Option Char × String) :=
  [(some 'e', "errexit"), (some 'f', "noglob"), (some 'I', "ignoreeof"), (some 'i', "interactive"),
    (some 'm', "monitor"), (some 'n', "noexec"), (some 's', "stdin"), (some 'x', "xtrace"),
    (some 'v', "verbose"), (some 'V', "vi"), (some 'E', "emacs"), (some 'C', "noclobber"),
    (some 'a', "allexport"), (some 'b', "notify"), (some 'u', "nounset"), (some 'p', "privileged"),
    (none, "nolog"), (none, "debug")]

/-- A job the shell started in the background. -/
structure Job where
  /-- Its number, as `%n` names it. -/
  number : Nat
  /-- The process whose end ends the job. -/
  pid : Nat
  /-- How many commands its pipeline has. -/
  commands : Nat := 1
  /-- Whether `wait` has seen it end; its number is then free for the next job. -/
  waited : Bool := false
  deriving Repr, Inhabited

/-- The number a new job takes: the least number that no job has, or that a job `wait` has seen
end has, which that job gives up. The table afterwards leaves that job out. -/
def freeJobNumber (jobs : List Job) : Nat × List Job :=
  let rec go : Nat → Nat → Nat × List Job
    | 0, n => (n, jobs)
    | fuel + 1, n =>
      match jobs.find? (·.number == n) with
      | none => (n, jobs)
      | some j => if j.waited then (n, jobs.filter (·.number != n)) else go fuel (n + 1)
  go (jobs.length + 1) 1

/-- A shell's state. -/
structure ShellState where
  /-- Variables, newest first. -/
  vars : List (String × String)
  /-- Names passed on to children. -/
  exported : List String
  /-- Names that cannot be assigned or unset. -/
  readonly : List String := []
  /-- Defined functions. -/
  funcs : List (String × Cmd) := []
  /-- The positional parameters `$1`, `$2`, .... -/
  args : List String := []
  /-- `$0`, also the name in error messages. -/
  arg0 : String
  /-- `$?` -/
  status : Nat := 0
  /-- The status of the last command substitution, which a command with no command word takes;
  `$?` does not change until the command is done. -/
  substStatus : Nat := 0
  /-- Trap actions by signal, 0 standing for exit; an empty action ignores the signal. -/
  traps : List (Nat × String) := []
  /-- Signals received and not yet handled, oldest first. -/
  pending : List Nat := []
  /-- `$!` -/
  lastBackground : Option Nat := none
  /-- The jobs started in the background, the newest (the current job) first. -/
  jobs : List Job := []
  /-- Whether the shell's last command takes the shell's place instead of running as a child,
  as it does in a subshell, but not in the shell a program started. -/
  execsLast : Bool := false
  /-- `$$`: the pid of the shell that a subshell was made from. -/
  rootPid : Nat
  /-- What to do next. -/
  stack : List Frame
  /-- What the shell waits for, if anything. -/
  wait : Option Wait := none
  /-- The line of the command running, for error messages. -/
  line : Nat := 1
  /-- The name the shell's messages carry after the line: the script's name, or the command
  (`eval`, `.`) whose text is running; none for a script given with `-c` alone. -/
  commandName : Option String := none
  /-- The file creation mask. -/
  mask : Nat := 0o022
  /-- The long names of the options that are on. -/
  options : List String := []
  /-- Where `getopts` goes on: the index of the next argument, counting from 1, and the offset
  into the argument it is inside, if any. -/
  optind : Nat := 1
  optoff : Option Nat := none
  /-- Commands found on the search path, with the paths they were found at, newest first. -/
  hashed : List (String × String) := []
  deriving Repr, Inhabited

/-- What a process is running. -/
inductive Program where
  | shell (s : ShellState)
  /-- Sleeping until this instant, then exiting with 0. -/
  | sleeper (wakeAt : Nat)
  /-- Nothing: the process has ended. -/
  | ended
  deriving Repr, Inhabited

/-- A process. -/
structure Proc where
  pid : Nat
  parent : Option Nat
  program : Program
  fds : FdTable
  /-- Signals the process ignores. -/
  ignored : List Nat
  cwd : String
  /-- The environment it was started with. -/
  env : List (String × String)
  /-- How it ended, once it has. -/
  exit : Option Exit := none
  /-- The instant before which it does not run, after a long slice of work. -/
  readyAt : Nat := 0
  /-- Whether a child has ended since the process last looked. -/
  childEnded : Bool := false
  deriving Repr, Inhabited

/-- Who reads a pipe. -/
inductive Sink where
  /-- The output bus, as stream `stream` of target `pid`. -/
  | forward (pid : Nat) (stream : OutputStream)
  /-- Whoever ran the command, all at once. -/
  | capture
  deriving DecidableEq, Repr, Inhabited

/-- A pipe. -/
structure Pipe where
  id : Nat
  sink : Sink
  /-- The bytes kept, or the unfinished line when forwarding. -/
  data : Bytes := []
  /-- No live process holds it any more. -/
  closed : Bool := false
  /-- Forwarding has stopped: nothing more is published. -/
  detached : Bool := false
  deriving DecidableEq, Repr, Inhabited

/-- The whole machine. -/
structure World where
  now : Nat := 0
  fs : FileSystem := .initial
  procs : List Proc := []
  nextPid : Nat := 4200
  pipes : List Pipe := []
  nextPipe : Nat := 0
  bus : EventBus := {}
  /-- The environment of the controlling program, which its children inherit. -/
  env : List (String × String)
  deriving Repr, Inhabited

namespace ShellState

/-- The value of a variable, if set. -/
def var? (s : ShellState) (name : String) : Option String := (s.vars.find? (·.1 == name)).map (·.2)

/-- Whether an option is on. -/
def opt (s : ShellState) (name : String) : Bool := s.options.contains name

/-- Turns an option on or off; turning on one of the two line editors turns off the other. -/
def setOption (s : ShellState) (name : String) (on : Bool) : ShellState :=
  let others := s.options.filter (· != name)
  let s := { s with options := if on then others ++ [name] else others }
  if on && name == "vi" then { s with options := s.options.filter (· != "emacs") }
  else if on && name == "emacs" then { s with options := s.options.filter (· != "vi") }
  else s

/-- Sets a variable, whatever its flags; under `set -a` it is also exported. -/
def setVar (s : ShellState) (name value : String) : ShellState :=
  let s := { s with vars := (name, value) :: s.vars.filter (·.1 != name) }
  let s := if s.opt "allexport" && !s.exported.contains name then
      { s with exported := s.exported ++ [name] } else s
  if name == "OPTIND" then { s with optind := (Text.shellCount? value).getD 1, optoff := none }
  else if name == "PATH" then { s with hashed := [] }
  else s

/-- Assigns a variable, refused for a read-only one with the shell's words. -/
def assign (s : ShellState) (name value : String) : Except String ShellState :=
  if s.readonly.contains name then .error (name ++ ": is read only") else .ok (s.setVar name value)

/-- Removes a variable. -/
def unsetVar (s : ShellState) (name : String) : ShellState :=
  { s with vars := s.vars.filter (·.1 != name), exported := s.exported.filter (· != name) }

/-- Marks a name exported. -/
def exportName (s : ShellState) (name : String) : ShellState :=
  if s.exported.contains name then s else { s with exported := s.exported ++ [name] }

/-- The letters of the options that are on, as `$-` shows them: last option of the table first. -/
def optionLetters (s : ShellState) : String :=
  String.ofList (optionTable.reverse.filterMap fun (c, name) => if s.opt name then c else none)

/-- The value of a parameter, if set: special parameters, positional parameters, variables. -/
def param? (s : ShellState) (name : String) : Option String :=
  match name with
  | "$" => some (toString s.rootPid)
  | "?" => some (toString s.status)
  | "#" => some (toString s.args.length)
  | "!" => s.lastBackground.map toString
  | "-" => some s.optionLetters
  | "0" => some s.arg0
  | "@" | "*" => some (" ".intercalate s.args)
  | _ =>
    match name.toNat? with
    | some n => if n = 0 then some s.arg0 else s.args[n - 1]?
    | none => s.var? name

/-- The state after starting a command in a new process, which takes a job number for as long
as it runs and so frees the number of a job `wait` has seen end, if that number comes first. -/
def forked (s : ShellState) : ShellState := { s with jobs := (freeJobNumber s.jobs).2 }

/-- The state after starting a job of `commands` commands in the background in process `pid`. -/
def addJob (s : ShellState) (pid commands : Nat) : ShellState :=
  let (n, jobs) := freeJobNumber s.jobs
  { s with jobs := ⟨n, pid, commands, false⟩ :: jobs, lastBackground := some pid }

/-- The environment a child starts with: the exported variables. -/
def environment (s : ShellState) : List (String × String) :=
  (s.exported.filterMap fun n => (s.var? n).map (n, ·)).reverse

end ShellState

/-- Whether a frame belongs to a loop. -/
def Frame.isLoop : Frame → Bool
  | .loopTest .. | .loopNext .. | .forNext .. => true
  | _ => false

/-- The status from before the innermost trap action that is running, if one is: what `exit`
and `return` without an operand give inside a trap action. -/
def trapStatus? : List Frame → Option Nat
  | [] => none
  | .endTrap st :: _ => some st
  | .endShell st :: _ => some st
  | _ :: rest => trapStatus? rest

/-- Whether nothing would run after a command with these frames below it, so that it is the
shell's last command. -/
def atTail : List Frame → Bool
  | [] => true
  | .chunks [] _ :: rest => atTail rest
  | .checkExit :: rest => atTail rest
  | _ => false

/-- Whether a frame ends a function call. -/
def Frame.isCall : Frame → Bool
  | .endCall .. => true
  | _ => false

/-- Whether a frame ends a script read by `.`. -/
def Frame.isSourceEnd : Frame → Bool
  | .endSource _ true => true
  | _ => false

/-- The environment of the controlling program. -/
def defaultEnv : List (String × String) :=
  [("HOME", "/root"), ("PATH", "/usr/local/sbin:/usr/local/bin:/usr/sbin:/usr/bin:/sbin:/bin"),
    ("PWD", scratchDir)]

/-- A machine at time 0 with nothing running. -/
def World.initial : World := { env := defaultEnv }

end CrashTest.Os
