import CrashTest.Os.World
import CrashTest.Shell.Expand
/-!
A shell process on the machine.

These are the moves every part of the shell needs: reading and storing the state of the shell a
process runs, reporting an error as `name: line: message`, ending the shell (its exit trap runs
first, and its status is taken modulo 256), starting a child shell (a subshell, a pipeline side,
a command substitution) with a copy of the state, and unwinding frames from the stack, putting
back what the dropped frames kept.

A command substitution runs before the command that holds it: the command stays on top of the
stack, the child writes into a pipe the shell reads, and once the child has ended its output
(without trailing line ends) takes the place of the substitution in the command, which then runs
again and finds its next substitution, or none.
-/
namespace CrashTest.Os

open CrashTest.Shell CrashTest.Text

namespace World

/-- The shell a live process runs, if it runs one. -/
def shellOf? (w : World) (pid : Nat) : Option ShellState :=
  match w.proc? pid with
  | some { program := .shell s, exit := none, .. } => some s
  | _ => none

/-- Stores the state of the shell a live process runs; anything else is left alone. -/
def putShell (w : World) (pid : Nat) (s : ShellState) : World :=
  w.modifyProc pid fun p =>
    match p.program, p.exit with
    | .shell _, none => { p with program := .shell s }
    | _, _ => p

/-- Changes the state of the shell a live process runs. -/
def modifyShell (w : World) (pid : Nat) (f : ShellState → ShellState) : World :=
  match w.shellOf? pid with
  | some s => w.putShell pid (f s)
  | none => w

/-- Forgets a closed pipe whose bytes have been taken. -/
def dropPipe (w : World) (id : Nat) : World := { w with pipes := w.pipes.filter (·.id != id) }

/-- The signals a shell passes on as ignored to what it starts: those ignored when it started
and those it set an empty trap for. -/
def ignoredBy (p : Proc) (s : ShellState) : List Nat :=
  p.ignored ++ (s.traps.filter fun (n, a) => n != 0 && a.isEmpty).map (·.1)

/-- Starts a shell process as a child of `parent`, with descriptors `fds`. -/
def spawnShell (w : World) (parent : Proc) (s : ShellState) (fds : FdTable) : World × Nat :=
  let pid := w.nextPid
  let child : Proc :=
    { pid := pid, parent := some parent.pid, program := .shell s, fds := fds,
      ignored := ignoredBy parent s, cwd := parent.cwd, env := parent.env, readyAt := w.now }
  ({ w with procs := w.procs ++ [child], nextPid := pid + 1 }, pid)

end World

end CrashTest.Os

namespace CrashTest.Shell

open CrashTest.Os CrashTest.Text

/-! ## Command substitutions not yet run -/

mutual

/-- The first command substitution of a part that has not run yet: its text and line. -/
def partSubst? : Part → Option (String × Nat)
  | .subst script line _ => some (script, line)
  | .param _ _ word _ => wordSubst? word
  | .arith expr _ => wordSubst? expr
  | _ => none

/-- The first command substitution of a word that has not run yet. -/
def wordSubst? : List Part → Option (String × Nat)
  | [] => none
  | p :: ps =>
    match partSubst? p with
    | some r => some r
    | none => wordSubst? ps

end

/-- The first command substitution of words that has not run yet. -/
def wordsSubst? : List Word → Option (String × Nat)
  | [] => none
  | w :: ws =>
    match wordSubst? w with
    | some r => some r
    | none => wordsSubst? ws

mutual

/-- Puts the output of the first substitution not yet run in its place; `false` if none. -/
def fillPart (text : String) : Part → Part × Bool
  | .subst _ _ q => (.done text q, true)
  | .param n op word q =>
    let (word', hit) := fillWord text word
    (.param n op word' q, hit)
  | .arith expr q =>
    let (expr', hit) := fillWord text expr
    (.arith expr' q, hit)
  | p => (p, false)

/-- Puts the output of the first substitution of a word not yet run in its place. -/
def fillWord (text : String) : List Part → List Part × Bool
  | [] => ([], false)
  | p :: ps =>
    let (p', hit) := fillPart text p
    if hit then (p' :: ps, true)
    else
      let (ps', hit') := fillWord text ps
      (p :: ps', hit')

end

/-- Puts the output of the first substitution of words not yet run in its place. -/
def fillWords (text : String) : List Word → List Word × Bool
  | [] => ([], false)
  | w :: ws =>
    let (w', hit) := fillWord text w
    if hit then (w' :: ws, true)
    else
      let (ws', hit') := fillWords text ws
      (w :: ws', hit')

/-- Whether a word holds the output of a substitution that has run. -/
def wordHasOutput (w : Word) : Bool :=
  w.any fun p => match p with
    | .done .. => true
    | _ => false

mutual

/-- Whether a part holds the output of a substitution that has run, at any depth. -/
def partHoldsOutput : Part → Bool
  | .done .. => true
  | .param _ _ word _ => wordHoldsOutput word
  | .arith expr _ => wordHoldsOutput expr
  | _ => false

/-- Whether a word holds the output of a substitution that has run, at any depth. -/
def wordHoldsOutput : List Part → Bool
  | [] => false
  | p :: ps => partHoldsOutput p || wordHoldsOutput ps

end

/-- How many commands a pipeline has: one for a command that is not a pipeline. -/
def Cmd.pipeCommands : Cmd → Nat
  | .pipe a b => a.pipeCommands + b.pipeCommands
  | _ => 1

/-- Whether a command is part way through its expansions: some substitution of it has run. -/
def Cmd.midway : Cmd → Bool
  | .simple _ assigns words redirs =>
    words.any wordHoldsOutput || redirs.any (fun r => wordHoldsOutput r.target) ||
      assigns.any (fun a => wordHoldsOutput a.2)
  | .forIn _ (some ws) _ => ws.any wordHoldsOutput
  | .caseOf subject _ => wordHoldsOutput subject
  | _ => false

/-- The first substitution of a command not yet run, taking the words first, then the
redirection targets, then the values assigned. -/
def Cmd.pendingSubst? : Cmd → Option (String × Nat)
  | .simple _ assigns words redirs =>
    match wordsSubst? words with
    | some r => some r
    | none =>
      match wordsSubst? (redirs.map (·.target)) with
      | some r => some r
      | none => wordsSubst? (assigns.map (·.2))
  | .forIn _ (some ws) _ => wordsSubst? ws
  | .caseOf subject _ => wordSubst? subject
  | _ => none

/-- A command with the output of its first substitution not yet run in place. -/
def Cmd.fillSubst (text : String) : Cmd → Cmd
  | .simple line assigns words redirs =>
    let (words', hit) := fillWords text words
    if hit then .simple line assigns words' redirs
    else
      let (targets, hit') := fillWords text (redirs.map (·.target))
      if hit' then .simple line assigns words (List.zipWith (fun r t => { r with target := t }) redirs targets)
      else
        let (values, _) := fillWords text (assigns.map (·.2))
        .simple line (List.zipWith (fun a v => (a.1, v)) assigns values) words redirs
  | .forIn name (some ws) body => .forIn name (some (fillWords text ws).1) body
  | .caseOf subject arms => .caseOf (fillWord text subject).1 arms
  | c => c

/-- The output of a command substitution: its bytes without the line ends at the end. -/
def substText (bs : Bytes) : String := ofBytes (bs.reverse.dropWhile (· == 10)).reverse

/-! ## Reporting and ending -/

/-- The prefix of a shell's messages: its name and the line of the running command. -/
def shellPrefix (s : ShellState) : String := s.arg0 ++ ": " ++ toString s.line ++ ": "

/-- The prefix of the shell's own messages: its name, the line of the running command, and the
name of the script or command whose text is running, if any. -/
def messagePrefix (s : ShellState) : String :=
  shellPrefix s ++ (match s.commandName with
    | some n => n ++ ": "
    | none => "")

/-- Writes a shell's error message, after its name and the line of the running command. -/
def report (w : World) (pid : Nat) (s : ShellState) (msg : String) : World :=
  w.writeText pid 2 (messagePrefix s ++ msg ++ "\n")

/-- Ends a shell with a status, running its exit trap first if it has one. -/
def leave (w : World) (pid : Nat) (s : ShellState) (status : Nat) : World :=
  match s.traps.find? (·.1 == 0) with
  | some (_, action) =>
    if action.isEmpty then w.finish pid (.code (status % 256))
    else
      w.putShell pid { s with
        traps := s.traps.filter (·.1 != 0), status := status, wait := none, pending := [],
        stack := [.chunks (chunksOf action 1) false, .endShell (status % 256)] }
  | none => w.finish pid (.code (status % 256))

/-- Stores the shell with a status. -/
def setStatus (w : World) (pid : Nat) (s : ShellState) (status : Nat) : World :=
  w.putShell pid { s with status := status }

/-- The state a child shell starts with: the parent's variables, functions and parameters, the
given frames, only the traps that ignore a signal, and no jobs. -/
def childState (s : ShellState) (stack : List Frame) : ShellState :=
  { s with
    stack := stack, wait := none, pending := [], jobs := [], execsLast := true,
    traps := s.traps.filter fun (n, a) => n != 0 && a.isEmpty }

/-- Starts a command substitution: a child shell writing into a new pipe that the shell reads. -/
def startSubst (w : World) (pid : Nat) (p : Proc) (s : ShellState) (script : String) (line : Nat) :
    World :=
  let (w, pipe) := w.newPipe .capture
  let (w, child) := w.spawnShell p (childState s [.chunks (chunksOf script line) false])
    (fdSet p.fds 1 (.pipe pipe))
  w.putShell pid { s.forked with wait := some (.subst child pipe) }

/-- Puts back variables as they were saved; the name `-` stands for the options, saved as their
names joined by commas. -/
def restoreVars (s : ShellState) (saved : List SavedVar) : ShellState :=
  saved.foldl (fun st v =>
    if v.name == "-" then { st with options := ((v.value.getD "").splitOn ",").filter (· != "") }
    else
      match v.value with
      | some x =>
        let st := st.setVar v.name x
        if v.exported then st.exportName v.name else { st with exported := st.exported.filter (· != v.name) }
      | none => st.unsetVar v.name) s

/-- A descriptor table with the saved descriptors put back. -/
def restoreTable (fds : FdTable) (saved : List (Nat × Option Fd)) : FdTable :=
  saved.foldl (fun t (n, fd) => match fd with
    | some f => fdSet t n f
    | none => fdClose t n) fds

/-- The descriptors redirections are about to change, as they are now. -/
def savedFds (fds : FdTable) (redirs : List Redir) : List (Nat × Option Fd) :=
  (redirs.map (·.fd)).eraseDups.map fun n => (n, fdLookup fds n)

/-- Drops frames from the top of the stack until `stop` picks one, which stays; the descriptors
and variables that dropped frames kept are put back. -/
def unwind (w : World) (pid : Nat) (stop : Frame → Bool) :
    List Frame → ShellState → World × ShellState × List Frame
  | [], s => (w, s, [])
  | f :: rest, s =>
    if stop f then (w, s, f :: rest)
    else
      match f with
      | .restoreFds saved =>
        unwind ((w.modifyProc pid fun p => { p with fds := restoreTable p.fds saved }).closeUnheld) pid stop rest s
      | .endSource saved _ => unwind w pid stop rest { s with commandName := saved }
      | .restoreVars saved => unwind w pid stop rest (restoreVars s saved)
      | .endCall args locals => unwind w pid stop rest (restoreVars { s with args := args } locals)
      | _ => unwind w pid stop rest s

end CrashTest.Shell
