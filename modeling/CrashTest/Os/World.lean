import CrashTest.Os.State
/-!
Basic operations on the machine: finding processes and pipes, writing bytes, closing pipes that
no process holds, ending processes and delivering signals.

Writing to a forwarded pipe publishes each line as soon as its line end is written: the line
without its line end, and without a carriage return just before it. A line that is not UTF-8
stops the forwarding of that pipe for good. When the pipe closes, an unfinished last line is
published as it is.
-/
namespace CrashTest.Os

open CrashTest.Text CrashTest.Shell

/-- Whether a descriptor leads to pipe `id`. -/
def Fd.isPipe (id : Nat) : Fd → Bool
  | .pipe j => j == id
  | _ => false

/-- Whether a shell's frames keep a descriptor on pipe `id` to restore later. -/
def Frame.holds (id : Nat) : Frame → Bool
  | .restoreFds saved => saved.any fun (_, fd) => fd.any (·.isPipe id)
  | _ => false

/-- Whether a live process holds pipe `id`. -/
def Proc.holds (p : Proc) (id : Nat) : Bool :=
  p.exit.isNone &&
    (p.fds.any (·.2.isPipe id) ||
      match p.program with
      | .shell s => s.stack.any (·.holds id)
      | _ => false)

/-- Whether the process has not ended. -/
def Proc.alive (p : Proc) : Bool := p.exit.isNone

/-- The descriptor `n` of a table. -/
def fdLookup (fds : FdTable) (n : Nat) : Option Fd := (fds.find? (·.1 == n)).map (·.2)

/-- Sets descriptor `n` of a table. -/
def fdSet (fds : FdTable) (n : Nat) (fd : Fd) : FdTable := (n, fd) :: fds.filter (·.1 != n)

/-- Closes descriptor `n` of a table. -/
def fdClose (fds : FdTable) (n : Nat) : FdTable := fds.filter (·.1 != n)

/-- Splits bytes at the first line end: the line and the rest after the line end. -/
def splitLine (bs : Bytes) : Option (Bytes × Bytes) :=
  match bs.findIdx? (· == 10) with
  | some i => some (bs.take i, bs.drop (i + 1))
  | none => none

/-- A finished line without a carriage return at its end. -/
def dropReturn (bs : Bytes) : Bytes :=
  if bs.getLast? == some 13 then bs.dropLast else bs

namespace World

/-- The process with this pid. -/
def proc? (w : World) (pid : Nat) : Option Proc := w.procs.find? (·.pid == pid)

/-- Changes the process with this pid. -/
def modifyProc (w : World) (pid : Nat) (f : Proc → Proc) : World :=
  { w with procs := w.procs.map fun p => if p.pid == pid then f p else p }

/-- The pipe with this number. -/
def pipe? (w : World) (id : Nat) : Option Pipe := w.pipes.find? (·.id == id)

/-- Changes the pipe with this number. -/
def modifyPipe (w : World) (id : Nat) (f : Pipe → Pipe) : World :=
  { w with pipes := w.pipes.map fun p => if p.id == id then f p else p }

/-- A new pipe read by `sink`; returns its number. -/
def newPipe (w : World) (sink : Sink) : World × Nat :=
  ({ w with pipes := w.pipes ++ [{ id := w.nextPipe, sink }], nextPipe := w.nextPipe + 1 },
    w.nextPipe)

/-- Publishes the finished lines held by a forwarded pipe, stopping it at a line that is not
UTF-8. -/
def flushLines (w : World) (id : Nat) : Nat → World
  | 0 => w
  | fuel + 1 =>
    match w.pipe? id with
    | some ⟨_, .forward pid stream, data, _, false⟩ =>
      match splitLine data with
      | none => w
      | some (line, rest) =>
        match decodeStrict? (dropReturn line) with
        | some text =>
          let w' := { w with bus := w.bus.publish ⟨pid, stream, text⟩ }
          flushLines (w'.modifyPipe id fun p => { p with data := rest }) id fuel
        | none => w.modifyPipe id fun p => { p with data := [], detached := true }
    | _ => w

/-- Writes bytes to where a descriptor leads: the machine afterwards, or why the write failed.
Nothing is written, and nothing fails, for no bytes. -/
def writeTo (w : World) (fd : Fd) (bs : Bytes) : Except FileError World :=
  if bs.isEmpty then .ok w
  else
    match fd with
    | .pipe id =>
      match w.pipe? id with
      | some p =>
        if p.detached then .ok w
        else
          let w' := w.modifyPipe id fun p => { p with data := p.data ++ bs }
          match p.sink with
          | .forward .. => .ok (w'.flushLines id (bs.length + 1))
          | .capture => .ok w'
      | none => .ok w
    | .file path => .ok { w with fs := w.fs.appendBytes path bs }
    | .null => .ok w
    | .full => .error .noSpace
    | .input _ => .error .badFd

/-- Writes bytes to descriptor `n` of a process: the machine afterwards, and why the write
failed if it did. A descriptor that is not open fails with "Bad file descriptor". -/
def tryWriteFd (w : World) (pid : Nat) (n : Nat) (bs : Bytes) : World × Option FileError :=
  if bs.isEmpty then (w, none)
  else
    match (w.proc? pid).bind (fun p => fdLookup p.fds n) with
    | some fd =>
      match w.writeTo fd bs with
      | .ok w' => (w', none)
      | .error e => (w, some e)
    | none => (w, some .badFd)

/-- Writes bytes to descriptor `n` of a process, dropping them if they cannot be written. -/
def writeFd (w : World) (pid : Nat) (n : Nat) (bs : Bytes) : World := (w.tryWriteFd pid n bs).1

/-- Writes a byte text to descriptor `n` of a process. -/
def writeText (w : World) (pid : Nat) (n : Nat) (s : String) : World := w.writeFd pid n (bytesOf s)

/-- The unread input of a process's standard input. -/
def stdinOf (w : World) (pid : Nat) : Bytes :=
  match (w.proc? pid).bind (fun p => fdLookup p.fds 0) with
  | some (.input bs) => bs
  | _ => []

/-- Closes every open pipe that no live process holds, publishing a forwarded pipe's
unfinished last line. -/
def closeUnheld (w : World) : World :=
  w.pipes.foldl (fun w p =>
    if p.closed || w.procs.any (·.holds p.id) then w
    else
      let w := w.modifyPipe p.id fun q => { q with closed := true }
      match p.sink, p.detached, p.data with
      | .forward pid stream, false, data@(_ :: _) =>
        let w := w.modifyPipe p.id fun q => { q with data := [] }
        match decodeStrict? data with
        | some text => { w with bus := w.bus.publish ⟨pid, stream, text⟩ }
        | none => w.modifyPipe p.id fun q => { q with detached := true }
      | _, _, _ => w) w

/-- Ends a process with this exit, releasing its descriptors; its parent is told that a child
has ended. -/
def finish (w : World) (pid : Nat) (e : Exit) : World :=
  let parent := (w.proc? pid).bind fun p => if p.alive then p.parent else none
  let w := w.modifyProc pid fun p =>
    if p.alive then { p with exit := some e, program := .ended, fds := [] } else p
  let w := match parent with
    | some ppid => w.modifyProc ppid fun q => if q.alive then { q with childEnded := true } else q
    | none => w
  w.closeUnheld

/-- Stops forwarding a pipe: nothing more from it is published. -/
def detach (w : World) (id : Nat) : World :=
  w.modifyPipe id fun p => { p with detached := true, data := if p.sink == .capture then p.data else [] }

/-- Delivers a signal to a process: `false` if there is no live process with this pid. A
`KILL` always ends the process; an ignored signal does nothing; a shell with a trap for the
signal notes it to handle between commands; otherwise the default action applies. -/
def signal (w : World) (pid : Nat) (sig : Nat) : World × Bool :=
  match w.proc? pid with
  | some p =>
    if !p.alive then (w, false)
    else if sig == 0 then (w, true)
    else if sig == sigKill then (w.finish pid (.signaled sig), true)
    else if p.ignored.contains sig then (w, true)
    else
      match p.program with
      | .shell s =>
        match s.traps.find? (·.1 == sig) with
        | some (_, "") => (w, true)
        | some _ =>
          (w.modifyProc pid fun q => { q with program := .shell { s with pending := s.pending ++ [sig] } }, true)
        | none =>
          if ignoredByDefault sig then (w, true) else (w.finish pid (.signaled sig), true)
      | _ => if ignoredByDefault sig then (w, true) else (w.finish pid (.signaled sig), true)
  | none => (w, false)

/-- The bytes kept by a capturing pipe. -/
def captured (w : World) (id : Nat) : Bytes := ((w.pipe? id).map (·.data)).getD []

/-- Whether a pipe has closed. -/
def pipeClosed (w : World) (id : Nat) : Bool := ((w.pipe? id).map (·.closed)).getD true

end World

end CrashTest.Os
