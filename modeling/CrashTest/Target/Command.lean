import CrashTest.Target.Snapshot
import CrashTest.Control.Wait
/-!
Probe commands run against the target.

A probe command is started from the scratch directory with the controller's environment plus
`CRASHPROBE_PID`, the target's pid, with no input, its output and error output each read to the
end. It is done when it has ended and both of its outputs are closed. The outputs are decoded
leniently and trimmed of White_Space. A command that takes too long, or whose wait is cut short,
is killed.

When a command fails, what it said on its error output is the detail, else what it said on its
output, else its exit code, else that a signal ended it.
-/
namespace CrashTest.Target

open CrashTest CrashTest.Os CrashTest.Text CrashTest.Control

/-- The environment variable that carries the target's pid into probe commands. -/
def pidVariable : String := "CRASHPROBE_PID"

/-- What a finished command left behind. -/
structure CommandOutput where
  success : Bool
  stdout : String
  stderr : String
  /-- The exit code, unless a signal ended the command. -/
  code : Option Int
  deriving DecidableEq, Repr, Inhabited

/-- What a failed command said, for messages. -/
def CommandOutput.failureDetail (o : CommandOutput) : String :=
  let text := if o.stderr.isEmpty then o.stdout else o.stderr
  if !text.isEmpty then text
  else
    match o.code with
    | some c => "exit code " ++ toString c
    | none => "terminated by signal"

/-- The output of a command that ended with `e`, from the bytes of its two outputs. -/
def CommandOutput.ofExit (e : Exit) (out err : Bytes) : CommandOutput :=
  let code : Option Int := match e with
    | .code n => some (Int.ofNat n)
    | .signaled _ => none
  { success := code == some 0, stdout := trimBlank (decodeLossy out),
    stderr := trimBlank (decodeLossy err), code := code }

/-- Kills a probe command whose wait is over and forgets its pipes. -/
def abandon (w : World) (child out err : Nat) : World :=
  ((w.signal child sigKill).1.dropPipe out).dropPipe err

/-- Runs a probe command for target `pid`, within `limit` if given, giving up at `outer`. -/
def runCommand (w : World) (intr : Interrupt) (outer : Option Nat) (argv : List String)
    (pid : Nat) (limit : Option Duration) : Waited World (Except TargetError CommandOutput) :=
  let rendered := " ".intercalate argv
  match argv with
  | [] => .done w (.error (.failed rendered "empty command"))
  | program :: args =>
    let (w1, out) := w.newPipe .capture
    let (w1, err) := w1.newPipe .capture
    let env := (w.env.filter (·.1 != pidVariable)) ++ [(pidVariable, toString pid)]
    let l : Launch :=
      { program := byteText program, argv0 := byteText program, args := args.map byteText,
        env := env.map (fun (k, v) => (byteText k, byteText v)), cwd := scratchDir,
        fds := [(0, .null), (1, .pipe out), (2, .pipe err)], ignored := [], parent := none }
    match w1.spawn l with
    | .error e => .done w (.error (.spawn rendered e.errno))
    | .ok (w1, child) =>
      let inner := limit.map fun d => w1.now + d.nanos
      let finished := fun (w : World) =>
        match (w.proc? child).bind (·.exit) with
        | some e =>
          if w.pipeClosed out && w.pipeClosed err then
            some (CommandOutput.ofExit e (w.captured out) (w.captured err))
          else none
        | none => none
      match waitUntil w1 intr (earlier inner outer) false none finished with
      | .done w2 o => .done ((w2.dropPipe out).dropPipe err) (.ok o)
      | .interrupted w2 => .interrupted (abandon w2 child out err)
      | .expired w2 =>
        match inner, limit with
        | some i, some d =>
          if outer.all (i ≤ ·) then .done (abandon w2 child out err) (.error (.timeout rendered d))
          else .expired (abandon w2 child out err)
        | _, _ => .expired (abandon w2 child out err)

/-- Whether the target is ready: the ready command succeeds, or alive means ready. -/
def isReady (c : ProbeCommands) (w : World) (intr : Interrupt) (outer : Option Nat) (pid : Nat) :
    Waited World (Except TargetError Bool) :=
  match c.ready with
  | none => .done w (.ok true)
  | some argv =>
    match runCommand w intr outer argv pid (some c.timeout) with
    | .done w r => .done w (r.map (·.success))
    | .interrupted w => .interrupted w
    | .expired w => .expired w

/-- The target's own consistency check. -/
def checkConsistency (c : ProbeCommands) (w : World) (intr : Interrupt) (outer : Option Nat)
    (pid : Nat) : Waited World (Except TargetError Consistency) :=
  match c.consistency with
  | none => .done w (.ok .consistent)
  | some argv =>
    match runCommand w intr outer argv pid (some c.timeout) with
    | .done w r =>
      .done w (r.map fun o => if o.success then .consistent else .inconsistent o.failureDetail)
    | .interrupted w => .interrupted w
    | .expired w => .expired w

/-- The target's observable state. -/
def observableState (c : ProbeCommands) (w : World) (intr : Interrupt) (outer : Option Nat)
    (pid : Nat) : Waited World (Except TargetError StateSnapshot) :=
  match c.state with
  | none => .done w (.error (.notConfigured "state"))
  | some argv =>
    match runCommand w intr outer argv pid (some c.timeout) with
    | .done w (.ok o) =>
      if o.success then .done w (.ok ⟨o.stdout⟩)
      else .done w (.error (.failed (" ".intercalate argv) o.failureDetail))
    | .done w (.error e) => .done w (.error e)
    | .interrupted w => .interrupted w
    | .expired w => .expired w

/-- Drives the monitored workload; its command has no time limit. -/
def runWorkload (c : ProbeCommands) (w : World) (intr : Interrupt) (outer : Option Nat)
    (pid : Nat) : Waited World (Except TargetError Unit) :=
  match c.workload with
  | none => .done w (.ok ())
  | some argv =>
    match runCommand w intr outer argv pid none with
    | .done w (.ok o) =>
      if o.success then .done w (.ok ())
      else .done w (.error (.failed (" ".intercalate argv) o.failureDetail))
    | .done w (.error e) => .done w (.error e)
    | .interrupted w => .interrupted w
    | .expired w => .expired w

end CrashTest.Target
