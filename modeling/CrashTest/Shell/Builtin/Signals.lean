import CrashTest.Shell.Builtin.Vars
/-!
The commands about signals: `trap` and `kill`.

The shell names signals without the `SIG` prefix: `EXIT` for 0, the kernel's names for 1 to 31
but a plain number for 16 (the stack fault, which it has no name for), plain numbers for 32 and 33, and `RTMIN`, `RTMIN+1`, ..., `RTMAX-1`, `RTMAX` for the real-time
signals 34 to 64. A signal operand is a number below 65 or such a name in any case; `SIG` in front
is not allowed.

`trap` with no operands lists the actions set, in signal order; with one operand, or when the
first operand is a signal number, it resets the signals named; otherwise the first operand is the
action (`-` resets) for the signals after it. A signal it does not know stops it with status 1.

`kill` reads a signal as `-s name`, `-name` or `-number` (default `TERM`) and sends it to each
pid or job (`%n`, the `n`-th job started in the background), or with `-l` lists signal names, or
names the signal of an exit status above 128.
-/
namespace CrashTest.Shell

open CrashTest.Os CrashTest.Text

/-- The shell's name of a signal number from 0 to 64. -/
def shellSignalName (n : Nat) : String :=
  if n = 0 then "EXIT"
  else if n = 16 then "16"
  else if n < 32 then signalName n
  else if n < 34 then toString n
  else if n = 34 then "RTMIN"
  else if n ≤ 49 then "RTMIN+" ++ toString (n - 34)
  else if n < 64 then "RTMAX-" ++ toString (64 - n)
  else "RTMAX"

/-- The signal an operand names: a number below 65, or a name from `least` on, in any case. -/
def decodeSignal (s : String) (least : Nat) : Option Nat :=
  if isDigits s then
    match s.toNat? with
    | some n => if n < 65 then some n else none
    | none => none
  else
    (List.range 65).find? fun n => least ≤ n && (shellSignalName n).toUpper == s.toUpper

/-- The line of a trap listing. -/
def trapLine (n : Nat) (action : String) : String :=
  "trap -- " ++ shellSingleQuote action ++ " " ++ shellSignalName n ++ "\n"

/-- The `trap` command. -/
def trapCommand (s : ShellState) (args : List String) : Outcome :=
  match shellOptions "" args with
  | .error e => (Outcome.ok s).raise "trap" e
  | .ok (_, []) =>
    let sorted := s.traps.mergeSort (fun a b => decide (a.1 ≤ b.1))
    (Outcome.ok s).say (String.join (sorted.map fun (n, a) => trapLine n a))
  | .ok (_, args) =>
    let signalNumber := fun (a : String) => isDigits a && (a.toNat?.getD 65) < 65
    let (action, names) : Option String × List String := match args with
      | [one] => (none, [one])
      | a :: rest =>
        if signalNumber a then (none, a :: rest) else (if a == "-" then none else some a, rest)
      | [] => (none, [])
    let rec go : List String → ShellState → Outcome
      | [], st => Outcome.ok st
      | n :: rest, st =>
        match decodeSignal n 0 with
        | none => ((Outcome.ok st).note ("trap: " ++ n ++ ": bad trap\n")).withStatus 1
        | some sig =>
          let traps := st.traps.filter (·.1 != sig)
          let traps := match action with
            | some act => traps ++ [(sig, act)]
            | none => traps
          go rest { st with traps := traps }
    go names s

/-- What `kill` is asked to do. -/
inductive KillPlan where
  /-- Write a listing. -/
  | list (text : String)
  /-- Send a signal to these targets in order: a pid, or with a minus sign a process group;
  an operand that names no target stops the sending there with its message. -/
  | send (sig : Nat) (targets : List (Except String Int))
  /-- Fail with this message. -/
  | fail (message : String)
  deriving Repr, Inhabited

/-- The usage message of `kill`. -/
def killUsage : String :=
  "Usage: kill [-s sigspec | -signum | -sigspec] [pid | job]... or\nkill -l [exitstatus]"

/-- The job an operand names: `%n` by number; `%`, `%%` and `%+` the current job; `%-` the one
before it; `%?` the only job there is, as no job keeps its command's text for a word to match.
The message says why no job is found. -/
def findJob (jobs : List Job) (spec : String) : Except String Job :=
  let noSuch : Except String Job := .error ("No such job: " ++ spec)
  if !spec.startsWith "%" then noSuch
  else
    match (spec.drop 1).toString with
    | "" | "%" | "+" =>
      match jobs.head? with
      | some j => .ok j
      | none => .error "No current job"
    | "-" =>
      match jobs[1]? with
      | some j => .ok j
      | none => .error "No previous job"
    | "?" =>
      match jobs with
      | [j] => .ok j
      | [] => noSuch
      | _ => .error (spec ++ ": ambiguous")
    | rest =>
      if isDigits rest then
        match jobs.find? (·.number == rest.toNat!) with
        | some j => .ok j
        | none => noSuch
      else noSuch

/-- Reads one target of `kill`: a job stands for its process group, which a job started without
job control does not have. -/
def killTarget (jobs : List Job) (t : String) : Except String Int :=
  if t.startsWith "%" then (findJob jobs t).map fun j => -(j.pid : Int)
  else if t.startsWith "-" then
    match shellCount? (t.drop 1).toString with
    | some n => .ok (-(n : Int))
    | none => .error ("Illegal number: " ++ (t.drop 1).toString)
  else
    match shellCount? t with
    | some n => .ok (n : Int)
    | none => .error ("Illegal number: " ++ t)

/-- Reads the operands of `kill`. -/
def killPlan (jobs : List Job) (args : List String) : KillPlan :=
  match args with
  | [] => .fail killUsage
  | first :: rest =>
    let parsed : Except String (Option Nat × Bool × List String) :=
      if first.startsWith "-" then
        match decodeSignal (first.drop 1).toString 1 with
        | some sig => .ok (some sig, false, rest)
        | none =>
          match shellOptions "ls:" args with
          | .error e => .error e
          | .ok (opts, operands) =>
            let listing := opts.any (·.1 == 'l')
            let named := opts.filterMap fun (c, v) => if c = 's' then v else none
            match named.getLast? with
            | some name =>
              match decodeSignal name 1 with
              | some sig => .ok (some sig, listing, operands)
              | none => .error ("invalid signal number or name: " ++ name)
            | none => .ok (none, listing, operands)
      else .ok (none, false, args)
    match parsed with
    | .error e => .fail e
    | .ok (sig, listing, operands) =>
      let sig := if !listing && sig.isNone then some sigTerm else sig
      if (sig.isNone || operands.isEmpty) != listing then .fail killUsage
      else if listing then
        match operands with
        | [] => .list ("0\n" ++ String.join ((List.range 64).map fun i => shellSignalName (i + 1) ++ "\n"))
        | a :: _ =>
          match shellCount? a with
          | none => .fail ("Illegal number: " ++ a)
          | some n =>
            let n := if n > 128 then n - 128 else n
            if 0 < n && n < 65 then .list (shellSignalName n ++ "\n")
            else .fail ("invalid signal number or exit status: " ++ a)
      else .send (sig.getD sigTerm) (operands.map (killTarget jobs))

end CrashTest.Shell
