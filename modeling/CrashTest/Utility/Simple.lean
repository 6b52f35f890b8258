import CrashTest.Utility.Basic
import CrashTest.Text.Echo
import CrashTest.Condition.Program
/-!
Programs that only look at their operands and surroundings: `true`, `false`, `echo`, `printf`,
`test` and `[`, `pwd`, `printenv`, `env` without a command, `basename`, `dirname`, `whoami`,
`id`, `uname` and `nproc`.

The machine they run on is a Linux machine named `localhost` with four processors, and its one
user is `root`.
-/
namespace CrashTest.Utility

open CrashTest.Os CrashTest.Text CrashTest.Condition

/-- `true`. -/
def runTrue (inv : Invocation) : Effect := Effect.start inv

/-- `false`. -/
def runFalse (inv : Invocation) : Effect := (Effect.start inv).exit 1

/-- `echo`. -/
def runEcho (inv : Invocation) : Effect := (Effect.start inv).say (programEcho inv.args)

/-- `printf`. -/
def runPrintf (inv : Invocation) : Effect :=
  if inv.args.isEmpty || inv.args == ["--"] then optionFailure inv (usageError inv.name "missing operand") 1
  else
  let o := programPrintf inv.args
  let e := o.emits.foldl (fun (e : Effect) em =>
    match em with
    | .out s => e.say s
    | .warn m => e.complain (inv.name ++ ": " ++ m)
    | .line l => e.complain l) (Effect.start inv)
  e.exit o.status

/-- `test`, or `[` when `bracket`. -/
def runTest (bracket : Bool) (inv : Invocation) : Effect :=
  let view := FileView.ofSystem inv.fs inv.cwd
  let result := if bracket then programBracket view inv.args else programTest view inv.args
  match result with
  | .ok b => (Effect.start inv).exit (if b then 0 else 1)
  | .error m => ((Effect.start inv).complain (inv.name ++ ": " ++ m)).exit 2

/-- The directory a path resolves to with every link followed. -/
def physicalPath (fs : FileSystem) (cwd path : String) : String :=
  match fs.resolve cwd path true with
  | .ok p => p
  | .error _ => normalize cwd path

/-- `pwd`: the physical working directory, or with `-L` the one in `PWD` when it names it. -/
def runPwd (inv : Invocation) : Effect :=
  match readOptions inv.name [⟨'L', false, "logical"⟩, ⟨'P', false, "physical"⟩] false (fun _ => false) inv.args with
  | .error m => ((Effect.start inv).complain m).exit 1
  | .ok r =>
    let logical := r.options.getLast?.map (·.1) == some 'L'
    let physical := physicalPath inv.fs "/" inv.cwd
    let shown := if logical then
        match envLookup inv.env "PWD" with
        | some p => if p.startsWith "/" && physicalPath inv.fs "/" p == physical then p else physical
        | none => physical
      else physical
    let e := if r.operands.isEmpty then Effect.start inv
      else (Effect.start inv).complain (inv.name ++ ": ignoring non-option arguments")
    e.say (shown ++ "\n")

/-- `printenv`: the whole environment, or the values of the variables named. -/
def runPrintenv (inv : Invocation) : Effect :=
  match readOptions inv.name [⟨'0', false, "null"⟩] false (fun _ => false) inv.args with
  | .error m => ((Effect.start inv).complain m).exit 2
  | .ok r =>
    let ending := if r.has '0' then "\x00" else "\n"
    if r.operands.isEmpty then
      (Effect.start inv).say (String.join (inv.env.map fun (k, v) => k ++ "=" ++ v ++ ending))
    else
      let (e, missing) := r.operands.foldl (fun (acc : Effect × Bool) n =>
        match envLookup inv.env n with
        | some v => if n.contains '=' then (acc.1, true) else (acc.1.say (v ++ ending), acc.2)
        | none => (acc.1, true)) (Effect.start inv, false)
      if missing then e.exit 1 else e

/-- The last component of a path, as `basename` sees it: trailing slashes dropped. -/
def baseOf (path : String) : String :=
  let cs := path.toList
  if cs.isEmpty then ""
  else if cs.all (· = '/') then "/"
  else
    let trimmed := (cs.reverse.dropWhile (· = '/')).reverse
    String.ofList (trimmed.reverse.takeWhile (· ≠ '/')).reverse

/-- The directory part of a path, as `dirname` sees it. -/
def dirOf (path : String) : String :=
  let cs := (path.toList.reverse.dropWhile (· = '/')).reverse
  if cs.isEmpty then (if path.startsWith "/" then "/" else ".")
  else
    let dir := (cs.reverse.dropWhile (· ≠ '/')).reverse
    if dir.isEmpty then "."
    else
      let dir := (dir.reverse.dropWhile (· = '/')).reverse
      if dir.isEmpty then "/" else String.ofList dir

/-- `basename`. -/
def runBasename (inv : Invocation) : Effect :=
  match readOptions inv.name [⟨'a', false, "multiple"⟩, ⟨'s', true, "suffix"⟩, ⟨'z', false, "zero"⟩] false (fun _ => false) inv.args with
  | .error m => ((Effect.start inv).complain m).exit 1
  | .ok r =>
    let ending := if r.has 'z' then "\x00" else "\n"
    let strip (suffix : String) (b : String) : String :=
      if !suffix.isEmpty && b.endsWith suffix && b != suffix then (b.dropEnd suffix.length).toString else b
    let multiple := r.has 'a' || r.has 's'
    match r.operands with
    | [] => ((Effect.start inv).complain (usageError inv.name "missing operand")).exit 1
    | ops =>
      if multiple then
        let suffix := (r.last? 's').getD ""
        (Effect.start inv).say (String.join (ops.map fun p => strip suffix (baseOf p) ++ ending))
      else
        match ops with
        | [p] => (Effect.start inv).say (baseOf p ++ ending)
        | [p, suffix] => (Effect.start inv).say (strip suffix (baseOf p) ++ ending)
        | _ :: _ :: extra :: _ =>
          ((Effect.start inv).complain (usageError inv.name ("extra operand " ++ curvedQuote extra))).exit 1
        | [] => Effect.start inv

/-- `dirname`. -/
def runDirname (inv : Invocation) : Effect :=
  match readOptions inv.name [⟨'z', false, "zero"⟩] false (fun _ => false) inv.args with
  | .error m => ((Effect.start inv).complain m).exit 1
  | .ok r =>
    let ending := if r.has 'z' then "\x00" else "\n"
    match r.operands with
    | [] => ((Effect.start inv).complain (usageError inv.name "missing operand")).exit 1
    | ops => (Effect.start inv).say (String.join (ops.map fun p => dirOf p ++ ending))

/-- `whoami`. -/
def runWhoami (inv : Invocation) : Effect := (Effect.start inv).say "root\n"

/-- `id`. -/
def runId (inv : Invocation) : Effect :=
  match readOptions inv.name [⟨'u', false, "user"⟩, ⟨'g', false, "group"⟩, ⟨'n', false, "name"⟩,
      ⟨'G', false, "groups"⟩, ⟨'r', false, "real"⟩] false (fun _ => false) inv.args with
  | .error m => ((Effect.start inv).complain m).exit 1
  | .ok r =>
    let named := r.has 'n'
    if r.has 'u' || r.has 'g' || r.has 'G' then (Effect.start inv).say (if named then "root\n" else "0\n")
    else (Effect.start inv).say "uid=0(root) gid=0(root) groups=0(root)\n"

/-- `uname`. -/
def runUname (inv : Invocation) : Effect :=
  match readOptions inv.name [⟨'a', false, "all"⟩, ⟨'s', false, "kernel-name"⟩, ⟨'n', false, "nodename"⟩,
      ⟨'r', false, "kernel-release"⟩, ⟨'v', false, "kernel-version"⟩, ⟨'m', false, "machine"⟩,
      ⟨'p', false, "processor"⟩, ⟨'i', false, "hardware-platform"⟩, ⟨'o', false, "operating-system"⟩]
      false (fun _ => false) inv.args with
  | .error m => ((Effect.start inv).complain m).exit 1
  | .ok r =>
    let all := r.has 'a'
    let fields : List (Char × String) :=
      [('s', "Linux"), ('n', "localhost"), ('r', "6.1.0"), ('v', "#1 SMP"), ('m', "x86_64"),
        ('p', "unknown"), ('i', "unknown"), ('o', "GNU/Linux")]
    let chosen := fields.filter fun (c, v) =>
      if all then !(v == "unknown") else r.has c
    let chosen := if chosen.isEmpty then [('s', "Linux")] else chosen
    (Effect.start inv).say (" ".intercalate (chosen.map (·.2)) ++ "\n")

/-- `nproc`. -/
def runNproc (inv : Invocation) : Effect := (Effect.start inv).say "4\n"

end CrashTest.Utility
