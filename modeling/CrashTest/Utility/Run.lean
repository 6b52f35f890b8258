import CrashTest.Utility.Simple
import CrashTest.Utility.Files
import CrashTest.Utility.Lines
import CrashTest.Utility.Seq
import CrashTest.Utility.Expr
/-!
Running an installed program that does its work at once, and reading the operands of `env`.

`env` either prints the environment it would give, or runs a command in it: `-i` (or `-`) starts
from an empty environment, `-u NAME` removes a variable, `-C DIR` changes directory, and operands
`NAME=VALUE` set variables up to the first operand that is not one, which is the command.
-/
namespace CrashTest.Utility

open CrashTest.Os

/-- Runs a program that does its work at once. `sleep`, the shell and `env` with a command are
started by the system instead; here they do nothing. -/
def runTool (t : Tool) (inv : Invocation) : Effect :=
  match t with
  | .success => runTrue inv
  | .failure => runFalse inv
  | .echo => runEcho inv
  | .printf => runPrintf inv
  | .test => runTest false inv
  | .bracket => runTest true inv
  | .pwd => runPwd inv
  | .printenv => runPrintenv inv
  | .basename => runBasename inv
  | .dirname => runDirname inv
  | .whoami => runWhoami inv
  | .id => runId inv
  | .uname => runUname inv
  | .nproc => runNproc inv
  | .cat => runCat inv
  | .touch => runTouch inv
  | .rm => runRm inv
  | .rmdir => runRmdir inv
  | .mkdir => runMkdir inv
  | .ln => runLn inv
  | .cp => runCopy false inv
  | .mv => runCopy true inv
  | .chmod => runChmod inv
  | .readlink => runReadlink inv
  | .realpath => runRealpath inv
  | .ls => runLs inv
  | .head => runEnds false inv
  | .tail => runEnds true inv
  | .wc => runWc inv
  | .sort => runSort inv
  | .uniq => runUniq inv
  | .rev => runRev inv
  | .cut => runCut inv
  | .tr => runTr inv
  | .tee => runTee inv
  | .yes => runYes inv
  | .seq => runSeq inv
  | .expr => runExpr inv
  | .env | .shell | .sleep => Effect.start inv

/-- What `env` does: finish with an effect, or run a command with an environment in a working
directory. -/
inductive EnvPlan where
  | finish (e : Effect)
  | exec (env : List (String × String)) (cwd : String) (command : List String)

/-- Sets a variable in an environment, keeping its place if it was there. -/
def envSet (env : List (String × String)) (name value : String) : List (String × String) :=
  if env.any (·.1 == name) then env.map fun (k, v) => if k == name then (k, value) else (k, v)
  else env ++ [(name, value)]

/-- Reads the operands of `env`. -/
def envPlan (inv : Invocation) : EnvPlan :=
  let specs : List OptionSpec := [⟨'i', false, "ignore-environment"⟩, ⟨'u', true, "unset"⟩,
    ⟨'0', false, "null"⟩, ⟨'C', true, "chdir"⟩, ⟨'v', false, "debug"⟩]
  -- a lone "-" is the same as -i
  let (dash, args) := match inv.args with
    | "-" :: rest => (true, rest)
    | rest => (false, rest)
  match readOptions inv.name specs true (fun _ => false) args with
  | .error m => .finish (optionFailure inv m 125)
  | .ok r =>
    let (dash, operands) := match r.operands with
      | "-" :: rest => (true, rest)
      | rest => (dash, rest)
    let env := if dash || r.has 'i' then [] else inv.env
    let env := r.options.foldl (fun env (c, v) =>
      if c == 'u' then env.filter (·.1 != v.getD "") else env) env
    let assignments := operands.takeWhile (·.contains '=')
    let command := operands.drop assignments.length
    let env := assignments.foldl (fun env a =>
      match a.splitOn "=" with
      | k :: vs => envSet env k ("=".intercalate vs)
      | [] => env) env
    let cwd := match r.last? 'C' with
      | some d => normalize inv.cwd d
      | none => inv.cwd
    if command.isEmpty then
      if (r.last? 'C').isSome then
        .finish (optionFailure inv (usageError inv.name "must specify command with --chdir (-C)") 125)
      else
        let ending := if r.has '0' then "\x00" else "\n"
        .finish ((Effect.start inv).say (String.join (env.map fun (k, v) => k ++ "=" ++ v ++ ending)))
    else .exec env cwd command

end CrashTest.Utility
