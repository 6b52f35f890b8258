import CrashTest.Shell.Process
/-!
Redirections.

Redirections are made left to right on a descriptor table, each target expanded to one text
first. `>` creates or empties a file, unless `set -C` is on and a regular file of that name exists;
`>|` always does; `>>` writes at the end; `<` reads; `<>` reads, creating the file if need be;
`>&n` and `<&n` copy descriptor `n` (one digit), and `>&-`, `<&-` close. A here-document gives
its body, expanded unless its delimiter was quoted, as the input.

The devices `/dev/null`, `/dev/full`, `/dev/stdin`, `/dev/stdout` and `/dev/stderr` open as
themselves: the last three as copies of descriptors 0, 1 and 2.

A target whose expansion fails ends the shell. A file that cannot be opened stops the command
with status 2: "cannot create" for writing and "cannot open" for reading, with the reason, where a
missing directory reads "Directory nonexistent" and a missing file "No such file".
-/
namespace CrashTest.Shell

open CrashTest.Os CrashTest.Text

/-- Why redirections failed: an expansion, or a file or descriptor that could not be opened. -/
inductive RedirError where
  | expansion (e : ExpandError)
  | failed (message : String)
  deriving Repr, Inhabited

/-- The words the shell uses when a file cannot be opened for a redirection. -/
def openError (creating : Bool) : FileError → String
  | .noEntry | .notDir => if creating then "Directory nonexistent" else "No such file"
  | e => e.text

/-- The descriptor a device file opens as, if the path names one. -/
def deviceFd (fs : FileSystem) (cwd path : String) (fds : FdTable) : Option (Option Fd) :=
  match fs.find? cwd path with
  | some (.device .null) => some (some .null)
  | some (.device .full) => some (some .full)
  | some (.device (.fd n)) => some (fdLookup fds n)
  | _ => none

/-- Opens a file for writing as a redirection does: the machine afterwards and the descriptor,
or the message. -/
def openForWriting (w : World) (s : ShellState) (cwd target : String) (fds : FdTable)
    (op : RedirOp) : Except String (World × Fd) :=
  match deviceFd w.fs cwd target fds with
  | some (some fd) => .ok (w, fd)
  | some none => .error ("cannot create " ++ target ++ ": " ++ openError true .badFd)
  | none =>
    let exclusive := op == .write && s.opt "noclobber"
    match w.fs.openWrite cwd target (op == .append) exclusive with
    | .ok (fs, path) => .ok ({ w with fs := fs }, .file path)
    | .error e => .error ("cannot create " ++ target ++ ": " ++ openError true e)

/-- Applies redirections to a descriptor table, opening (and creating or emptying) files as they
say. -/
def redirect (w : World) (s : ShellState) (cwd : String) (fds : FdTable) :
    List Redir → Except RedirError (World × ShellState × FdTable)
  | [] => .ok (w, s, fds)
  | r :: rest =>
    match expandText s r.target with
    | .error e => .error (.expansion e)
    | .ok (target, s) =>
      match r.op with
      | .write | .clobber | .append =>
        match openForWriting w s cwd target fds r.op with
        | .ok (w, fd) => redirect w s cwd (fdSet fds r.fd fd) rest
        | .error m => .error (.failed m)
      | .read =>
        match deviceFd w.fs cwd target fds with
        | some (some .null) | some (some .full) => redirect w s cwd (fdSet fds r.fd (.input [])) rest
        | some (some fd) => redirect w s cwd (fdSet fds r.fd fd) rest
        | _ =>
          match w.fs.read cwd target with
          | .ok bs => redirect w s cwd (fdSet fds r.fd (.input bs)) rest
          | .error e => .error (.failed ("cannot open " ++ target ++ ": " ++ openError false e))
      | .readWrite =>
        match w.fs.read cwd target with
        | .ok bs => redirect w s cwd (fdSet fds r.fd (.input bs)) rest
        | .error .noEntry =>
          match w.fs.openWrite cwd target false false with
          | .ok (fs, _) => redirect { w with fs := fs } s cwd (fdSet fds r.fd (.input [])) rest
          | .error e => .error (.failed ("cannot create " ++ target ++ ": " ++ openError true e))
        | .error e => .error (.failed ("cannot create " ++ target ++ ": " ++ openError true e))
      | .dupOut | .dupIn =>
        if target == "-" then redirect w s cwd (fdClose fds r.fd) rest
        else
          match target.toList with
          | [c] =>
            if c.isDigit then
              let m := c.toNat - '0'.toNat
              if m == r.fd then redirect w s cwd fds rest
              else
                match fdLookup fds m with
                | some fd => redirect w s cwd (fdSet fds r.fd fd) rest
                | none => .error (.failed (target ++ ": Bad file descriptor"))
            else .error (.expansion (.malformed "Bad fd number"))
          | _ => .error (.expansion (.malformed "Bad fd number"))
      | .heredoc _ => redirect w s cwd (fdSet fds r.fd (.input (bytesOf target))) rest

end CrashTest.Shell
