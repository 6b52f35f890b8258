import CrashTest.Text.ByteText
/-!
A file system of absolute paths.

Every entry is a directory, a regular file with its bytes, a symbolic link, a device, or an
installed program; directories, files and programs have permission bits. Paths are byte texts.
A path is resolved the way the kernel resolves it: a relative path starts at a working
directory, empty and `.` components are skipped, `..` goes to the parent of the directory
reached so far, and a symbolic link met on the way is followed (the last component only when
asked, as `stat` does and `lstat` does not). Following more than forty links fails.

The file system starts with the usual top-level directories, `/bin`, `/sbin` and `/lib` as links
into `/usr`, a password file, the devices `/dev/null` (reads as empty, swallows writes),
`/dev/full` (refuses writes), and `/dev/stdin`, `/dev/stdout` and `/dev/stderr`, the programs
this library knows installed in `/usr/bin` with `sh` a link to `dash`, and one empty scratch
directory that processes start in.
-/
namespace CrashTest.Os

open CrashTest.Text

/-- A program the system can run. -/
inductive Tool where
  | shell
  | echo
  | sleep
  | cat
  | touch
  | rm
  | rmdir
  | mkdir
  | success
  | failure
  | yes
  | printf
  | test
  | bracket
  | env
  | printenv
  | pwd
  | seq
  | head
  | tail
  | wc
  | tr
  | cut
  | expr
  | ls
  | basename
  | dirname
  | chmod
  | ln
  | cp
  | mv
  | readlink
  | realpath
  | sort
  | uniq
  | tee
  | whoami
  | uname
  | id
  | rev
  | nproc
  deriving DecidableEq, Repr, Inhabited

/-- The installed name of each program, in `/usr/bin`. -/
def toolNames : List (String × Tool) :=
  [("dash", .shell), ("echo", .echo), ("sleep", .sleep), ("cat", .cat), ("touch", .touch),
    ("rm", .rm), ("rmdir", .rmdir), ("mkdir", .mkdir), ("true", .success), ("false", .failure),
    ("printf", .printf), ("test", .test), ("[", .bracket), ("env", .env),
    ("printenv", .printenv), ("pwd", .pwd), ("seq", .seq), ("head", .head), ("tail", .tail),
    ("wc", .wc), ("tr", .tr), ("cut", .cut), ("expr", .expr), ("ls", .ls),
    ("basename", .basename), ("dirname", .dirname), ("chmod", .chmod), ("ln", .ln), ("cp", .cp),
    ("mv", .mv), ("readlink", .readlink), ("realpath", .realpath), ("sort", .sort),
    ("uniq", .uniq), ("tee", .tee), ("whoami", .whoami), ("uname", .uname), ("id", .id),
    ("rev", .rev), ("nproc", .nproc), ("yes", .yes)]

/-- A device file. -/
inductive Device where
  /-- Reads as empty, swallows writes. -/
  | null
  /-- Reads as empty, refuses writes: the disk is full. -/
  | full
  /-- The process's own descriptor `n`. -/
  | fd (n : Nat)
  deriving DecidableEq, Repr, Inhabited

/-- What a path names. -/
inductive Entry where
  | dir (mode : Nat)
  | file (data : Bytes) (mode : Nat)
  | link (target : String)
  | device (d : Device)
  | program (t : Tool)
  deriving DecidableEq, Repr, Inhabited

namespace Entry

/-- Whether the entry is a directory. -/
def isDir : Entry → Bool
  | .dir _ => true
  | _ => false

/-- The permission bits. -/
def mode : Entry → Nat
  | .dir m | .file _ m => m
  | .link _ => 0o777
  | .device _ => 0o666
  | .program _ => 0o755

/-- The size in bytes. -/
def size : Entry → Nat
  | .file data _ => data.length
  | .dir _ => 4096
  | .link target => target.length
  | .program _ => 4096
  | .device _ => 0

end Entry

/-- The kind of file a path names, as `stat` reports it. -/
inductive FileKind where
  | regular
  | directory
  | symlink
  | charDevice
  deriving DecidableEq, Repr, Inhabited

/-- What `stat` reports about a file: its kind, permission bits, size, and an identity shared by
all the names of one file. -/
structure FileStat where
  kind : FileKind
  mode : Nat
  size : Nat
  id : String
  deriving DecidableEq, Repr, Inhabited

/-- The kind of an entry. -/
def Entry.kind : Entry → FileKind
  | .dir _ => .directory
  | .file .. | .program _ => .regular
  | .link _ => .symlink
  | .device _ => .charDevice

/-- Why a file operation failed, as the system reports it. -/
inductive FileError where
  | noEntry
  | denied
  | isDir
  | notDir
  | exists
  | notEmpty
  | loop
  | noSpace
  | badFd
  | invalid
  /-- A file that is neither a program nor a script with a `#!` line. -/
  | noExec
  deriving DecidableEq, Repr, Inhabited

namespace FileError

/-- The error number. -/
def errno : FileError → Nat
  | .noEntry => 2
  | .denied => 13
  | .isDir => 21
  | .notDir => 20
  | .exists => 17
  | .notEmpty => 39
  | .loop => 40
  | .noSpace => 28
  | .badFd => 9
  | .invalid => 22
  | .noExec => 8

/-- The system's words for the error. -/
def text : FileError → String
  | .noEntry => "No such file or directory"
  | .denied => "Permission denied"
  | .isDir => "Is a directory"
  | .notDir => "Not a directory"
  | .exists => "File exists"
  | .notEmpty => "Directory not empty"
  | .loop => "Too many levels of symbolic links"
  | .noSpace => "No space left on device"
  | .badFd => "Bad file descriptor"
  | .invalid => "Invalid argument"
  | .noExec => "Exec format error"

end FileError

/-- The file system: entries by resolved absolute path. -/
structure FileSystem where
  entries : List (String × Entry)
  deriving Repr, Inhabited

/-- The components of a path after lexical normalisation against `cwd`. -/
def normalComponents (cwd path : String) : List String :=
  let full := if path.startsWith "/" then path else cwd ++ "/" ++ path
  let step (acc : List String) (c : String) : List String :=
    if c.isEmpty || c == "." then acc
    else if c == ".." then acc.drop 1
    else c :: acc
  ((full.splitOn "/").foldl step []).reverse

/-- A path normalised lexically against `cwd`: absolute, with no empty, `.` or `..`
components. -/
def normalize (cwd path : String) : String := "/" ++ "/".intercalate (normalComponents cwd path)

/-- The directory `cd` changes to for `dest` from `curdir`, worked out on the text alone: `.` is
dropped and `..` drops the component before it, never going above the root. Exactly two slashes
at the start of a path name a root of their own, which is kept. -/
def logicalPath (curdir dest : String) : String :=
  let rootOf := fun (path : String) => if path.startsWith "//" && !path.startsWith "///" then "//" else "/"
  let (root, base) : String × List String :=
    if dest.startsWith "/" then (rootOf dest, [])
    else (rootOf curdir, (curdir.splitOn "/").filter (· != ""))
  let comps := ((dest.splitOn "/").filter (· != "")).foldl (fun acc c =>
    if c == "." then acc
    else if c == ".." then acc.dropLast
    else acc ++ [c]) base
  root ++ "/".intercalate comps

/-- The path of the directory holding a normalised path. -/
def parentOf (path : String) : String :=
  let cs := normalComponents "/" path
  "/" ++ "/".intercalate (cs.take (cs.length - 1))

/-- The last component of a path. -/
def baseName (path : String) : String := ((path.splitOn "/").filter (!·.isEmpty)).getLastD "/"

/-- Joins a directory and a name. -/
def joinPath (dir name : String) : String := if dir == "/" then "/" ++ name else dir ++ "/" ++ name

/-- The scratch directory processes start in. -/
def scratchDir : String := "/tmp/scratch"

/-- The password file's text. -/
def passwdText : String := String.join (List.map (· ++ "\n") [
  "root:x:0:0:root:/root:/bin/bash",
  "daemon:x:1:1:daemon:/usr/sbin:/usr/sbin/nologin",
  "bin:x:2:2:bin:/bin:/usr/sbin/nologin",
  "sys:x:3:3:sys:/dev:/usr/sbin/nologin",
  "sync:x:4:65534:sync:/bin:/bin/sync",
  "games:x:5:60:games:/usr/games:/usr/sbin/nologin",
  "man:x:6:12:man:/var/cache/man:/usr/sbin/nologin",
  "lp:x:7:7:lp:/var/spool/lpd:/usr/sbin/nologin",
  "mail:x:8:8:mail:/var/mail:/usr/sbin/nologin",
  "news:x:9:9:news:/var/spool/news:/usr/sbin/nologin",
  "uucp:x:10:10:uucp:/var/spool/uucp:/usr/sbin/nologin",
  "proxy:x:13:13:proxy:/bin:/usr/sbin/nologin",
  "www-data:x:33:33:www-data:/var/www:/usr/sbin/nologin",
  "backup:x:34:34:backup:/var/backups:/usr/sbin/nologin",
  "list:x:38:38:Mailing List Manager:/var/list:/usr/sbin/nologin",
  "irc:x:39:39:ircd:/run/ircd:/usr/sbin/nologin",
  "_apt:x:42:65534::/nonexistent:/usr/sbin/nologin",
  "nobody:x:65534:65534:nobody:/nonexistent:/usr/sbin/nologin"])

namespace FileSystem

/-- The file system a request starts with. -/
def initial : FileSystem :=
  let dirs := ["/", "/usr", "/usr/bin", "/usr/sbin", "/usr/lib", "/usr/local", "/usr/local/bin",
    "/usr/local/sbin", "/etc", "/tmp", "/dev", "/root", "/var", "/home", "/proc", scratchDir]
  let programs := toolNames.map fun (name, t) => ("/usr/bin/" ++ name, Entry.program t)
  ⟨dirs.map (fun d => (d, Entry.dir (if d == "/tmp" then 0o1777 else 0o755))) ++
    [("/bin", .link "usr/bin"), ("/sbin", .link "usr/sbin"), ("/lib", .link "usr/lib"),
      ("/usr/bin/sh", .link "dash"),
      ("/etc/passwd", .file (encode passwdText) 0o644),
      ("/dev/null", .device .null), ("/dev/full", .device .full),
      ("/dev/stdin", .device (.fd 0)), ("/dev/stdout", .device (.fd 1)),
      ("/dev/stderr", .device (.fd 2))] ++ programs⟩

/-- The entry stored at a resolved path. -/
def get? (fs : FileSystem) (path : String) : Option Entry :=
  (fs.entries.find? (·.1 == path)).map (·.2)

/-- Resolves the components `cs` from the resolved directory `cur`, following links (in the
last component only when `follow`); `budget` bounds the links followed. -/
def walk (fs : FileSystem) (follow : Bool) : Nat → String → List String → Except FileError String
  | 0, _, _ => .error .loop
  | budget + 1, cur, cs =>
    match cs with
    | [] => .ok cur
    | c :: rest =>
      if c.isEmpty || c == "." then walk fs follow budget cur rest
      else if c == ".." then walk fs follow budget (parentOf cur) rest
      else
        let next := joinPath cur c
        match fs.get? next with
        | some (.link target) =>
          if rest.isEmpty && !follow then .ok next
          else
            let start := if target.startsWith "/" then "/" else cur
            walk fs follow budget start ((target.splitOn "/") ++ rest)
        | some (.dir _) => walk fs follow budget next rest
        | some _ => if rest.all (fun r => r.isEmpty) then .ok next else .error .notDir
        | none => if rest.all (fun r => r.isEmpty) then .ok next else .error .noEntry

/-- The resolved path of `path` from `cwd`, following a link in the last component when
`follow`; the last component need not exist. -/
def resolve (fs : FileSystem) (cwd path : String) (follow : Bool) : Except FileError String :=
  let full := if path.startsWith "/" then path else cwd ++ "/" ++ path
  walk fs follow 41 "/" (full.splitOn "/")

/-- What a path names, links followed (as `stat` sees it). -/
def find? (fs : FileSystem) (cwd path : String) : Option Entry :=
  match fs.resolve cwd path true with
  | .ok p => fs.get? p
  | .error _ => none

/-- What a path names, a link in the last component not followed (as `lstat` sees it). -/
def findLink? (fs : FileSystem) (cwd path : String) : Option Entry :=
  match fs.resolve cwd path false with
  | .ok p => fs.get? p
  | .error _ => none

/-- What `stat` reports for a path, links followed. -/
def stat (fs : FileSystem) (cwd path : String) : Option FileStat :=
  match fs.resolve cwd path true with
  | .ok p => (fs.get? p).map fun e => ⟨e.kind, e.mode, e.size, p⟩
  | .error _ => none

/-- What `lstat` reports for a path, a link in the last component not followed. -/
def lstat (fs : FileSystem) (cwd path : String) : Option FileStat :=
  match fs.resolve cwd path false with
  | .ok p => (fs.get? p).map fun e => ⟨e.kind, e.mode, e.size, p⟩
  | .error _ => none

/-- Why a path names nothing: the error of resolving it, or "No such file or directory". -/
def missing (fs : FileSystem) (cwd path : String) : FileError :=
  match fs.resolve cwd path true with
  | .error e => e
  | .ok _ => .noEntry

/-- Whether a path names a directory. -/
def isDir (fs : FileSystem) (cwd path : String) : Bool := (fs.find? cwd path).any Entry.isDir

/-- Sets what a resolved path names. -/
def put (fs : FileSystem) (path : String) (e : Entry) : FileSystem :=
  ⟨(path, e) :: fs.entries.filter (·.1 != path)⟩

/-- Removes a resolved path. -/
def erase (fs : FileSystem) (path : String) : FileSystem := ⟨fs.entries.filter (·.1 != path)⟩

/-- The names directly inside a resolved directory, in byte order. -/
def children (fs : FileSystem) (dir : String) : List String :=
  let prefix_ := if dir == "/" then "/" else dir ++ "/"
  let names := fs.entries.filterMap fun (p, _) =>
    if p.startsWith prefix_ && p != dir then
      let rest := (p.drop prefix_.length).toString
      if rest.contains '/' || rest.isEmpty then none else some rest
    else none
  names.mergeSort (fun a b => decide (a ≤ b))

/-- Checks that the directory that would hold a new entry at a resolved path exists. -/
def checkParent (fs : FileSystem) (path : String) : Except FileError Unit :=
  match fs.get? (parentOf path) with
  | some (.dir _) => .ok ()
  | some _ => .error .notDir
  | none => .error .noEntry

/-- Opens a path for writing, creating it if absent and emptying it unless `append`: the
resolved path, or why it cannot be opened. With `exclusive`, an existing regular file is
refused. -/
def openWrite (fs : FileSystem) (cwd path : String) (append exclusive : Bool) :
    Except FileError (FileSystem × String) := do
  let p ← fs.resolve cwd path true
  match fs.get? p with
  | some (.dir _) => throw .isDir
  | some (.device _) => return (fs, p)
  | some (.program _) => if exclusive then throw .exists else throw .denied
  | some (.file data m) =>
    if exclusive then throw .exists
    else return (fs.put p (.file (if append then data else []) m), p)
  | some (.link _) => throw .loop
  | none =>
    fs.checkParent p
    return (fs.put p (.file [] 0o644), p)

/-- Adds bytes to the end of a resolved regular file; writes to anything else are dropped. -/
def appendBytes (fs : FileSystem) (path : String) (bs : Bytes) : FileSystem :=
  match fs.get? path with
  | some (.file data m) => fs.put path (.file (data ++ bs) m)
  | _ => fs

/-- The bytes of a path, for reading. -/
def read (fs : FileSystem) (cwd path : String) : Except FileError Bytes :=
  match fs.find? cwd path with
  | some (.file data _) => .ok data
  | some (.device _) => .ok []
  | some (.dir _) => .error .isDir
  | some (.program _) => .ok (encode "\x7fELF")
  | some (.link _) => .error .loop
  | none => .error (fs.missing cwd path)

end FileSystem

end CrashTest.Os
