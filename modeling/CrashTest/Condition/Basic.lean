import CrashTest.Os.Files
/-!
What the `test` command asks about files.

A file question is a letter after a dash, asked of a path: whether it exists, is readable,
writable or executable, what kind of file it is, whether a permission bit is set, whether it is
empty, and who owns it. The machine's only user is the superuser, who owns every file, may read
and write everything, and may execute a directory or a file with any execute bit. Only `-L` and
`-h` look at a symbolic link itself; the others follow it.

Two paths name the same file (`-ef`) when they resolve to the same entry. Files carry no
modification times, so neither is newer than the other.
-/
namespace CrashTest.Condition

open CrashTest.Os

/-- How a `test` command sees files: `stat` and `lstat` of a path. -/
structure FileView where
  stat : String → Option FileStat
  lstat : String → Option FileStat

/-- The view of a file system from a working directory. -/
def FileView.ofSystem (fs : FileSystem) (cwd : String) : FileView :=
  ⟨fs.stat cwd, fs.lstat cwd⟩

/-- The letters of the file questions the shell's `test` asks. -/
def fileLetters : List Char := ['r', 'w', 'x', 'e', 'f', 'd', 'c', 'b', 'p', 'u', 'g', 'k', 's',
  'h', 'O', 'G', 'L', 'S']

/-- The answer to the file question `letter` about a path. -/
def fileQuestion (view : FileView) (letter : Char) (path : String) : Bool :=
  let st := if letter = 'L' || letter = 'h' then view.lstat path else view.stat path
  match st with
  | none => false
  | some s =>
    match letter with
    | 'r' | 'w' | 'e' | 'O' | 'G' => true
    | 'x' => s.kind == .directory || s.mode &&& 0o111 != 0
    | 'f' => s.kind == .regular
    | 'd' => s.kind == .directory
    | 'c' => s.kind == .charDevice
    | 'h' | 'L' => s.kind == .symlink
    | 'u' => s.mode &&& 0o4000 != 0
    | 'g' => s.mode &&& 0o2000 != 0
    | 'k' => s.mode &&& 0o1000 != 0
    | 's' => s.size > 0
    | _ => false

/-- Whether two paths name the same file. -/
def sameFile (view : FileView) (a b : String) : Bool :=
  match view.stat a, view.stat b with
  | some x, some y => x.id == y.id
  | _, _ => false

end CrashTest.Condition
