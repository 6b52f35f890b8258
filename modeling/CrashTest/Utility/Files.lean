import CrashTest.Utility.Basic
/-!
Programs that work on files: `cat`, `touch`, `rm`, `rmdir`, `mkdir`, `ln`, `cp`, `mv`, `chmod`,
`readlink`, `realpath` and `ls`.

They report each file they cannot handle on standard error, go on with the others, and end with
status 1 (2 for `ls`) when any failed. File names appear in messages as the programs quote them:
`cat`, `realpath` and `readlink` only when needed, `mkdir` in curved quotes, the others in single
quotes always. Listings are in byte order, one name a line.
-/
namespace CrashTest.Utility

open CrashTest.Os CrashTest.Text

/-- Replaces every byte below 32 and 127 and above by a visible form, as `cat -v` does; tabs and
line ends stay unless `tabs` asks to show tabs. -/
def showNonprinting (tabs : Bool) (line : String) : String :=
  String.join (line.toList.map fun c =>
    let n := c.toNat
    if c = '\t' then (if tabs then "^I" else "\t")
    else if c = '\n' then "\n"
    else if n < 32 then "^" ++ String.singleton (Char.ofNat (n + 64))
    else if n = 127 then "^?"
    else if n < 128 then String.singleton c
    else if n < 160 then "M-^" ++ String.singleton (Char.ofNat (n - 128 + 64))
    else if n = 255 then "M-^?"
    else "M-" ++ String.singleton (Char.ofNat (n - 128)))

/-- A line number as `cat -n` writes it: right-aligned in six places and a tab. -/
def lineNumber (n : Nat) : String :=
  let s := toString n
  String.ofList (List.replicate (6 - s.length) ' ') ++ s ++ "\t"

/-- `cat`. -/
def runCat (inv : Invocation) : Effect :=
  let specs : List OptionSpec := [⟨'A', false, "show-all"⟩, ⟨'b', false, "number-nonblank"⟩,
    ⟨'e', false, ""⟩, ⟨'E', false, "show-ends"⟩, ⟨'n', false, "number"⟩,
    ⟨'s', false, "squeeze-blank"⟩, ⟨'t', false, ""⟩, ⟨'T', false, "show-tabs"⟩,
    ⟨'u', false, ""⟩, ⟨'v', false, "show-nonprinting"⟩]
  match readOptions inv.name specs false (fun _ => false) inv.args with
  | .error m => optionFailure inv m 1
  | .ok r =>
    let ends := r.has 'A' || r.has 'e' || r.has 'E'
    let tabs := r.has 'A' || r.has 't' || r.has 'T'
    let nonprinting := r.has 'A' || r.has 'e' || r.has 't' || r.has 'v'
    let nonblank := r.has 'b'
    let number := r.has 'n' || nonblank
    let squeeze := r.has 's'
    let plain := !(ends || tabs || nonprinting || number || squeeze)
    let files := if r.operands.isEmpty then ["-"] else r.operands
    -- the state carried over files: the next line number and whether the last line was blank
    let render (text : String) (next : Nat) (lastBlank : Bool) : String × Nat × Bool :=
      (linesOf text).foldl (fun (acc : String × Nat × Bool) line =>
        let (out, k, prevBlank) := acc
        let blank := line == "\n"
        if squeeze && blank && prevBlank then (out, k, true)
        else
          let body := if line.endsWith "\n" then (line.dropEnd 1).toString else line
          let body := if nonprinting then showNonprinting tabs body
            else if tabs then "^I".intercalate (body.splitOn "\t") else body
          let numbered := number && !(nonblank && blank)
          let prefix_ := if numbered then lineNumber k else ""
          let ending := if line.endsWith "\n" then (if ends then "$\n" else "\n") else ""
          (out ++ prefix_ ++ body ++ ending, if numbered then k + 1 else k, blank)) ("", next, lastBlank)
    let (e, _, _) := files.foldl (fun (acc : Effect × Nat × Bool) f =>
      let (e, k, lastBlank) := acc
      let content : Except FileError String :=
        if f == "-" then .ok inv.input else readFileText inv f
      match content with
      | .ok text =>
        if plain then (e.say text, k, lastBlank)
        else
          let (out, k', blank') := render text k lastBlank
          (e.say out, k', blank')
      | .error err => ((e.complain (inv.name ++ ": " ++ nameQuote f ++ ": " ++ err.text)).exit 1, k, lastBlank))
      (Effect.start inv, 1, false)
    e

/-- `touch`: creates the files that do not exist, unless `-c`. -/
def runTouch (inv : Invocation) : Effect :=
  let specs : List OptionSpec := [⟨'a', false, ""⟩, ⟨'c', false, "no-create"⟩, ⟨'m', false, ""⟩,
    ⟨'d', true, "date"⟩, ⟨'r', true, "reference"⟩, ⟨'t', true, ""⟩, ⟨'h', false, "no-dereference"⟩]
  match readOptions inv.name specs false (fun _ => false) inv.args with
  | .error m => optionFailure inv m 1
  | .ok r =>
    if r.operands.isEmpty then optionFailure inv (usageError inv.name "missing file operand") 1
    else
      r.operands.foldl (fun (e : Effect) f =>
        match e.fs.find? inv.cwd f with
        | some _ => e
        | none =>
          if r.has 'c' then e
          else
            match e.fs.openWrite inv.cwd f false false with
            | .ok (fs, _) => { e with fs := fs }
            | .error err => (e.complain (inv.name ++ ": cannot touch " ++ nameQuoteAlways f ++ ": " ++ err.text)).exit 1)
        (Effect.start inv)

/-- Removes a resolved path and everything under it. -/
def removeTree (fs : FileSystem) (path : String) : FileSystem :=
  ⟨fs.entries.filter fun (p, _) => p != path && !p.startsWith (path ++ "/")⟩

/-- `rm`. -/
def runRm (inv : Invocation) : Effect :=
  let specs : List OptionSpec := [⟨'f', false, "force"⟩, ⟨'r', false, "recursive"⟩, ⟨'R', false, ""⟩,
    ⟨'d', false, "dir"⟩, ⟨'i', false, ""⟩, ⟨'I', false, ""⟩, ⟨'v', false, "verbose"⟩]
  match readOptions inv.name specs false (fun _ => false) inv.args with
  | .error m => optionFailure inv m 1
  | .ok r =>
    let force := r.has 'f'
    let recursive := r.has 'r' || r.has 'R'
    if r.operands.isEmpty then
      if force then Effect.start inv else optionFailure inv (usageError inv.name "missing operand") 1
    else
      r.operands.foldl (fun (e : Effect) f =>
        let cannot (why : String) := (e.complain (inv.name ++ ": cannot remove " ++ nameQuoteAlways f ++ ": " ++ why)).exit 1
        let base := baseName f
        if recursive && (base == "." || base == "..") then
          (e.complain (inv.name ++ ": refusing to remove '.' or '..' directory: skipping " ++ nameQuoteAlways f)).exit 1
        else
          match e.fs.resolve inv.cwd f false with
          | .error err => if force && err == .noEntry then e else cannot err.text
          | .ok path =>
            if recursive && path == "/" then
              (e.complain (inv.name ++ ": it is dangerous to operate recursively on '/'")
                |>.complain (inv.name ++ ": use --no-preserve-root to override this failsafe")).exit 1
            else
            match e.fs.get? path with
            | none => if force then e else cannot "No such file or directory"
            | some (.dir _) =>
              if recursive then
                let e := { e with fs := removeTree e.fs path }
                if r.has 'v' then e.say ("removed directory " ++ nameQuoteAlways f ++ "\n") else e
              else if r.has 'd' then
                if (e.fs.children path).isEmpty then { e with fs := e.fs.erase path }
                else cannot "Directory not empty"
              else cannot "Is a directory"
            | some _ =>
              let e := { e with fs := e.fs.erase path }
              if r.has 'v' then e.say ("removed " ++ nameQuoteAlways f ++ "\n") else e)
        (Effect.start inv)

/-- `rmdir`. -/
def runRmdir (inv : Invocation) : Effect :=
  let specs : List OptionSpec := [⟨'p', false, "parents"⟩, ⟨'v', false, "verbose"⟩]
  match readOptions inv.name specs false (fun _ => false) inv.args with
  | .error m => optionFailure inv m 1
  | .ok r =>
    if r.operands.isEmpty then optionFailure inv (usageError inv.name "missing operand") 1
    else
      r.operands.foldl (fun (e : Effect) f =>
        let failed (why : String) := (e.complain (inv.name ++ ": failed to remove " ++ nameQuoteAlways f ++ ": " ++ why)).exit 1
        match e.fs.resolve inv.cwd f false with
        | .error err => failed err.text
        | .ok path =>
          match e.fs.get? path with
          | none => failed "No such file or directory"
          | some (.dir _) =>
            if (e.fs.children path).isEmpty then { e with fs := e.fs.erase path }
            else failed "Directory not empty"
          | some _ => failed "Not a directory")
        (Effect.start inv)

/-- Reads an octal mode. -/
def octalMode? (s : String) : Option Nat :=
  if !s.isEmpty && s.all (fun c => '0' ≤ c && c ≤ '7') && s.length ≤ 4 then
    some (s.toList.foldl (fun acc c => acc * 8 + (c.toNat - '0'.toNat)) 0)
  else none

/-- Applies a symbolic mode such as `u+x,go-w` or `a=r` to permission bits; `none` if it is not
one. -/
def symbolicMode? (mode : Nat) (isDir : Bool) (s : String) : Option Nat :=
  (s.splitOn ",").foldlM (fun (m : Nat) clause => do
    let cs := clause.toList
    let who := cs.takeWhile fun c => "ugoa".contains c
    let rest := cs.drop who.length
    let mask : Nat :=
      if who.isEmpty then 0o777
      else who.foldl (fun acc c => acc ||| (match c with
        | 'u' => 0o4700
        | 'g' => 0o2070
        | 'o' => 0o1007
        | _ => 0o7777)) 0
    let rec actions : Nat → List Char → Nat → Option Nat
      | 0, _, m => some m
      | _, [], m => some m
      | fuel + 1, op :: more, m =>
        if !("+-=".contains op) then none
        else
          let perms := more.takeWhile fun c => "rwxXst".contains c
          let after := more.drop perms.length
          let bits := perms.foldl (fun acc c => acc ||| (match c with
            | 'r' => 0o444
            | 'w' => 0o222
            | 'x' => 0o111
            | 'X' => if isDir || m &&& 0o111 != 0 then 0o111 else 0
            | 's' => 0o6000
            | 't' => 0o1000
            | _ => 0)) 0
          let bits := bits &&& mask
          let m := match op with
            | '+' => m ||| bits
            | '-' => m &&& (0o7777 - bits)
            | _ => (m &&& (0o7777 - (mask &&& 0o7777))) ||| bits
          actions fuel after m
    if rest.isEmpty then none else actions (rest.length + 1) rest m) mode

/-- `mkdir`. -/
def runMkdir (inv : Invocation) : Effect :=
  let specs : List OptionSpec := [⟨'p', false, "parents"⟩, ⟨'m', true, "mode"⟩, ⟨'v', false, "verbose"⟩]
  match readOptions inv.name specs false (fun _ => false) inv.args with
  | .error m => optionFailure inv m 1
  | .ok r =>
    let modeText := r.last? 'm'
    let mode : Option Nat := match modeText with
      | some t => (octalMode? t).orElse fun _ => symbolicMode? 0o755 true t
      | none => some 0o755
    match mode with
    | none => optionFailure inv (inv.name ++ ": invalid mode " ++ curvedQuote (modeText.getD "")) 1
    | some mode =>
      if r.operands.isEmpty then optionFailure inv (usageError inv.name "missing operand") 1
      else
        r.operands.foldl (fun (e : Effect) d =>
          let cannot (why : String) :=
            (e.complain (inv.name ++ ": cannot create directory " ++ curvedQuote d ++ ": " ++ why)).exit 1
          let created (e : Effect) (shown : String) : Effect :=
            if r.has 'v' then e.say (inv.name ++ ": created directory " ++ nameQuoteAlways shown ++ "\n") else e
          if r.has 'p' then
            let comps := d.splitOn "/"
            let absolute := d.startsWith "/"
            let prefixes := (List.range comps.length).filterMap fun i =>
              let part := "/".intercalate (comps.take (i + 1))
              if (comps[i]?.getD "").isEmpty then none else some (if absolute && part.isEmpty then "/" else part)
            prefixes.foldl (fun (e : Effect) p =>
              if e.code != 0 && false then e
              else
                match e.fs.stat inv.cwd p with
                | some st => if st.kind == .directory then e else
                    (e.complain (inv.name ++ ": cannot create directory " ++ curvedQuote p ++ ": Not a directory")).exit 1
                | none =>
                  match e.fs.resolve inv.cwd p false with
                  | .ok path =>
                    match e.fs.checkParent path with
                    | .ok () => created { e with fs := e.fs.put path (.dir (if p == d then mode else 0o755)) } p
                    | .error err => (e.complain (inv.name ++ ": cannot create directory " ++ curvedQuote p ++ ": " ++ err.text)).exit 1
                  | .error err => (e.complain (inv.name ++ ": cannot create directory " ++ curvedQuote p ++ ": " ++ err.text)).exit 1)
              e
          else
            match e.fs.resolve inv.cwd d false with
            | .error err => cannot err.text
            | .ok path =>
              match e.fs.get? path with
              | some _ => cannot "File exists"
              | none =>
                match e.fs.checkParent path with
                | .ok () => created { e with fs := e.fs.put path (.dir mode) } d
                | .error err => cannot err.text)
          (Effect.start inv)

/-- The resolved path where a new name goes: inside `target` when it is a directory. -/
def destinationOf (fs : FileSystem) (cwd target source : String) : String :=
  if fs.isDir cwd target then joinPath target (baseName source) else target

/-- `ln`. -/
def runLn (inv : Invocation) : Effect :=
  let specs : List OptionSpec := [⟨'s', false, "symbolic"⟩, ⟨'f', false, "force"⟩,
    ⟨'n', false, "no-dereference"⟩, ⟨'v', false, "verbose"⟩, ⟨'T', false, "no-target-directory"⟩]
  match readOptions inv.name specs false (fun _ => false) inv.args with
  | .error m => optionFailure inv m 1
  | .ok r =>
    let symbolic := r.has 's'
    let kind := if symbolic then "symbolic link" else "hard link"
    let make (e : Effect) (target name : String) : Effect :=
      match e.fs.resolve inv.cwd name false with
      | .error err => (e.complain (inv.name ++ ": failed to create " ++ kind ++ " " ++ nameQuoteAlways name ++ ": " ++ err.text)).exit 1
      | .ok path =>
        let exists_ := (e.fs.get? path).isSome
        if exists_ && !r.has 'f' then
          (e.complain (inv.name ++ ": failed to create " ++ kind ++ " " ++ nameQuoteAlways name ++ ": File exists")).exit 1
        else
          match e.fs.checkParent path with
          | .error err => (e.complain (inv.name ++ ": failed to create " ++ kind ++ " " ++ nameQuoteAlways name ++ ": " ++ err.text)).exit 1
          | .ok () =>
            if symbolic then { e with fs := e.fs.put path (.link target) }
            else
              match e.fs.find? inv.cwd target with
              | some (.dir _) => (e.complain (inv.name ++ ": " ++ nameQuoteAlways target ++ ": hard link not allowed for directory")).exit 1
              | some entry => { e with fs := e.fs.put path entry }
              | none => (e.complain (inv.name ++ ": failed to access " ++ nameQuoteAlways target ++ ": No such file or directory")).exit 1
    match r.operands with
    | [] => optionFailure inv (usageError inv.name "missing file operand") 1
    | [target] => make (Effect.start inv) target (baseName target)
    | [target, name] =>
      let name := if !r.has 'T' && !r.has 'n' && inv.fs.isDir inv.cwd name then joinPath name (baseName target) else name
      make (Effect.start inv) target name
    | ops =>
      let dir := ops.getLast?.getD ""
      if !inv.fs.isDir inv.cwd dir then optionFailure inv (inv.name ++ ": target " ++ nameQuoteAlways dir ++ " is not a directory") 1
      else ops.dropLast.foldl (fun e t => make e t (joinPath dir (baseName t))) (Effect.start inv)

/-- Copies the entries under a resolved source path to a resolved destination path. -/
def copyTree (fs : FileSystem) (src dst : String) : FileSystem :=
  let inside := fs.entries.filter fun (p, _) => p == src || p.startsWith (src ++ "/")
  inside.foldl (fun fs (p, entry) => fs.put (dst ++ (p.drop src.length).toString) entry) fs

/-- `cp` and, with `move`, `mv`. -/
def runCopy (move : Bool) (inv : Invocation) : Effect :=
  let specs : List OptionSpec := [⟨'r', false, "recursive"⟩, ⟨'R', false, ""⟩, ⟨'f', false, "force"⟩,
    ⟨'p', false, ""⟩, ⟨'a', false, "archive"⟩, ⟨'v', false, "verbose"⟩, ⟨'n', false, "no-clobber"⟩,
    ⟨'i', false, "interactive"⟩, ⟨'T', false, "no-target-directory"⟩]
  match readOptions inv.name specs false (fun _ => false) inv.args with
  | .error m => optionFailure inv m 1
  | .ok r =>
    let recursive := move || r.has 'r' || r.has 'R' || r.has 'a'
    let one (e : Effect) (src dst : String) : Effect :=
      match e.fs.lstat inv.cwd src with
      | none => (e.complain (inv.name ++ ": cannot stat " ++ nameQuoteAlways src ++ ": No such file or directory")).exit 1
      | some st =>
        if st.kind == .directory && !recursive then
          (e.complain (inv.name ++ ": -r not specified; omitting directory " ++ nameQuoteAlways src)).exit 1
        else
          let dstPath := destinationOf e.fs inv.cwd dst src
          match e.fs.resolve inv.cwd src false, e.fs.resolve inv.cwd dstPath true with
          | .ok s, .ok d =>
            if s == d then
              (e.complain (inv.name ++ ": " ++ nameQuoteAlways src ++ " and " ++ nameQuoteAlways dstPath ++ " are the same file")).exit 1
            else if r.has 'n' && (e.fs.get? d).isSome then e
            else
              match e.fs.checkParent d with
              | .error err =>
                (e.complain (inv.name ++ ": cannot create regular file " ++ nameQuoteAlways dstPath ++ ": " ++ err.text)).exit 1
              | .ok () =>
                let copied := copyTree (removeTree e.fs d) s d
                let fs := if move then removeTree copied s |>.put d ((copied.get? d).getD (.file [] 0o644)) else copied
                let fs := if move then copyTree (removeTree fs s) d d else fs
                let e := { e with fs := fs }
                if r.has 'v' then
                  e.say ((if move then "renamed " else "") ++ nameQuoteAlways src ++ " -> " ++ nameQuoteAlways dstPath ++ "\n")
                else e
          | .error err, _ | _, .error err =>
            (e.complain (inv.name ++ ": cannot stat " ++ nameQuoteAlways src ++ ": " ++ err.text)).exit 1
    match r.operands with
    | [] => optionFailure inv (usageError inv.name "missing file operand") 1
    | [src] => optionFailure inv (usageError inv.name ("missing destination file operand after " ++ nameQuoteAlways src)) 1
    | [src, dst] => one (Effect.start inv) src dst
    | ops =>
      let dir := ops.getLast?.getD ""
      if !inv.fs.isDir inv.cwd dir then optionFailure inv (inv.name ++ ": target " ++ nameQuoteAlways dir ++ " is not a directory") 1
      else ops.dropLast.foldl (fun e s => one e s dir) (Effect.start inv)

/-- `chmod`. -/
def runChmod (inv : Invocation) : Effect :=
  let specs : List OptionSpec := [⟨'R', false, "recursive"⟩, ⟨'v', false, "verbose"⟩,
    ⟨'c', false, "changes"⟩, ⟨'f', false, "silent"⟩]
  -- a mode such as -x looks like an option: take it as the mode when it is one
  let (modeFirst, rest) : Option String × List String := match inv.args with
    | a :: more => if a.startsWith "-" && a.length > 1 && (a.toList.drop 1).all (fun c => "rwxXst".contains c)
        then (some a, more) else (none, inv.args)
    | [] => (none, [])
  match readOptions inv.name specs false (fun _ => false) rest with
  | .error m => optionFailure inv m 1
  | .ok r =>
    let (modeText, files) := match modeFirst, r.operands with
      | some m, ops => (some m, ops)
      | none, m :: ops => (some m, ops)
      | none, [] => (none, [])
    match modeText with
    | none => optionFailure inv (usageError inv.name "missing operand") 1
    | some modeText =>
      if files.isEmpty then optionFailure inv (usageError inv.name ("missing operand after " ++ curvedQuote modeText)) 1
      else
        files.foldl (fun (e : Effect) f =>
          match e.fs.resolve inv.cwd f true with
          | .error err => (e.complain (inv.name ++ ": cannot access " ++ nameQuoteAlways f ++ ": " ++ err.text)).exit 1
          | .ok path =>
            match e.fs.get? path with
            | none => (e.complain (inv.name ++ ": cannot access " ++ nameQuoteAlways f ++ ": No such file or directory")).exit 1
            | some entry =>
              let newMode := (octalMode? modeText).orElse fun _ => symbolicMode? entry.mode entry.isDir modeText
              match newMode with
              | none => (e.complain (inv.name ++ ": invalid mode: " ++ curvedQuote modeText)).exit 1
              | some m =>
                let entry := match entry with
                  | .dir _ => .dir m
                  | .file data _ => .file data m
                  | other => other
                { e with fs := e.fs.put path entry })
          (Effect.start inv)

/-- The canonical path of a name: every link followed; with `mustExist` every component must
exist, otherwise all but the last. -/
def canonicalPath (fs : FileSystem) (cwd path : String) (mustExist : Bool) : Option String :=
  match fs.resolve cwd path true with
  | .ok p =>
    if (fs.get? p).isSome then some p
    else if !mustExist && (fs.get? (parentOf p)).any Entry.isDir then some p
    else none
  | .error _ => none

/-- `readlink`. -/
def runReadlink (inv : Invocation) : Effect :=
  let specs : List OptionSpec := [⟨'f', false, "canonicalize"⟩, ⟨'e', false, "canonicalize-existing"⟩,
    ⟨'m', false, "canonicalize-missing"⟩, ⟨'n', false, "no-newline"⟩, ⟨'q', false, "quiet"⟩,
    ⟨'s', false, "silent"⟩, ⟨'v', false, "verbose"⟩, ⟨'z', false, "zero"⟩]
  match readOptions inv.name specs false (fun _ => false) inv.args with
  | .error m => optionFailure inv m 1
  | .ok r =>
    if r.operands.isEmpty then optionFailure inv (usageError inv.name "missing operand") 1
    else
      let ending := if r.has 'n' then "" else if r.has 'z' then "\x00" else "\n"
      r.operands.foldl (fun (e : Effect) f =>
        let found : Option String :=
          if r.has 'f' then canonicalPath inv.fs inv.cwd f false
          else if r.has 'e' then canonicalPath inv.fs inv.cwd f true
          else if r.has 'm' then some (normalize inv.cwd f)
          else match inv.fs.findLink? inv.cwd f with
            | some (.link target) => some target
            | _ => none
        match found with
        | some p => e.say (p ++ ending)
        | none =>
          let e := if r.has 'v' then e.complain (inv.name ++ ": " ++ f ++ ": Invalid argument") else e
          e.exit 1)
        (Effect.start inv)

/-- `realpath`. -/
def runRealpath (inv : Invocation) : Effect :=
  let specs : List OptionSpec := [⟨'e', false, "canonicalize-existing"⟩, ⟨'m', false, "canonicalize-missing"⟩,
    ⟨'q', false, "quiet"⟩, ⟨'s', false, "strip"⟩, ⟨'z', false, "zero"⟩]
  match readOptions inv.name specs false (fun _ => false) inv.args with
  | .error m => optionFailure inv m 1
  | .ok r =>
    if r.operands.isEmpty then optionFailure inv (usageError inv.name "missing operand") 1
    else
      r.operands.foldl (fun (e : Effect) f =>
        let found := if r.has 'm' || r.has 's' then some (normalize inv.cwd f)
          else canonicalPath inv.fs inv.cwd f (r.has 'e')
        match found with
        | some p => e.say (p ++ "\n")
        | none => (e.complain (inv.name ++ ": " ++ nameQuote f ++ ": " ++ (inv.fs.missing inv.cwd f).text)).exit 1)
        (Effect.start inv)

/-- The letter `ls -F` puts after a name. -/
def classifyMark (e : Entry) : String :=
  match e with
  | .dir _ => "/"
  | .link _ => "@"
  | .program _ => "*"
  | .file _ m => if m &&& 0o111 != 0 then "*" else ""
  | .device _ => ""

/-- The permission text of `ls -l`: the kind, then read, write and execute for owner, group and
others, with the set-id and sticky bits in place of the execute letters. -/
def modeText (e : Entry) : String :=
  let kind := match e with
    | .dir _ => "d"
    | .link _ => "l"
    | .device _ => "c"
    | _ => "-"
  let m := e.mode
  let bit (b : Nat) (c : Char) : Char := if m &&& b != 0 then c else '-'
  let exec (b special : Nat) (on off : Char) : Char :=
    if m &&& special != 0 then (if m &&& b != 0 then on else off) else bit b 'x'
  kind ++ String.ofList [bit 0o400 'r', bit 0o200 'w', exec 0o100 0o4000 's' 'S',
    bit 0o40 'r', bit 0o20 'w', exec 0o10 0o2000 's' 'S',
    bit 0o4 'r', bit 0o2 'w', exec 0o1 0o1000 't' 'T']

/-- The blocks of 1024 bytes a file takes on disk, as `ls -l` totals them: whole blocks of 4096
bytes. -/
def diskBlocks (e : Entry) : Nat :=
  match e with
  | .dir _ => 4
  | .file data _ => (data.length + 4095) / 4096 * 4
  | _ => 0

/-- The lines of `ls -l` for named entries: counts and sizes aligned in columns. -/
def longLines (fs : FileSystem) (rows : List (String × String × Entry)) : List String :=
  let links := fun (path : String) (e : Entry) =>
    match e with
    | .dir _ => 2 + ((fs.children path).filter fun n => (fs.get? (joinPath path n)).any Entry.isDir).length
    | _ => 1
  let cells := rows.map fun (name, path, e) =>
    (modeText e, toString (links path e), toString e.size, name ++
      (match e with
        | .link target => " -> " ++ target
        | _ => ""))
  let linkWidth := cells.foldl (fun w (_, l, _, _) => max w l.length) 0
  let sizeWidth := cells.foldl (fun w (_, _, z, _) => max w z.length) 0
  cells.map fun (m, l, z, n) =>
    m ++ " " ++ String.ofList (List.replicate (linkWidth - l.length) ' ') ++ l ++ " root root " ++
      String.ofList (List.replicate (sizeWidth - z.length) ' ') ++ z ++ " Jan  1 00:00 " ++ n ++ "\n"

/-- `ls`. -/
def runLs (inv : Invocation) : Effect :=
  let specs : List OptionSpec := [⟨'a', false, "all"⟩, ⟨'A', false, "almost-all"⟩, ⟨'1', false, ""⟩,
    ⟨'d', false, "directory"⟩, ⟨'F', false, "classify"⟩, ⟨'l', false, ""⟩, ⟨'r', false, "reverse"⟩,
    ⟨'p', false, ""⟩, ⟨'C', false, ""⟩, ⟨'h', false, "human-readable"⟩, ⟨'L', false, "dereference"⟩]
  match readOptions inv.name specs false (fun _ => false) inv.args with
  | .error m => optionFailure inv m 2
  | .ok r =>
    let long := r.has 'l'
    let operands := if r.operands.isEmpty then ["."] else r.operands
    let sortNames (ns : List String) : List String :=
      let sorted := ns.mergeSort (fun a b => decide (a ≤ b))
      if r.has 'r' then sorted.reverse else sorted
    let mark (name : String) (entry : Entry) : String :=
      if r.has 'F' then name ++ classifyMark entry
      else if r.has 'p' && entry.isDir then name ++ "/" else name
    -- the entries to show: a name, its path and what it is
    let render (rows : List (String × String × Entry)) : String :=
      if long then String.join (longLines inv.fs (rows.map fun (n, p, e) => (mark n e, p, e)))
      else String.join (rows.map fun (n, _, e) => mark n e ++ "\n")
    let listDir (path : String) : String :=
      let names := inv.fs.children path
      let names := if r.has 'a' then [".", ".."] ++ names
        else if r.has 'A' then names else names.filter (!·.startsWith ".")
      let rows := (sortNames names).map fun n =>
        let full := if n == "." then path else if n == ".." then parentOf path else joinPath path n
        (n, full, (inv.fs.get? full).getD (.dir 0o755))
      let total := if long then "total " ++ toString ((rows.map fun (_, _, e) => diskBlocks e).foldr (· + ·) 0) ++ "\n" else ""
      total ++ render rows
    -- files first, then directories
    let (e, files, dirs) := operands.foldl (fun (acc : Effect × List (String × String × Entry) × List (String × String)) o =>
      let (e, files, dirs) := acc
      let followLink := !long || r.has 'L'
      match inv.fs.resolve inv.cwd o followLink with
      | .ok path =>
        match inv.fs.get? path with
        | some (.dir m) => if r.has 'd' then (e, files ++ [(o, path, .dir m)], dirs) else (e, files, dirs ++ [(o, path)])
        | some entry =>
          -- a link to a directory is listed as a directory unless asked otherwise
          match entry, inv.fs.resolve inv.cwd o true with
          | .link _, .ok target =>
            if (inv.fs.get? target).any Entry.isDir && !r.has 'd' && !long then (e, files, dirs ++ [(o, target)])
            else (e, files ++ [(o, path, entry)], dirs)
          | _, _ => (e, files ++ [(o, path, entry)], dirs)
        | none => ((e.complain (inv.name ++ ": cannot access " ++ nameQuoteAlways o ++ ": No such file or directory")).exit 2, files, dirs)
      | .error err => ((e.complain (inv.name ++ ": cannot access " ++ nameQuoteAlways o ++ ": " ++ err.text)).exit 2, files, dirs))
      (Effect.start inv, [], [])
    let sortedFiles := (files.mergeSort (fun a b => decide (a.1 ≤ b.1)))
    let sortedFiles := if r.has 'r' then sortedFiles.reverse else sortedFiles
    let e := e.say (render sortedFiles)
    let sortedDirs := dirs.mergeSort (fun a b => decide (a.1 ≤ b.1))
    let sortedDirs := if r.has 'r' then sortedDirs.reverse else sortedDirs
    let headed := operands.length > 1
    let (e, _) := sortedDirs.foldl (fun (acc : Effect × Bool) (o, path) =>
      let (e, first) := acc
      let sep := if first && files.isEmpty then "" else "\n"
      let header := if headed then sep ++ o ++ ":\n" else ""
      (e.say (header ++ listDir path), false)) (e, true)
    e

end CrashTest.Utility
