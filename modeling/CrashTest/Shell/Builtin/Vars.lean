import CrashTest.Shell.Builtin.Basic
/-!
The commands that read and change variables, options and parameters: `set`, `export`,
`readonly`, `unset`, `local`, `shift`, `getopts` and `read`.

Listings are sorted by name and show values in single quotes. `set` with operands turns options
on (`-x`) and off (`+x`), by letter or by long name after `-o`, and then replaces the positional
parameters with the rest; `set -o` alone lists the options. A name that is not a variable name,
and a read-only variable, cannot be assigned.

`local` saves a variable in the innermost function call, to be put back when it returns, and is
an error outside one. `getopts` walks the options of the positional parameters (or of its own
operands) one letter at a time, keeping its place between calls. `read` takes one line of input:
a backslash keeps the next byte from splitting fields (and a backslash before a line end joins two
lines) unless `-r` is given; the line is split over the names, the last one taking the rest.
-/
namespace CrashTest.Shell

open CrashTest.Os CrashTest.Text

/-- The names of a list, sorted. -/
def sortedNames (names : List String) : List String :=
  names.eraseDups.mergeSort (fun a b => decide (a ≤ b))

/-- The listing line of a variable: its name and quoted value, or the name alone if unset. -/
def varLine (s : ShellState) (pre name : String) : String :=
  let head := if pre.isEmpty then "" else pre ++ " "
  match s.var? name with
  | some v => head ++ name ++ "=" ++ shellSingleQuote v ++ "\n"
  | none => head ++ name ++ "\n"

/-- The `set` command with no operands: every variable with its value. -/
def listVariables (s : ShellState) : String :=
  String.join ((sortedNames (s.vars.map (·.1))).map (varLine s ""))

/-- The listing of `set -o`. -/
def optionListing (s : ShellState) (on : Bool) : String :=
  if on then
    "Current option settings\n" ++ String.join (optionTable.map fun (_, name) =>
      let padded := name ++ String.ofList (List.replicate (16 - name.length) ' ')
      padded ++ (if s.opt name then "on" else "off") ++ "\n")
  else
    String.join (optionTable.map fun (_, name) =>
      "set " ++ (if s.opt name then "-o " else "+o ") ++ name ++ "\n")

/-- The `set` command. -/
def setCommand (s : ShellState) (args : List String) : Outcome :=
  match args with
  | [] => (Outcome.ok s).say (listVariables s)
  | _ =>
    let rec go : Nat → ShellState → String → List String → Except String (ShellState × String × Option (List String))
      | 0, st, out, rest => .ok (st, out, some rest)
      | _ + 1, st, out, [] => .ok (st, out, none)
      | fuel + 1, st, out, a :: rest =>
        match a.toList with
        | '-' :: [] => .ok ({ st with options := st.options.filter (fun o => o != "xtrace" && o != "verbose") }, out, some rest)
        | '-' :: '-' :: [] => .ok (st, out, some rest)
        | sign :: letters =>
          if sign != '-' && sign != '+' then .ok (st, out, some (a :: rest))
          else
            let on := sign == '-'
            let rec letterLoop : List Char → ShellState → String → List String →
                Except String (ShellState × String × List String)
              | [], st, out, rest => .ok (st, out, rest)
              | c :: cs, st, out, rest =>
                if c = 'o' then
                  match rest with
                  | [] => letterLoop cs st (out ++ optionListing st on) []
                  | name :: rest' =>
                    if optionTable.any (·.2 == name) then letterLoop cs (st.setOption name on) out rest'
                    else .error ("Illegal option -o " ++ name)
                else
                  match optionTable.find? (·.1 == some c) with
                  | some (_, name) => letterLoop cs (st.setOption name on) out rest
                  | none => .error ("Illegal option -" ++ String.singleton c)
            match letterLoop letters st out rest with
            | .ok (st', out', rest') => go fuel st' out' rest'
            | .error e => .error e
        | [] => .ok (st, out, some (a :: rest))
    match go (args.length + 1) s "" args with
    | .error e => (Outcome.ok s).raise "set" e
    | .ok (st, out, params) =>
      let st := match params with
        | some ps => if ps.isEmpty && !(args.contains "--") then st else { st with args := ps }
        | none => st
      -- job control needs a terminal, which the shell does not have
      if st.opt "monitor" then
        ((Outcome.ok (st.setOption "monitor" false)).warn "set" "can't access tty; job control turned off").say out
      else (Outcome.ok st).say out

/-- The `export` and `readonly` commands: `exported` tells which. -/
def exportCommand (s : ShellState) (name : String) (exported : Bool) (args : List String) :
    Outcome :=
  let (listing, names) := match args with
    | "-p" :: rest => (true, rest)
    | "--" :: rest => (false, rest)
    | rest => (false, rest)
  if listing || names.isEmpty then
    let marked := if exported then s.exported else s.readonly
    (Outcome.ok s).say (String.join ((sortedNames marked).map (varLine s name)))
  else
    let rec go : List String → ShellState → Outcome
      | [], st => Outcome.ok st
      | a :: rest, st =>
        let (n, value) := match a.splitOn "=" with
          | [n] => (n, none)
          | n :: vs => (n, some ("=".intercalate vs))
          | [] => (a, none)
        if !isName n then (Outcome.ok st).raise name (n ++ ": bad variable name")
        else
          match value with
          | some v =>
            match st.assign n v with
            | .error m => (Outcome.ok st).raise name m
            | .ok st' =>
              let st' := if exported then st'.exportName n else { st' with readonly := (st'.readonly.filter (· != n)) ++ [n] }
              go rest st'
          | none =>
            let st' := if exported then st.exportName n else { st with readonly := (st.readonly.filter (· != n)) ++ [n] }
            go rest st'
    go names s

/-- The `unset` command. -/
def unsetCommand (s : ShellState) (args : List String) : Outcome :=
  match shellOptions "vf" args with
  | .error e => (Outcome.ok s).raise "unset" e
  | .ok (opts, names) =>
    let functions := (opts.getLast?.map (·.1)) == some 'f'
    let rec go : List String → ShellState → Outcome
      | [], st => Outcome.ok st
      | n :: rest, st =>
        if functions then go rest { st with funcs := st.funcs.filter (·.1 != n) }
        else if !isName n then (Outcome.ok st).raise "unset" (n ++ ": bad variable name")
        else if st.readonly.contains n then (Outcome.ok st).raise "unset" (n ++ ": is read only")
        else go rest (st.unsetVar n)
    go names s

/-- Saves a variable in the innermost function call on the stack; `false` if there is none. -/
def saveLocal (stack : List Frame) (saved : SavedVar) : Option (List Frame) :=
  match stack with
  | [] => none
  | .endCall args locals :: rest =>
    let locals := if locals.any (·.name == saved.name) then locals else locals ++ [saved]
    some (.endCall args locals :: rest)
  | f :: rest => (saveLocal rest saved).map (f :: ·)

/-- The `local` command. -/
def localCommand (s : ShellState) (args : List String) : Outcome :=
  if !(s.stack.any Frame.isCall) then (Outcome.ok s).raise "local" "not in a function"
  else
    let rec go : List String → ShellState → Outcome
      | [], st => Outcome.ok st
      | a :: rest, st =>
        let (n, value) := match a.splitOn "=" with
          | [n] => (n, none)
          | n :: vs => (n, some ("=".intercalate vs))
          | [] => (a, none)
        if !isName n && n != "-" then (Outcome.ok st).raise "local" (n ++ ": bad variable name")
        else
          -- "-" keeps the options, to be put back when the function returns
          let saved : SavedVar := if n == "-" then ⟨n, some (",".intercalate st.options), false⟩
            else ⟨n, st.var? n, st.exported.contains n⟩
          let stack := (saveLocal st.stack saved).getD st.stack
          let st := { st with stack := stack }
          match value with
          | some v =>
            match st.assign n v with
            | .ok st' => go rest st'
            | .error m => (Outcome.ok st).raise "local" m
          | none => go rest st
    go args s

/-- The `shift` command. -/
def shiftCommand (s : ShellState) (args : List String) : Outcome :=
  let count : Except String Nat := match args with
    | [] => .ok 1
    | a :: _ =>
      match shellCount? a with
      | some n => .ok n
      | none => .error ("Illegal number: " ++ a)
  match count with
  | .error e => (Outcome.ok s).raise "shift" e
  | .ok n =>
    if n > s.args.length then (Outcome.ok s).raise "shift" "can't shift that many"
    else Outcome.ok { s with args := s.args.drop n }

/-- One step of `getopts` over `params` with `spec`, from the shell's place: the letter found
(`?` for an error or the end), the argument or error letter for `OPTARG` (`none` to unset it),
an error line, whether the end was reached, and the new place. -/
def getoptsStep (spec : String) (params : List String) (optind : Nat) (optoff : Option Nat) :
    Char × Option String × String × Bool × Nat × Option Nat :=
  let silent := spec.startsWith ":"
  let specChars := spec.toList
  let current : Option (List Char) :=
    match optoff with
    | some off =>
      if optind ≤ 1 then none
      else
        match params[optind - 2]? with
        | some w => if w.length < off then none else some (w.toList.drop off)
        | none => none
    | none => none
  -- the letters still to read in the current word, and the index of the next word
  let start : Option (List Char × Nat) :=
    match current with
    | some (c :: cs) => some (c :: cs, optind)
    | _ =>
      match params[optind - 1]? with
      | some w =>
        match w.toList with
        | '-' :: c :: cs => if c = '-' && cs.isEmpty then none else some (c :: cs, optind + 1)
        | _ => none
      | none => none
  match start with
  | none =>
    let next := if params[optind - 1]? == some "--" then optind + 1 else optind
    ('?', none, "", true, next, none)
  | some (letters, next) =>
    match letters with
    | [] => ('?', none, "", true, next, none)
    | c :: rest =>
      let wordOf (n : Nat) : Nat := (params[n - 2]?.map String.length).getD 0
      let offAfter (n : Nat) (restLen : Nat) : Option Nat := some (wordOf n - restLen)
      match optionLetter? specChars c with
      | none =>
        let off := if rest.isEmpty then none else offAfter next rest.length
        if silent then ('?', some (String.singleton c), "", false, next, off)
        else ('?', none, "Illegal option -" ++ String.singleton c ++ "\n", false, next, off)
      | some takes =>
        if takes then
          if !rest.isEmpty then (c, some (String.ofList rest), "", false, next, none)
          else
            match params[next - 1]? with
            | some arg => (c, some arg, "", false, next + 1, none)
            | none =>
              if silent then (':', some (String.singleton c), "", false, next, none)
              else ('?', none, "No arg for -" ++ String.singleton c ++ " option\n", false, next, none)
        else
          let off := if rest.isEmpty then none else offAfter next rest.length
          (c, some "", "", false, next, off)

/-- The `getopts` command. -/
def getoptsCommand (s : ShellState) (args : List String) : Outcome :=
  match args with
  | spec :: var :: own =>
    let params := if own.isEmpty then s.args else own
    let (optind, optoff) :=
      if s.optind > params.length + 1 then (1, none) else (s.optind, s.optoff)
    let (c, optarg, err, done, ind, off) := getoptsStep spec params optind optoff
    let st := match optarg with
      | some v => s.setVar "OPTARG" v
      | none => s.unsetVar "OPTARG"
    let st := st.setVar "OPTIND" (toString ind)
    match st.assign var (String.singleton c) with
    | .error m => (Outcome.ok st).raise "getopts" m
    | .ok st =>
      let st := { st with optind := ind, optoff := off }
      ((Outcome.ok st).note err).withStatus (if done then 1 else 0)
  | _ => (Outcome.ok s).raise "getopts" "Usage: getopts optstring var [arg]"

/-- A line read by `read`: its bytes with the quoting of each, how many input bytes it took,
and whether the input ended before a line end. Without `raw`, a backslash quotes the next byte
and a backslash before a line end joins the lines. NUL bytes are dropped. -/
def readLine (raw : Bool) (input : List Char) : List (Char × Bool) × Nat × Bool :=
  go (input.length + 1) input [] 0
where
  /-- Reads on, with the bytes so far (reversed) and the count taken. -/
  go : Nat → List Char → List (Char × Bool) → Nat → List (Char × Bool) × Nat × Bool
    | 0, _, acc, n => (acc.reverse, n, true)
    | _, [], acc, n => (acc.reverse, n, true)
    | fuel + 1, c :: cs, acc, n =>
      if c = '\x00' then go fuel cs acc (n + 1)
      else if c = '\n' then (acc.reverse, n + 1, false)
      else if c = '\\' && !raw then
        match cs with
        | '\n' :: more => go fuel more acc (n + 2)
        | d :: more => go fuel more ((d, true) :: acc) (n + 2)
        | [] => (acc.reverse, n + 1, true)
      else go fuel cs ((c, false) :: acc) (n + 1)

/-- Splits a line read by `read` over `count` names. Unquoted white space in `IFS` separates
fields and is dropped at both ends; any other unquoted `IFS` byte ends a field. The last name
takes the rest of the line without trailing `IFS` white space, and without a single closing
separator when only one field is left. -/
def readSplit (ifs : List Char) (count : Nat) (line : List (Char × Bool)) : List String :=
  let isSep (p : Char × Bool) : Bool := !p.2 && ifs.contains p.1
  let isWhite (p : Char × Bool) : Bool := isSep p && isIfsWhite p.1
  let text (ps : List (Char × Bool)) : String := String.ofList (ps.map (·.1))
  -- the rest of the line for the last name
  let lastOf (ps : List (Char × Bool)) : String :=
    let ps := (ps.reverse.dropWhile isWhite).reverse
    -- one field and a closing separator: drop the separator
    match ps.reverse with
    | last :: before =>
      if isSep last && !isWhite last then
        let body := (before.dropWhile isWhite).reverse
        if body.any isSep then text ps else text body
      else text ps
    | [] => ""
  let rec go : Nat → Nat → List (Char × Bool) → List String
    | 0, _, _ => []
    | _, 0, _ => []
    | fuel + 1, k + 1, ps =>
      let ps := ps.dropWhile isWhite
      if k = 0 then [lastOf ps]
      else
        let field := ps.takeWhile (!isSep ·)
        let rest := ps.drop field.length
        -- the separator: white space, then at most one other separator, then white space
        let rest := rest.dropWhile isWhite
        let rest := match rest with
          | p :: more => if isSep p && !isWhite p then more else rest
          | [] => []
        text field :: go fuel k rest
  go (count + 1) count line

/-- The `read` command over the bytes of standard input: the outcome and how many bytes it
took. -/
def readCommand (s : ShellState) (args : List String) (input : String) : Outcome × Nat :=
  match shellOptions "p:r" args with
  | .error e => ((Outcome.ok s).raise "read" e, 0)
  | .ok (opts, names) =>
    if names.isEmpty then ((Outcome.ok s).raise "read" "arg count", 0)
    else
      let raw := opts.any (·.1 == 'r')
      let (line, used, ended) := readLine raw input.toList
      let ifs := (s.var? "IFS").getD " \t\n"
      let values := readSplit ifs.toList names.length line
      -- names are assigned in order; one that cannot be stops the rest
      let rec assignAll : List String → List String → ShellState → ShellState × Option String
        | [], _, st => (st, none)
        | n :: ns, vs, st =>
          if !isName n then (st, some (n ++ ": bad variable name"))
          else
            match st.assign n (vs.headD "") with
            | .ok st' => assignAll ns (vs.drop 1) st'
            | .error m => (st, some m)
      match assignAll names values s with
      | (st, some m) => ((Outcome.ok st).raise "read" m, used)
      | (st, none) => ((Outcome.ok st).withStatus (if ended then 1 else 0), used)

end CrashTest.Shell
