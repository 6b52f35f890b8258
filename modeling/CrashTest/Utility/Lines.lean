import CrashTest.Utility.Basic
/-!
Programs that read lines of text: `head`, `tail`, `wc`, `sort`, `uniq`, `rev`, `cut`, `tr`,
`tee` and `yes`.

They read the files named, `-` or no operand meaning standard input, and report a file they
cannot read on standard error and go on, ending with status 1. `head` and `tail` print a header
before each file when there are several; `wc` lines its counts up in columns as wide as the
largest count could be: the digits of the total size of the regular files it reads, at least 7
when it reads anything else, and no padding when it prints one count of one input.
-/
-- Powers of numbers are the core ones, also where Mathlib's monoid powers are in scope.
attribute [local instance (high)] instPowNat

namespace CrashTest.Utility

open CrashTest.Os CrashTest.Text

/-- A count with an optional multiplier suffix, as `head` and `tail` read it. -/
def countWithSuffix? (s : String) : Option Nat :=
  let digits := s.toList.takeWhile Char.isDigit
  let suffix := String.ofList (s.toList.drop digits.length)
  if digits.isEmpty then none
  else
    let n := (String.ofList digits).toNat!
    let factor : Option Nat := match suffix with
      | "" => some 1
      | "b" => some 512
      | "K" | "KiB" | "k" => some 1024
      | "kB" | "KB" => some 1000
      | "M" | "MiB" => some (1024 ^ (2 : Nat))
      | "MB" => some (1000 ^ (2 : Nat))
      | "G" | "GiB" => some (1024 ^ (3 : Nat))
      | "GB" => some (1000 ^ (3 : Nat))
      | _ => none
    factor.map (n * ·)

/-- The input of one operand: the text, or the reason it cannot be read. -/
def inputOf (inv : Invocation) (f : String) : Except FileError String :=
  if f == "-" then .ok inv.input else readFileText inv f

/-- The name a header shows for an operand. -/
def shownName (f : String) : String := if f == "-" then "standard input" else f

/-- How much of a text `head` or `tail` keeps: lines or bytes, and a count that for `head` may
count from the end and for `tail` from the start. -/
structure Portion where
  bytes : Bool
  count : Nat
  /-- `head -n -N`: all but the last `N`; `tail -n +N`: from the `N`-th on. -/
  flipped : Bool
  deriving Repr, Inhabited

/-- Reads the count of `head` or `tail`. -/
def readPortion (name : String) (bytes : Bool) (text : String) (plusFlips : Bool) :
    Except String Portion :=
  let (flipped, body) :=
    if plusFlips && text.startsWith "+" then (true, (text.drop 1).toString)
    else if !plusFlips && text.startsWith "-" then (true, (text.drop 1).toString)
    else if text.startsWith "+" || text.startsWith "-" then (false, (text.drop 1).toString)
    else (false, text)
  match countWithSuffix? body with
  | some n => .ok ⟨bytes, n, flipped⟩
  | none => .error (name ++ ": invalid number of " ++ (if bytes then "bytes" else "lines") ++ ": " ++ curvedQuote text)

/-- What `head` keeps of a text. -/
def headOf (p : Portion) (text : String) : String :=
  if p.bytes then
    if p.flipped then String.ofList (text.toList.take (text.length - p.count))
    else String.ofList (text.toList.take p.count)
  else
    let ls := linesOf text
    String.join (if p.flipped then ls.take (ls.length - p.count) else ls.take p.count)

/-- What `tail` keeps of a text. -/
def tailOf (p : Portion) (text : String) : String :=
  if p.bytes then
    if p.flipped then String.ofList (text.toList.drop (p.count - 1))
    else String.ofList (text.toList.drop (text.length - p.count))
  else
    let ls := linesOf text
    String.join (if p.flipped then ls.drop (p.count - 1) else ls.drop (ls.length - p.count))

/-- `head`, or with `tail` set, `tail`. -/
def runEnds (tail : Bool) (inv : Invocation) : Effect :=
  -- the old form: a first operand such as -5 (or +5 for tail)
  let (legacy, args) : Option String × List String := match inv.args with
    | a :: rest =>
      if (a.startsWith "-" || (tail && a.startsWith "+")) && a.length > 1 &&
          (a.toList.drop 1).all Char.isDigit then
        (some ((if a.startsWith "+" then "+" else "") ++ (a.drop 1).toString), rest)
      else (none, inv.args)
    | [] => (none, [])
  let specs : List OptionSpec := [⟨'n', true, "lines"⟩, ⟨'c', true, "bytes"⟩, ⟨'q', false, "quiet"⟩,
    ⟨'v', false, "verbose"⟩, ⟨'f', false, "follow"⟩, ⟨'z', false, "zero-terminated"⟩]
  match readOptions inv.name specs false (fun _ => false) args with
  | .error m => optionFailure inv m 1
  | .ok r =>
    let amount := (r.options.filter fun (c, _) => c == 'n' || c == 'c').getLast?
    let portion : Except String Portion := match amount, legacy with
      | some (c, v), _ => readPortion inv.name (c == 'c') (v.getD "") tail
      | none, some l => readPortion inv.name false l tail
      | none, none => .ok ⟨false, 10, false⟩
    match portion with
    | .error m => optionFailure inv m 1
    | .ok p =>
      let files := if r.operands.isEmpty then ["-"] else r.operands
      let headers := r.has 'v' || (files.length > 1 && !r.has 'q')
      let verb := if tail then "cannot open " else "cannot open "
      let (e, _) := files.foldl (fun (acc : Effect × Bool) f =>
        let (e, first) := acc
        match inputOf inv f with
        | .ok text =>
          let header := if headers then (if first then "" else "\n") ++ "==> " ++ shownName f ++ " <==\n" else ""
          (e.say (header ++ (if tail then tailOf p text else headOf p text)), false)
        | .error .isDir =>
          let header := if headers then (if first then "" else "\n") ++ "==> " ++ shownName f ++ " <==\n" else ""
          (((e.say header).complain (inv.name ++ ": error reading " ++ nameQuoteAlways f ++ ": Is a directory")).exit 1, false)
        | .error err =>
          ((e.complain (inv.name ++ ": " ++ verb ++ nameQuoteAlways f ++ " for reading: " ++ err.text)).exit 1, first))
        (Effect.start inv, true)
      e

/-- The counts `wc` makes of a text: lines, words, characters, bytes and the longest line. -/
structure Counts where
  lines : Nat := 0
  words : Nat := 0
  chars : Nat := 0
  bytes : Nat := 0
  longest : Nat := 0
  deriving Repr, Inhabited

/-- Whether a byte separates words. -/
def separatesWords (c : Char) : Bool :=
  c = ' ' || c = '\t' || c = '\n' || c = '\x0b' || c = '\x0c' || c = '\r'

/-- Counts a text. -/
def countText (text : String) : Counts :=
  let cs := text.toList
  let lines := (cs.filter (· = '\n')).length
  let (words, _) := cs.foldl (fun (acc : Nat × Bool) c =>
    let (n, inWord) := acc
    if separatesWords c then (n, false) else if inWord then (n, true) else (n + 1, true)) (0, false)
  -- a character is a byte that does not continue a multibyte sequence
  let chars := (cs.filter fun c => c.toNat < 0x80 || 0xC0 ≤ c.toNat).length
  let longest := ((text.splitOn "\n").map fun l =>
    l.toList.foldl (fun col c => if c = '\t' then col + 8 - col % 8 else col + 1) 0).foldl max 0
  { lines := lines, words := words, chars := chars, bytes := cs.length, longest := longest }

/-- Adds two counts, the longest line being the larger. -/
def Counts.add (a b : Counts) : Counts :=
  { lines := a.lines + b.lines, words := a.words + b.words, chars := a.chars + b.chars,
    bytes := a.bytes + b.bytes, longest := max a.longest b.longest }

/-- A number right-aligned in `width` places. -/
def padLeft (width : Nat) (s : String) : String :=
  String.ofList (List.replicate (width - s.length) ' ') ++ s

/-- `wc`. -/
def runWc (inv : Invocation) : Effect :=
  let specs : List OptionSpec := [⟨'l', false, "lines"⟩, ⟨'w', false, "words"⟩, ⟨'c', false, "bytes"⟩,
    ⟨'m', false, "chars"⟩, ⟨'L', false, "max-line-length"⟩]
  match readOptions inv.name specs false (fun _ => false) inv.args with
  | .error m => optionFailure inv m 1
  | .ok r =>
    let none_ := !(r.has 'l' || r.has 'w' || r.has 'c' || r.has 'm' || r.has 'L')
    let chosen : List (Counts → Nat) :=
      (if none_ || r.has 'l' then [Counts.lines] else []) ++
      (if none_ || r.has 'w' then [Counts.words] else []) ++
      (if r.has 'm' then [Counts.chars] else []) ++
      (if none_ || r.has 'c' then [Counts.bytes] else []) ++
      (if r.has 'L' then [Counts.longest] else [])
    let files := if r.operands.isEmpty then ["-"] else r.operands
    let named := !r.operands.isEmpty
    -- the column width, from what each input is
    let width : Nat :=
      if files.length == 1 && chosen.length == 1 then 1
      else
        let (total, least) := files.foldl (fun (acc : Nat × Nat) f =>
          if f == "-" then (acc.1, 7)
          else match inv.fs.stat inv.cwd f with
            | some st => if st.kind == .regular then (acc.1 + st.size, acc.2) else (acc.1, 7)
            | none => acc) (0, 1)
        max (toString total).length least
    let line (c : Counts) (name : String) : String :=
      " ".intercalate (chosen.map fun k => padLeft width (toString (k c))) ++
        (if name.isEmpty then "" else " " ++ name) ++ "\n"
    let (e, total) := files.foldl (fun (acc : Effect × Counts) f =>
      let (e, total) := acc
      match inputOf inv f with
      | .ok text =>
        let c := countText text
        (e.say (line c (if named then f else "")), total.add c)
      | .error .isDir =>
        ((e.complain (inv.name ++ ": " ++ nameQuote f ++ ": Is a directory")).say (line {} f) |>.exit 1, total)
      | .error err => ((e.complain (inv.name ++ ": " ++ nameQuote f ++ ": " ++ err.text)).exit 1, total))
      (Effect.start inv, {})
    if files.length > 1 then e.say (line total "total") else e

/-- All the lines of the inputs, or the first failure. -/
def gatherLines (inv : Invocation) (files : List String) : Effect × List String :=
  let files := if files.isEmpty then ["-"] else files
  files.foldl (fun (acc : Effect × List String) f =>
    let (e, ls) := acc
    match inputOf inv f with
    | .ok text => (e, ls ++ (linesOf text).map fun l => if l.endsWith "\n" then (l.dropEnd 1).toString else l)
    | .error err => ((e.complain (inv.name ++ ": " ++ nameQuote f ++ ": " ++ err.text)).exit 2, ls))
    (Effect.start inv, [])

/-- The leading number of a line as `sort -n` reads it: blanks, a sign, digits with an optional
fraction; 0 when there is none. Scaled by a million to compare fractions. -/
def leadingNumber (s : String) : Int :=
  let cs := s.toList.dropWhile fun c => c = ' ' || c = '\t'
  let (neg, cs) := match cs with
    | '-' :: rest => (true, rest)
    | rest => (false, rest)
  let whole := cs.takeWhile Char.isDigit
  let rest := cs.drop whole.length
  let frac := match rest with
    | '.' :: more => (more.takeWhile Char.isDigit).take 6
    | _ => []
  let w := (String.ofList whole).toNat?.getD 0
  let f := (String.ofList (frac ++ List.replicate (6 - frac.length) '0')).toNat?.getD 0
  let v : Int := (w * 1000000 + f : Nat)
  if neg then -v else v

/-- `sort`. -/
def runSort (inv : Invocation) : Effect :=
  let specs : List OptionSpec := [⟨'r', false, "reverse"⟩, ⟨'n', false, "numeric-sort"⟩,
    ⟨'u', false, "unique"⟩, ⟨'f', false, "ignore-case"⟩, ⟨'b', false, "ignore-leading-blanks"⟩]
  match readOptions inv.name specs false (fun _ => false) inv.args with
  | .error m => optionFailure inv m 2
  | .ok r =>
    let (e, ls) := gatherLines inv r.operands
    let key (l : String) : String := if r.has 'f' then l.toUpper else l
    let before (a b : String) : Bool :=
      if r.has 'n' then
        let x := leadingNumber a
        let y := leadingNumber b
        if x != y then x < y else a ≤ b
      else if key a != key b then key a < key b else a ≤ b
    let sorted := ls.mergeSort (fun a b => if r.has 'r' then before b a else before a b)
    let same (a b : String) : Bool := if r.has 'n' then leadingNumber a == leadingNumber b else key a == key b
    let sorted := if r.has 'u' then
        sorted.foldl (fun (acc : List String) l => match acc with
          | p :: _ => if same p l then acc else l :: acc
          | [] => [l]) [] |>.reverse
      else sorted
    e.say (String.join (sorted.map (· ++ "\n")))

/-- `uniq`. -/
def runUniq (inv : Invocation) : Effect :=
  let specs : List OptionSpec := [⟨'c', false, "count"⟩, ⟨'d', false, "repeated"⟩,
    ⟨'u', false, "unique"⟩, ⟨'i', false, "ignore-case"⟩]
  match readOptions inv.name specs false (fun _ => false) inv.args with
  | .error m => optionFailure inv m 1
  | .ok r =>
    let (e, ls) := gatherLines inv (r.operands.take 1)
    let same (a b : String) : Bool := if r.has 'i' then a.toLower == b.toLower else a == b
    let groups := ls.foldl (fun (acc : List (String × Nat)) l => match acc with
      | (p, n) :: more => if same p l then (p, n + 1) :: more else (l, 1) :: acc
      | [] => [(l, 1)]) [] |>.reverse
    let kept := groups.filter fun (_, n) => (!r.has 'd' || n > 1) && (!r.has 'u' || n == 1)
    e.say (String.join (kept.map fun (l, n) =>
      (if r.has 'c' then padLeft 7 (toString n) ++ " " else "") ++ l ++ "\n"))

/-- `rev`. -/
def runRev (inv : Invocation) : Effect :=
  let files := if inv.args.isEmpty then ["-"] else inv.args
  files.foldl (fun (e : Effect) f =>
    match inputOf inv f with
    | .ok text =>
      e.say (String.join ((linesOf text).map fun l =>
        if l.endsWith "\n" then String.ofList ((l.dropEnd 1).toString.toList.reverse) ++ "\n"
        else String.ofList l.toList.reverse))
    | .error err => (e.complain (inv.name ++ ": cannot open " ++ f ++ ": " ++ err.text)).exit 1)
    (Effect.start inv)

/-- Reads a list of fields or positions such as `1,3-5,7-`: for each, whether it is picked. -/
def readRanges (s : String) : Option (Nat → Bool) :=
  let parts := s.splitOn ","
  let ranges := parts.mapM fun (p : String) =>
    match p.splitOn "-" with
    | [n] => n.toNat?.bind fun k => if k = 0 then none else some (k, some k)
    | ["", m] => m.toNat?.map fun k => (1, some k)
    | [n, ""] => n.toNat?.bind fun k => if k = 0 then none else some (k, none)
    | [n, m] => match n.toNat?, m.toNat? with
      | some a, some b => if a = 0 || b < a then none else some (a, some b)
      | _, _ => none
    | _ => none
  ranges.map fun rs => fun i => rs.any fun (a, b) => decide (a ≤ i) && (b.map fun k => decide (i ≤ k)).getD true

/-- `cut`. -/
def runCut (inv : Invocation) : Effect :=
  let specs : List OptionSpec := [⟨'b', true, "bytes"⟩, ⟨'c', true, "characters"⟩, ⟨'f', true, "fields"⟩,
    ⟨'d', true, "delimiter"⟩, ⟨'s', false, "only-delimited"⟩]
  match readOptions inv.name specs false (fun _ => false) inv.args with
  | .error m => optionFailure inv m 1
  | .ok r =>
    let listText := ((r.options.filter fun (c, _) => c == 'b' || c == 'c' || c == 'f').getLast?).bind (·.2)
    let byField := r.has 'f'
    match listText with
    | none => optionFailure inv (usageError inv.name "you must specify a list of bytes, characters, or fields") 1
    | some lt =>
      match readRanges lt with
      | none => optionFailure inv (usageError inv.name "invalid field range") 1
      | some picked =>
        let delim := (r.last? 'd').getD "\t"
        if delim.length != 1 then optionFailure inv (usageError inv.name "the delimiter must be a single character") 1
        else
          let (e, ls) := gatherLines inv r.operands
          let cutLine (l : String) : Option String :=
            if byField then
              let fields := l.splitOn delim
              if fields.length == 1 then (if r.has 's' then none else some l)
              else
                some (delim.intercalate ((fields.zipIdx.filter fun (_, i) => picked (i + 1)).map (·.1)))
            else some (String.ofList ((l.toList.zipIdx.filter fun (_, i) => picked (i + 1)).map (·.1)))
          e.say (String.join (ls.filterMap fun l => (cutLine l).map (· ++ "\n")))

/-- The characters of a `tr` set: ranges `a-z`, classes `[:alpha:]` and the like, and backslash
escapes. -/
def trSet (s : String) : List Char :=
  let classes : List (String × List Char) :=
    let range (a b : Char) := (List.range (b.toNat - a.toNat + 1)).map fun i => Char.ofNat (a.toNat + i)
    [("[:upper:]", range 'A' 'Z'), ("[:lower:]", range 'a' 'z'), ("[:digit:]", range '0' '9'),
     ("[:alpha:]", range 'A' 'Z' ++ range 'a' 'z'), ("[:alnum:]", range '0' '9' ++ range 'A' 'Z' ++ range 'a' 'z'),
     ("[:space:]", [' ', '\t', '\n', '\x0b', '\x0c', '\r']), ("[:blank:]", [' ', '\t']),
     ("[:punct:]", (range '!' '~').filter fun c => !c.isAlphanum),
     ("[:xdigit:]", range '0' '9' ++ range 'A' 'F' ++ range 'a' 'f')]
  let escape (c : Char) : Char := match c with
    | 'n' => '\n'
    | 't' => '\t'
    | 'r' => '\r'
    | 'a' => '\x07'
    | 'b' => '\x08'
    | 'f' => '\x0c'
    | 'v' => '\x0b'
    | c => c
  let rec go : Nat → List Char → List Char
    | 0, _ => []
    | _, [] => []
    | fuel + 1, cs =>
      match classes.find? fun (n, _) => n.toList.isPrefixOf cs with
      | some (n, members) => members ++ go fuel (cs.drop n.length)
      | none =>
        let (c, rest) : Char × List Char := match cs with
          | '\\' :: e :: more => (escape e, more)
          | c :: more => (c, more)
          | [] => (' ', [])
        match rest with
        | '-' :: d :: more =>
          if c ≤ d then
            ((List.range (d.toNat - c.toNat + 1)).map fun i => Char.ofNat (c.toNat + i)) ++ go fuel more
          else c :: go fuel rest
        | _ => c :: go fuel rest
  go (s.length + 1) s.toList

/-- `tr`. -/
def runTr (inv : Invocation) : Effect :=
  let specs : List OptionSpec := [⟨'d', false, "delete"⟩, ⟨'s', false, "squeeze-repeats"⟩,
    ⟨'c', false, "complement"⟩, ⟨'C', false, ""⟩]
  match readOptions inv.name specs false (fun _ => false) inv.args with
  | .error m => optionFailure inv m 1
  | .ok r =>
    let delete := r.has 'd'
    let squeeze := r.has 's'
    let complement := r.has 'c' || r.has 'C'
    let input := inv.input.toList
    match r.operands with
    | [] => optionFailure inv (usageError inv.name "missing operand") 1
    | [one] =>
      if !delete && !squeeze then
        optionFailure inv (inv.name ++ ": missing operand after " ++ curvedQuote one ++
          "\nTwo strings must be given when translating.\nTry '" ++ inv.name ++ " --help' for more information.") 1
      else
        let set := trSet one
        let member (c : Char) := set.contains c != complement
        let kept := if delete then input.filter (!member ·) else input
        let out := if squeeze && !delete then
            kept.foldl (fun (acc : List Char) c => match acc with
              | p :: _ => if p == c && member c then acc else c :: acc
              | [] => [c]) [] |>.reverse
          else kept
        (Effect.start inv).say (String.ofList out)
    | first :: second :: extra =>
      if !extra.isEmpty then
        optionFailure inv (usageError inv.name ("extra operand " ++ curvedQuote (extra.headD ""))) 1
      else
        let s1 := trSet first
        let s2 := trSet second
        let member (c : Char) := s1.contains c != complement
        if delete then
          let kept := input.filter (!member ·)
          let out := if squeeze then
              kept.foldl (fun (acc : List Char) c => match acc with
                | p :: _ => if p == c && s2.contains c then acc else c :: acc
                | [] => [c]) [] |>.reverse
            else kept
          (Effect.start inv).say (String.ofList out)
        else
          let lastOf := s2.getLast?.getD ' '
          let mapChar (c : Char) : Char :=
            if complement then (if s1.contains c then c else lastOf)
            else
              match s1.idxOf? c with
              | some i => s2.getD i lastOf
              | none => c
          let mapped := input.map mapChar
          let out := if squeeze then
              mapped.foldl (fun (acc : List Char) c => match acc with
                | p :: _ => if p == c && s2.contains c then acc else c :: acc
                | [] => [c]) [] |>.reverse
            else mapped
          (Effect.start inv).say (String.ofList out)

/-- `tee`: standard input to standard output and to each file. -/
def runTee (inv : Invocation) : Effect :=
  let specs : List OptionSpec := [⟨'a', false, "append"⟩, ⟨'i', false, "ignore-interrupts"⟩, ⟨'p', false, ""⟩]
  match readOptions inv.name specs false (fun _ => false) inv.args with
  | .error m => optionFailure inv m 1
  | .ok r =>
    let e := r.operands.foldl (fun (e : Effect) f =>
      match e.fs.openWrite inv.cwd f (r.has 'a') false with
      | .ok (fs, path) => { e with fs := fs.appendBytes path (bytesOf inv.input) }
      | .error err => (e.complain (inv.name ++ ": " ++ nameQuote f ++ ": " ++ err.text)).exit 1)
      (Effect.start inv)
    e.say inv.input

/-- `yes`: its operands, or `y`, over and over; here as much as a pipe holds. -/
def runYes (inv : Invocation) : Effect :=
  let line := (if inv.args.isEmpty then "y" else " ".intercalate inv.args) ++ "\n"
  (Effect.start inv).say (String.join (List.replicate (65536 / line.length + 1) line))

end CrashTest.Utility
