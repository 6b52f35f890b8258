/-!
Shell patterns.

A pattern is matched against a byte text, one byte at a time. Where they were not quoted, `*`
matches any run of bytes, `?` matches one byte, a backslash makes the next character stand for
itself, and `[...]` matches one byte from a set; everything else, and every quoted character,
matches itself. Patterns select `case` arms, trim parameters, and name files.

A set lists bytes, ranges `a-z`, and classes `[:alpha:]` (also `alnum`, `blank`, `cntrl`,
`digit`, `graph`, `lower`, `print`, `punct`, `space`, `upper` and `xdigit`, with their meaning in
the C locale, so that no byte above 127 is in a class). A leading `!` takes the complement. The
first member is taken as it is, so `[]a]` holds `]` and `a`. A `[` without a closing `]` stands
for itself. Ranges compare bytes as signed values, as the C `char` type does.
-/
namespace CrashTest.Shell

/-- A member of a bracket set. -/
inductive SetItem where
  | one (c : Char)
  | range (lo hi : Char)
  | cls (name : String)
  deriving DecidableEq, Repr, Inhabited

/-- One element of a pattern. -/
inductive PatElem where
  | char (c : Char)
  | one
  | star
  | set (negated : Bool) (items : List SetItem)
  deriving DecidableEq, Repr, Inhabited

/-- The character classes a set may name. -/
def classNames : List String :=
  ["alnum", "cntrl", "lower", "space", "alpha", "digit", "print", "upper", "blank", "graph",
    "punct", "xdigit"]

/-- Whether a byte belongs to a character class, in the C locale. -/
def inClass (name : String) (c : Char) : Bool :=
  let n := c.toNat
  let upper := 65 ≤ n ∧ n ≤ 90
  let lower := 97 ≤ n ∧ n ≤ 122
  let digit := 48 ≤ n ∧ n ≤ 57
  let graph := 33 ≤ n ∧ n ≤ 126
  match name with
  | "alnum" => upper || lower || digit
  | "alpha" => upper || lower
  | "blank" => n = 32 || n = 9
  | "cntrl" => n < 32 || n = 127
  | "digit" => digit
  | "graph" => graph
  | "lower" => lower
  | "print" => graph || n = 32
  | "punct" => graph && !(upper || lower || digit)
  | "space" => n = 32 || (9 ≤ n ∧ n ≤ 13)
  | "upper" => upper
  | "xdigit" => digit || (65 ≤ n ∧ n ≤ 70) || (97 ≤ n ∧ n ≤ 102)
  | _ => false

/-- A byte as the C `char` type holds it: bytes above 127 are negative. -/
def signedByte (c : Char) : Int := if c.toNat < 128 then c.toNat else (c.toNat : Int) - 256

/-- The class named at the front of a set's text after `[`, written `:name:]`: its name and
what follows. -/
def takeClass (cs : List (Char × Bool)) : Option (String × List (Char × Bool)) :=
  classNames.findSome? fun name =>
    let spelled := (':' :: name.toList) ++ [':', ']']
    if (cs.take spelled.length).map (·.1) = spelled && (cs.take spelled.length).all (!·.2) then
      some (name, cs.drop spelled.length)
    else none

/-- Reads the members of a bracket set up to its closing `]`: the members and what follows, or
`none` if the set never closes. `first` holds for the first member, which may be `]`. -/
def readSet : Nat → Bool → List (Char × Bool) → List SetItem →
    Option (List SetItem × List (Char × Bool))
  | 0, _, _, _ => none
  | _ + 1, _, [], _ => none
  | fuel + 1, first, (c, q) :: rest, acc =>
    if c = ']' && !q && !first then some (acc.reverse, rest)
    else if c = '[' && !q then
      match takeClass rest with
      | some (name, rest') => readSet fuel false rest' (.cls name :: acc)
      | none => member fuel c rest acc
    else member fuel c rest acc
where
  /-- Reads one member starting with the byte `c`: a range when `-` and an upper end that is
  not `]` follow, else the byte itself. -/
  member (fuel : Nat) (c : Char) (rest : List (Char × Bool)) (acc : List SetItem) :
      Option (List SetItem × List (Char × Bool)) :=
    match rest with
    | ('-', _) :: (d, dq) :: rest' =>
      if d = ']' && !dq then readSet fuel false rest (.one c :: acc)
      else readSet fuel false rest' (.range c d :: acc)
    | _ => readSet fuel false rest (.one c :: acc)

/-- The elements of a pattern given as characters with their quoting. -/
def compilePattern : Nat → List (Char × Bool) → List PatElem
  | 0, _ => []
  | _ + 1, [] => []
  | fuel + 1, (c, q) :: rest =>
    if q then .char c :: compilePattern fuel rest
    else if c = '*' then .star :: compilePattern fuel rest
    else if c = '?' then .one :: compilePattern fuel rest
    else if c = '\\' then
      match rest with
      | (d, _) :: rest' => .char d :: compilePattern fuel rest'
      | [] => [.char '\\']
    else if c = '[' then
      let (negated, body) := match rest with
        | ('!', false) :: b => (true, b)
        | b => (false, b)
      match readSet (body.length + 1) true body [] with
      | some (items, rest') => .set negated items :: compilePattern fuel rest'
      | none => .char c :: compilePattern fuel rest
    else .char c :: compilePattern fuel rest

/-- Whether a pattern has any element that is not a plain character. -/
def isMagic (p : List PatElem) : Bool :=
  p.any fun e => match e with
    | .char _ => false
    | _ => true

/-- Whether a set member holds a byte. -/
def SetItem.holds (c : Char) : SetItem → Bool
  | .one d => c = d
  | .range lo hi => signedByte lo ≤ signedByte c && signedByte c ≤ signedByte hi
  | .cls name => inClass name c

/-- Whether one byte is matched by a single-byte element. -/
def PatElem.accepts (e : PatElem) (c : Char) : Bool :=
  match e with
  | .char d => c = d
  | .one => true
  | .star => true
  | .set negated items => (items.any (·.holds c)) != negated

/-- Whether a pattern matches the whole of a text. -/
def matchPattern : List PatElem → List Char → Bool
  | [], cs => cs.isEmpty
  | .star :: ps, [] => matchPattern ps []
  | .star :: ps, c :: cs => matchPattern ps (c :: cs) || matchPattern (.star :: ps) cs
  | _ :: _, [] => false
  | e :: ps, c :: cs => e.accepts c && matchPattern ps cs
termination_by ps cs => ps.length + cs.length

/-- A pattern from text in which nothing is quoted. -/
def patternOf (s : String) : List PatElem :=
  compilePattern (s.length + 1) (s.toList.map (·, false))

end CrashTest.Shell
