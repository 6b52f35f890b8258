import CrashTest.Json.Reader
/-!
Decoding JSON documents into typed values, with the error texts of this program's configuration
and record formats.

A `Decoder α` reads a `Node` into an `α`. Decoders come in the shapes the formats use: numbers of a
given width, text, lists, string maps, records with named fields, and three ways of writing a
choice between variants (the variant's name as the whole value or as the single key of an object;
the name under a tag key beside the variant's fields; the name under a tag key and the content under
a second key).

An error names what was found and what was expected ("invalid type: string \"x\", expected u64").
When the document was read from text, the error also gives the place where the reader stood when it
noticed. Variant contents held back while the tag was searched for are decoded after the text is
read, so their errors have no place of their own; the record around them gives them the place after
the member that held them.
-/
-- Powers of numbers are the core ones, also where Mathlib's monoid powers are in scope.
attribute [local instance (high)] instPowNat

namespace CrashTest.Json

/-- How the document reached the decoder: read from text, held back from text and decoded later,
or built in memory as a map-backed value. Only text gives places, and only in text do object members
keep their order and repeats. -/
inductive Source where
  | text
  | buffered
  | value
  deriving DecidableEq, Repr, Inhabited

/-- A decoding error: its words and, for text, where it was noticed. -/
structure DecodeError where
  message : String
  pos : Option Pos
  deriving DecidableEq, Repr, Inhabited

/-- The error as one line: the words, then ` at line L column C` when it has a place. -/
def DecodeError.render (e : DecodeError) : String :=
  match e.pos with
  | some p => e.message ++ " at line " ++ toString p.line ++ " column " ++ toString p.column
  | none => e.message

/-- The error for a syntax fault. -/
def SyntaxError.toDecodeError (e : SyntaxError) : DecodeError := ⟨e.fault.message, some e.pos⟩

/-- Reads a node of the given source into a value. -/
abbrev Decoder (α : Type) := Source → Node → Except DecodeError α

namespace Decoder

/-- A place, kept only for text. -/
def place (src : Source) (p : Option Pos) : Option Pos := if src = .text then p else none

/-- Gives a placeless error the place `p`, when decoding text. -/
def fixAt (src : Source) (p : Option Pos) : Except DecodeError α → Except DecodeError α
  | .error e => .error (if e.pos.isNone then { e with pos := place src p } else e)
  | .ok v => .ok v

/-- What was found, in the words of a type error. -/
def unexpected : Node → String
  | .null _ => "null"
  | .bool b _ => "boolean `" ++ toString b ++ "`"
  | .num (.nat n) _ => "integer `" ++ toString n ++ "`"
  | .num (.neg n) _ => "integer `" ++ toString n ++ "`"
  | .num (.float x) _ => "floating point `" ++ x.toText ++ "`"
  | .str s _ => "string " ++ Text.quote s
  | .arr .. => "sequence"
  | .obj .. => "map"
  | .broken .. => "invalid text"

/-- Where a type error is noticed: after a scalar, or before a list or object's bracket. -/
def mismatchPos : Node → Option Pos
  | .arr _ _ p | .obj _ _ p => p
  | n => n.stop

/-- The error for a node of the wrong kind; a node that could not be read gives its fault. -/
def mismatch (src : Source) (n : Node) (expected : String) : DecodeError :=
  match n with
  | .broken e _ _ => e.toDecodeError
  | _ => ⟨"invalid type: " ++ unexpected n ++ ", expected " ++ expected, place src (mismatchPos n)⟩

/-- The error for a number of the right kind but out of range. -/
def outOfRange (src : Source) (n : Node) (expected : String) : DecodeError :=
  ⟨"invalid value: " ++ unexpected n ++ ", expected " ++ expected, place src n.stop⟩

/-- A whole number from 0 to `bound`, the range's name being `name` (`u64`, `u32`, `usize`). -/
def unsigned (name : String) (bound : Nat) : Decoder Nat := fun src n =>
  match n with
  | .num (.nat k) _ => if k ≤ bound then .ok k else .error (outOfRange src n name)
  | .num (.neg _) _ => .error (outOfRange src n name)
  | _ => .error (mismatch src n name)

/-- A whole number from 0 to `2^64 - 1`. -/
def u64 : Decoder Nat := unsigned "u64" (2 ^ (64 : Nat) - 1)

/-- A whole number from 0 to `2^32 - 1`. -/
def u32 : Decoder Nat := unsigned "u32" (2 ^ (32 : Nat) - 1)

/-- A count, up to `2^64 - 1`. -/
def usize : Decoder Nat := unsigned "usize" (2 ^ (64 : Nat) - 1)

/-- A whole number from `-2^31` to `2^31 - 1`. -/
def i32 : Decoder Int := fun src n =>
  match n with
  | .num (.nat k) _ => if k < 2 ^ (31 : Nat) then .ok k else .error (outOfRange src n "i32")
  | .num (.neg k) _ => if -(2 ^ (31 : Nat) : Int) ≤ k then .ok k else .error (outOfRange src n "i32")
  | _ => .error (mismatch src n "i32")

/-- A double; a whole number is rounded to one. -/
def f64 : Decoder Binary64 := fun src n =>
  match n with
  | .num (.nat k) _ => .ok (Binary64.ofNat k)
  | .num (.neg k) _ => .ok (Binary64.ofNat k.natAbs).negate
  | .num (.float x) _ => .ok x
  | _ => .error (mismatch src n "f64")

/-- A text, the kind of text being `name` in errors. -/
def textNamed (name : String) : Decoder String := fun src n =>
  match n with
  | .str s _ => .ok s
  | _ => .error (mismatch src n name)

/-- A text. -/
def string : Decoder String := textNamed "a string"

/-- A file-system path, held as its text. -/
def path : Decoder String := textNamed "path string"

/-- A truth value. -/
def bool : Decoder Bool := fun src n =>
  match n with
  | .bool b _ => .ok b
  | _ => .error (mismatch src n "a boolean")

/-- The empty value `null`. -/
def unit : Decoder Unit := fun src n =>
  match n with
  | .null _ => .ok ()
  | _ => .error (mismatch src n "unit")

/-- `null` for nothing, or a value. -/
def option (d : Decoder α) : Decoder (Option α) := fun src n =>
  match n with
  | .null _ => .ok none
  | _ => (d src n).map some

/-- Decodes list items in order. An error without a place gets the place of the next item, or of
the list's end. -/
def items (d : Decoder α) (src : Source) (stop : Option Pos) : List Node → Except DecodeError (List α)
  | [] => .ok []
  | x :: rest => do
    let nextPos := match rest with
      | y :: _ => y.start
      | [] => stop
    let v ← fixAt src nextPos (d src x)
    let vs ← items d src stop rest
    return v :: vs

/-- The syntax fault that closed a list or object, if any. -/
def closeCheck : Close → Except DecodeError Unit
  | .broken e => .error e.toDecodeError
  | .closed _ => .ok ()

/-- A list. -/
def list (d : Decoder α) : Decoder (List α) := fun src n =>
  match n with
  | .arr xs close _ => do
    let vs ← items d src n.stop xs
    closeCheck close
    return vs
  | _ => .error (mismatch src n "a sequence")

/-- Inserts a key and value into a list sorted by key, replacing the key's old value. -/
def insertSorted (k : String) (v : α) (m : List (String × α)) : List (String × α) :=
  let rest := m.filter (·.1 != k)
  let (lo, hi) := rest.partition (·.1 < k)
  lo ++ (k, v) :: hi

/-- Decodes the members of a string map; a repeated key keeps its last value. -/
def members (d : Decoder α) (src : Source) :
    List (String × Gap × Node) → List (String × α) → Except DecodeError (List (String × α))
  | [], acc => .ok acc
  | (k, gap, x) :: rest, acc => do
    let v ← fixAt src gap.afterValue (d src x)
    members d src rest (insertSorted k v acc)

/-- A map from texts to values, sorted by key. -/
def stringMap (d : Decoder α) : Decoder (List (String × α)) := fun src n =>
  match n with
  | .obj ms close _ => do
    let m ← members d src ms []
    closeCheck close
    return m
  | _ => .error (mismatch src n "a map")

/-- Names written as the alternatives of an error: `` `a` ``, `` `a` or `b` ``, or
`` one of `a`, `b`, `c` ``. -/
def alternatives (names : List String) : String :=
  let tick (s : String) := "`" ++ s ++ "`"
  match names with
  | [] => "nothing"
  | [a] => tick a
  | [a, b] => tick a ++ " or " ++ tick b
  | _ => "one of " ++ ", ".intercalate (names.map tick)

/-- The error for a variant name that is not one of `names`. -/
def unknownVariant (name : String) (names : List String) : String :=
  if names.isEmpty then "unknown variant `" ++ name ++ "`, there are no variants"
  else "unknown variant `" ++ name ++ "`, expected " ++ alternatives names

/-- The position of a variant name among `names`. -/
def variantIndex (names : List String) : Decoder Nat := fun src n =>
  match n with
  | .str s _ =>
    match names.idxOf? s with
    | some i => .ok i
    | none => .error ⟨unknownVariant s names, place src n.stop⟩
  | _ => .error (mismatch src n "variant identifier")

/-- Whether a member's value, skipped over, reads without a fault. -/
def skipCheck (src : Source) (n : Node) : Except DecodeError Unit :=
  if src = .text then
    match n.fault? with
    | some e => .error e.toDecodeError
    | none => .ok ()
  else .ok ()

end Decoder

/-- A named field of a record: how to decode it, its value when absent from an object (`none`:
the field is required), and whether that value also stands in for a list too short to hold it. -/
structure Field (α : Type) where
  name : String
  decoder : Decoder α
  absent : Option α
  fillsList : Bool

/-- A field without its type: what a record needs to check members in text order. -/
structure FieldCheck where
  name : String
  check : Decoder Unit
  optional : Bool
  fillsList : Bool

namespace Field

/-- A required field. -/
def required (name : String) (d : Decoder α) : Field α := ⟨name, d, none, false⟩

/-- A field that takes `v` when absent, from an object or from the end of a list. -/
def withDefault (name : String) (d : Decoder α) (v : α) : Field α := ⟨name, d, some v, true⟩

/-- A field holding `null` or a value. An object may leave it out, meaning `none`; a list must
still hold it. -/
def optional (name : String) (d : Decoder α) : Field (Option α) :=
  ⟨name, Decoder.option d, some none, false⟩

/-- The field's check. -/
def toCheck (f : Field α) : FieldCheck :=
  ⟨f.name, fun src n => (f.decoder src n).map fun _ => (), f.absent.isSome, f.fillsList⟩

end Field

/-- The members a record was given, by field name, with the source they came from. -/
structure Fields where
  source : Source
  given : List (String × Node)

/-- The value of a field: its member decoded, or the absent value. -/
def Fields.read (m : Fields) (f : Field α) : Except DecodeError α :=
  match m.given.find? (·.1 == f.name) with
  | some (_, n) => f.decoder m.source n
  | none =>
    match f.absent with
    | some v => .ok v
    | none => .error ⟨"missing field `" ++ f.name ++ "`", none⟩

namespace Decoder

/-- Checks object members in text order: a repeated field, then each known field's value;
unknown members are skipped. Returns the members by field name. -/
def checkMembers (src : Source) (checks : List FieldCheck) :
    List (String × Gap × Node) → List (String × Node) → Except DecodeError (List (String × Node))
  | [], seen => .ok seen.reverse
  | (k, gap, x) :: rest, seen =>
    match checks.find? (·.name == k) with
    | some c =>
      if seen.any (·.1 == k) then
        .error ⟨"duplicate field `" ++ k ++ "`", place src gap.afterKey⟩
      else do
        fixAt src gap.afterValue (c.check src x)
        checkMembers src checks rest ((k, x) :: seen)
    | none => do
      skipCheck src x
      checkMembers src checks rest seen

/-- The words for a list that should have held exactly `n` items. -/
def itemsInSequence (n : Nat) : String :=
  if n = 1 then "1 element in sequence" else toString n ++ " elements in sequence"

/-- The error for a list with items left over after `used` of them were taken, `first` being the
first one left. Read from text, the reader stops at it; a value in memory counts its whole list;
held-back content counts what was taken. -/
def leftOver (src : Source) (used : Nat) (first : Node) (rest : List Node) : DecodeError :=
  match src with
  | .text => ⟨Fault.trailingCharacters.message, (first.start.map fun p => p.shift 1)⟩
  | .value => ⟨"invalid length " ++ toString (used + rest.length + 1) ++
      ", expected fewer elements in array", none⟩
  | .buffered => ⟨"invalid length " ++ toString (used + rest.length + 1) ++ ", expected " ++
      itemsInSequence used, none⟩

/-- A variant without content. Held-back content that is a list must be empty; anything else
is ignored. -/
def unitVariant (v : α) : Decoder α := fun src n =>
  match src, n with
  | .buffered, .arr (x :: xs) _ _ => .error (leftOver .buffered 0 x xs)
  | _, _ => .ok v

/-- Assigns list items to fields in order, for a record written as a list. -/
def assignItems (src : Source) (expecting : String) (stop : Option Pos) :
    List FieldCheck → List Node → Nat → List (String × Node) → Except DecodeError (List (String × Node))
  | [], rest, i, acc =>
    match rest with
    | [] => .ok acc.reverse
    | y :: ys => .error (leftOver src i y ys)
  | c :: cs, rest, i, acc =>
    match rest with
    | [] =>
      if c.fillsList then assignItems src expecting stop cs [] (i + 1) acc
      else .error ⟨"invalid length " ++ toString i ++ ", expected " ++ expecting, place src stop⟩
    | x :: xs => do
      let nextPos := match xs with
        | y :: _ => y.start
        | [] => stop
      fixAt src nextPos (c.check src x)
      assignItems src expecting stop cs xs (i + 1) ((c.name, x) :: acc)

/-- A record of named fields, `name` being its name in errors. Members are checked in text
order; then the first required field that is absent, in the order of `checks`, is an error; then
`build` reads the fields. A list gives the fields in order. -/
def record (name : String) (checks : List FieldCheck) (build : Fields → Except DecodeError α) :
    Decoder α := fun src n =>
  let expecting := "struct " ++ name
  match n with
  | .obj ms close _ => do
    let given ← checkMembers src checks ms []
    closeCheck close
    match checks.find? (fun c => !c.optional && !given.any (·.1 == c.name)) with
    | some c => .error ⟨"missing field `" ++ c.name ++ "`", place src n.stop⟩
    | none => fixAt src n.stop (build ⟨src, given⟩)
  | .arr xs close _ => do
    let withCount := expecting ++ " with " ++ toString checks.length ++ " elements"
    let given ← assignItems src withCount n.stop checks xs 0 []
    closeCheck close
    fixAt src n.stop (build ⟨src, given⟩)
  | _ => .error (mismatch src n expecting)

/-- How a variant is written after its name: nothing more, or a content value. -/
inductive Variant (α : Type) where
  | unit (v : α)
  | content (d : Decoder α)

/-- The character a node's text began with, for nodes whose kind fixes it. -/
def leadOf : Node → Option Char
  | .null _ => some 'n'
  | .bool b _ => some (if b then 't' else 'f')
  | .num _ _ => some '0'
  | .str _ _ => some '"'
  | .arr .. => some '['
  | .obj .. => some '{'
  | .broken _ lead _ => lead

/-- The error for a value that is neither a variant name nor an object with one: read from
text, the reader refuses the value's first character. -/
def notVariant (src : Source) (n : Node) : DecodeError :=
  match src, n with
  | .text, .broken e none _ => e.toDecodeError
  | .text, _ =>
    match n.start, leadOf n with
    | some p, some ch => ⟨Fault.expectedValue.message, some (p.peek ch)⟩
    | _, _ => ⟨Fault.expectedValue.message, none⟩
  | _, _ => ⟨"invalid type: " ++ unexpected n ++ ", expected string or map", none⟩

/-- A choice of variants written as the variant's name, or as an object whose single key is the
name and whose value is the content. -/
def named (variants : List (String × Variant α)) : Decoder α := fun src n =>
  let names := variants.map (·.1)
  let pick (i : Nat) : Variant α := (variants[i]?.map (·.2)).getD (.content fun _ _ => .error default)
  match n with
  | .str _ _ => do
    let i ← variantIndex names src n
    match pick i with
    | .unit v => .ok v
    | .content _ => .error ⟨"invalid type: unit variant, expected newtype variant", none⟩
  | .obj ms close start =>
    match src, ms with
    | .text, [] =>
      match close with
      | .closed p => .error ⟨Fault.expectedValue.message, p⟩
      | .broken e =>
        if e.fault = .eofObject then .error ⟨Fault.eofValue.message, some e.pos⟩
        else .error e.toDecodeError
    | .text, (k, gap, x) :: _ => do
      let i ← variantIndex names src (.str k (gap.keyStop.map fun p => ⟨p, p⟩))
      let v ← match pick i, x with
        | _, .broken e _ _ => .error e.toDecodeError
        | .unit v, _ => (unit src x).map fun _ => v
        | .content d, _ => d src x
      match gap.next with
      | some '}' => .ok v
      | some _ => .error ⟨Fault.expectedValue.message, gap.afterValue⟩
      | none => .error ⟨Fault.eofObject.message, gap.afterValue⟩
    | _, [(k, _, x)] => do
      let i ← variantIndex names src (.str k none)
      match pick i with
      | .unit v => (unit src x).map fun _ => v
      | .content d => d src x
    | _, _ =>
      let _ := start
      .error ⟨"invalid value: map, expected map with a single key", none⟩
  | _ => .error (notVariant src n)

/-- Finds the tag member of an object and holds back the others, in text order. -/
def splitTag (src : Source) (tag : String) (names : List String) :
    List (String × Gap × Node) → Option Nat → List (String × Gap × Node) →
      Except DecodeError (Option Nat × List (String × Gap × Node))
  | [], found, others => .ok (found, others.reverse)
  | (k, gap, x) :: rest, found, others =>
    if k == tag then
      match found with
      | some _ => .error ⟨"duplicate field `" ++ tag ++ "`", place src gap.afterKey⟩
      | none => do
        let i ← variantIndex names src x
        splitTag src tag names rest (some i) others
    else do
      skipCheck src x
      splitTag src tag names rest found ((k, gap, x) :: others)

/-- A choice of variants written as an object whose member `tag` names the variant, beside the
variant's own fields; `expecting` names it in errors. A list gives the tag first. -/
def tagged (expecting tag : String) (variants : List (String × Decoder α)) : Decoder α :=
  fun src n =>
  let names := variants.map (·.1)
  let decodeAs (i : Nat) (content : Node) : Except DecodeError α :=
    match variants[i]? with
    | some (_, d) => d .buffered content
    | none => .error ⟨unknownVariant "" names, none⟩
  match n with
  | .obj ms close _ => do
    let (found, others) ← splitTag src tag names ms none []
    closeCheck close
    match found with
    | none => .error ⟨"missing field `" ++ tag ++ "`", place src n.stop⟩
    | some i => decodeAs i (.obj others (.closed none) none)
  | .arr xs close _ =>
    match xs with
    | [] => do
      closeCheck close
      .error ⟨"missing field `" ++ tag ++ "`", place src n.stop⟩
    | x :: rest => do
      let i ← variantIndex names src x
      for y in rest do skipCheck src y
      closeCheck close
      decodeAs i (.arr rest (.closed none) none)
  | _ => .error (mismatch src n expecting)

/-- Which of the two keys of an adjacently tagged object a member is, if either. -/
def keyRole (tag content : String) (k : String) : Option Bool :=
  if k == tag then some true else if k == content then some false else none

/-- Skips members that are neither the tag nor the content, checking them; returns the next
relevant member and what follows it. -/
def nextRelevant (src : Source) (tag content : String) :
    List (String × Gap × Node) →
      Except DecodeError (Option (Bool × Gap × Node × List (String × Gap × Node)))
  | [] => .ok none
  | (k, gap, x) :: rest =>
    match keyRole tag content k with
    | some isTag => .ok (some (isTag, gap, x, rest))
    | none => do
      skipCheck src x
      nextRelevant src tag content rest

/-- A choice of variants written as an object with a member `tag` naming the variant and a
member `content` holding its content, in either order; `expecting` names it in errors. -/
def adjacent (expecting tag content : String) (variants : List (String × Variant α)) :
    Decoder α := fun src n =>
  let names := variants.map (·.1)
  let pick (i : Nat) : Variant α := (variants[i]?.map (·.2)).getD (.content fun _ _ => .error default)
  let missing (key : String) : DecodeError := ⟨"missing field `" ++ key ++ "`", place src n.stop⟩
  let dup (key : String) (gap : Gap) : DecodeError :=
    ⟨"duplicate field `" ++ key ++ "`", place src gap.afterKey⟩
  let decodeContent (i : Nat) (from_ : Source) (x : Node) : Except DecodeError α :=
    match pick i with
    | .unit v => (unit from_ x).map fun _ => v
    | .content d => d from_ x
  let noMore (close : Close) (rest : List (String × Gap × Node)) (v : α) :
      Except DecodeError α := do
    match ← nextRelevant src tag content rest with
    | none => closeCheck close; .ok v
    | some (true, gap, _, _) => .error (dup tag gap)
    | some (false, gap, _, _) => .error (dup content gap)
  match n with
  | .obj ms close _ => do
    match ← nextRelevant src tag content ms with
    | none => closeCheck close; .error (missing tag)
    | some (true, _, x, rest) =>
      let i ← variantIndex names src x
      match ← nextRelevant src tag content rest with
      | none =>
        closeCheck close
        match pick i with
        | .unit v => .ok v
        | .content _ => .error (missing content)
      | some (true, gap, _, _) => .error (dup tag gap)
      | some (false, _, y, rest') =>
        let v ← decodeContent i src y
        noMore close rest' v
    | some (false, _, y, rest) =>
      skipCheck src y
      match ← nextRelevant src tag content rest with
      | none => closeCheck close; .error (missing tag)
      | some (false, gap, _, _) => .error (dup content gap)
      | some (true, gap, x, rest') =>
        let i ← variantIndex names src x
        let v ← fixAt src gap.afterValue (decodeContent i .buffered y)
        noMore close rest' v
  | .arr xs close _ =>
    match xs with
    | [] => do closeCheck close; .error ⟨"invalid length 0, expected " ++ expecting, place src n.stop⟩
    | [x] => do
      let _ ← variantIndex names src x
      closeCheck close
      .error ⟨"invalid length 1, expected " ++ expecting, place src n.stop⟩
    | x :: y :: more => do
      let i ← variantIndex names src x
      let v ← decodeContent i src y
      match more with
      | [] => closeCheck close; .ok v
      | z :: zs => .error (leftOver src 2 z zs)
  | _ => .error (mismatch src n expecting)

end Decoder

/-- Decodes a whole text: the value first, then anything but blanks after it is an error. -/
def decodeText (d : Decoder α) (text : String) : Except DecodeError α :=
  let (n, trailing) := readDocument text
  match d .text n with
  | .error e => .error e
  | .ok v =>
    match trailing with
    | some e => .error e.toDecodeError
    | none => .ok v

/-- Decodes a document held as a map-backed value. -/
def decodeValue (d : Decoder α) (n : Node) : Except DecodeError α := d .value n.asValue

end CrashTest.Json
