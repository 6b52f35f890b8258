import CrashTest.Float.Decimal
import CrashTest.Text.Quoted
/-!
JSON documents as they are read.

A `Node` is a JSON value that remembers where it stood in its text, so that an error found while
decoding it can say where: a position is a line (from 1) and a column, the number of bytes of that
line before the point. A text that stops being JSON part way is still read into a node: the values
before the fault are kept, and the fault sits where the next value or separator would have been.
Decoding visits a document in text order, so it meets a type error before a later syntax error,
and a syntax error before anything that follows it.

Numbers are kept in three kinds, as the reader classifies them: a natural number below `2^64`, a
negative integer not below `-2^63`, and otherwise a double.
-/
namespace CrashTest.Json

/-- A point in a text: a line counted from 1, and the bytes of that line before the point. -/
structure Pos where
  line : Nat
  column : Nat
  deriving DecidableEq, Repr, Inhabited

namespace Pos

/-- The start of a text. -/
def origin : Pos := ⟨1, 0⟩

/-- The point after the character `c`. -/
def advance (p : Pos) (c : Char) : Pos :=
  if c = '\n' then ⟨p.line + 1, 0⟩ else ⟨p.line, p.column + c.utf8Size⟩

/-- The point one byte into the character `c`, where a reader that looked at `c` reports. -/
def peek (p : Pos) (c : Char) : Pos :=
  if c = '\n' then ⟨p.line + 1, 0⟩ else ⟨p.line, p.column + 1⟩

/-- The point `n` bytes further along the same line. -/
def shift (p : Pos) (n : Nat) : Pos := ⟨p.line, p.column + n⟩

end Pos

/-- A JSON number in the kind the reader gives it. -/
inductive Number where
  /-- A whole number from 0 to `2^64 - 1`. -/
  | nat (n : Nat)
  /-- A negative whole number from `-2^63` to `-1`. -/
  | neg (n : Int)
  /-- Any other number, rounded to a double. -/
  | float (x : Binary64)
  deriving DecidableEq, Repr, Inhabited

/-- What made a text stop being JSON. -/
inductive Fault where
  | eofList
  | eofObject
  | eofString
  | eofValue
  | expectedColon
  | expectedListCommaOrEnd
  | expectedObjectCommaOrEnd
  | expectedIdent
  | expectedValue
  | invalidEscape
  | invalidNumber
  | numberOutOfRange
  | controlCharacter
  | keyMustBeString
  | loneLeadingSurrogate
  | trailingComma
  | trailingCharacters
  | unexpectedEndOfHexEscape
  | recursionLimit
  deriving DecidableEq, Repr, Inhabited

/-- The words for each fault. -/
def Fault.message : Fault → String
  | .eofList => "EOF while parsing a list"
  | .eofObject => "EOF while parsing an object"
  | .eofString => "EOF while parsing a string"
  | .eofValue => "EOF while parsing a value"
  | .expectedColon => "expected `:`"
  | .expectedListCommaOrEnd => "expected `,` or `]`"
  | .expectedObjectCommaOrEnd => "expected `,` or `\x7d`"
  | .expectedIdent => "expected ident"
  | .expectedValue => "expected value"
  | .invalidEscape => "invalid escape"
  | .invalidNumber => "invalid number"
  | .numberOutOfRange => "number out of range"
  | .controlCharacter => "control character (\\u0000-\\u001F) found while parsing a string"
  | .keyMustBeString => "key must be a string"
  | .loneLeadingSurrogate => "lone leading surrogate in hex escape"
  | .trailingComma => "trailing comma"
  | .trailingCharacters => "trailing characters"
  | .unexpectedEndOfHexEscape => "unexpected end of hex escape"
  | .recursionLimit => "recursion limit exceeded"

/-- A fault and where it was found. -/
structure SyntaxError where
  fault : Fault
  pos : Pos
  deriving DecidableEq, Repr, Inhabited

/-- Where a value began and where it ended. -/
structure Span where
  start : Pos
  stop : Pos
  deriving DecidableEq, Repr, Inhabited

/-- How a list or an object ended: at its closing bracket, or at a fault. -/
inductive Close where
  | closed (stop : Option Pos)
  | broken (e : SyntaxError)
  deriving DecidableEq, Repr, Inhabited

/-- Points around an object member: after its key, after its key and the blanks that follow, after
its value (and the blanks after it, and the closing brace if that comes next), and the first
character after the value's blanks, if any. -/
structure Gap where
  keyStop : Option Pos
  afterKey : Option Pos
  afterValue : Option Pos
  next : Option Char
  deriving DecidableEq, Repr, Inhabited

/-- A JSON value with the places it came from. A node built from a value, rather than read from
text, has no places. -/
inductive Node where
  | null (span : Option Span)
  | bool (b : Bool) (span : Option Span)
  | num (n : Number) (span : Option Span)
  | str (s : String) (span : Option Span)
  | arr (items : List Node) (close : Close) (start : Option Pos)
  | obj (members : List (String × Gap × Node)) (close : Close) (start : Option Pos)
  /-- A value that could not be read: the fault, the character it began with, and where. -/
  | broken (e : SyntaxError) (lead : Option Char) (start : Option Pos)
  deriving Repr, Inhabited

namespace Node

/-- Where the value began. -/
def start : Node → Option Pos
  | .null span | .bool _ span | .num _ span | .str _ span => span.map (·.start)
  | .arr _ _ p | .obj _ _ p | .broken _ _ p => p

/-- Where the value ended: after its last character, or after its closing bracket. -/
def stop : Node → Option Pos
  | .null span | .bool _ span | .num _ span | .str _ span => span.map (·.stop)
  | .arr _ (.closed p) _ | .obj _ (.closed p) _ => p
  | _ => none

/-- The fault that ended a list or object, if any. -/
def closeFault? : Close → Option SyntaxError
  | .broken e => some e
  | .closed _ => none

mutual

/-- The first syntax fault in the value, in text order, if it has one. -/
def fault? : Node → Option SyntaxError
  | .broken e _ _ => some e
  | .arr items close _ => (itemsFault? items).or (closeFault? close)
  | .obj members close _ => (membersFault? members).or (closeFault? close)
  | _ => none

/-- The first syntax fault among list items. -/
def itemsFault? : List Node → Option SyntaxError
  | [] => none
  | n :: rest => (fault? n).or (itemsFault? rest)

/-- The first syntax fault among object members' values. -/
def membersFault? : List (String × Gap × Node) → Option SyntaxError
  | [] => none
  | (_, _, n) :: rest => (fault? n).or (membersFault? rest)

end

mutual

/-- The same value without places, as a value built in memory. -/
def unplaced : Node → Node
  | .null _ => .null none
  | .bool b _ => .bool b none
  | .num n _ => .num n none
  | .str s _ => .str s none
  | .arr items _ _ => .arr (unplacedItems items) (.closed none) none
  | .obj members _ _ => .obj (unplacedMembers members) (.closed none) none
  | .broken e lead _ => .broken e lead none

/-- List items without places. -/
def unplacedItems : List Node → List Node
  | [] => []
  | n :: rest => unplaced n :: unplacedItems rest

/-- Object members without places. -/
def unplacedMembers : List (String × Gap × Node) → List (String × Gap × Node)
  | [] => []
  | (k, _, n) :: rest => (k, ⟨none, none, none, none⟩, unplaced n) :: unplacedMembers rest

end

/-- Members sorted by key, a later member replacing an earlier one of the same key: the order
and contents of a JSON object once it is held as a map. -/
def sortMembers (members : List (String × Gap × Node)) : List (String × Gap × Node) :=
  let insert (acc : List (String × Gap × Node)) (m : String × Gap × Node) :=
    let rest := acc.filter (·.1 != m.1)
    let (lo, hi) := rest.partition (·.1 < m.1)
    lo ++ m :: hi
  members.foldl insert []

mutual

/-- The value as a map-backed document holds it: no places, and every object's members sorted by
key with later duplicates winning. -/
def asValue : Node → Node
  | .arr items _ _ => .arr (itemsAsValue items) (.closed none) none
  | .obj members _ _ => .obj (sortMembers (membersAsValue members)) (.closed none) none
  | n => n.unplaced

/-- List items as values. -/
def itemsAsValue : List Node → List Node
  | [] => []
  | n :: rest => asValue n :: itemsAsValue rest

/-- Object members as values, in their order. -/
def membersAsValue : List (String × Gap × Node) → List (String × Gap × Node)
  | [] => []
  | (k, _, n) :: rest => (k, ⟨none, none, none, none⟩, asValue n) :: membersAsValue rest

end

/-- The member of an object with this key, the last one if it repeats. -/
def field? (n : Node) (key : String) : Option Node :=
  match n with
  | .obj members _ _ => (members.reverse.find? (·.1 == key)).map (·.2.2)
  | _ => none

end Node

end CrashTest.Json
