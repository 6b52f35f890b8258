import CrashTest.Float.Decimal
/-!
JSON values that this library writes, and their text.

Objects keep their members in the order given. Text is written compactly (no blanks) or pretty
(members and items on their own lines, indented by two spaces per level, `": "` between key and
value, and `[]` and `{}` for empty lists and objects). In a string, the quote, the backslash and the
control characters are escaped, the five common controls as `\b \f \n \r \t` and the others as
`\u00XX` in lower-case hexadecimal; everything else, non-ASCII included, is written as it is.
-/
namespace CrashTest

/-- A JSON value to be written. -/
inductive Json where
  | null
  | bool (b : Bool)
  | nat (n : Nat)
  | int (i : Int)
  | float (x : Binary64)
  | str (s : String)
  | arr (items : List Json)
  | obj (members : List (String × Json))
  deriving Repr, Inhabited

namespace Json

/-- A text value. -/
def ofString (s : String) : Json := .str s

/-- `null` for nothing, or the value. -/
def ofOption (f : α → Json) : Option α → Json
  | some v => f v
  | none => .null

/-- How one character is written inside a JSON string. -/
def escapeChar (c : Char) : String :=
  if c = '"' then "\\\""
  else if c = '\\' then "\\\\"
  else if c = '\x08' then "\\b"
  else if c = '\x0c' then "\\f"
  else if c = '\n' then "\\n"
  else if c = '\r' then "\\r"
  else if c = '\t' then "\\t"
  else if c.toNat < 0x20 then
    let hex := "0123456789abcdef".toList
    "\\u00" ++ String.singleton (hex.getD (c.toNat / 16) '0') ++
      String.singleton (hex.getD (c.toNat % 16) '0')
  else String.singleton c

/-- A string as a JSON string literal. -/
def quote (s : String) : String := "\"" ++ String.join (s.toList.map escapeChar) ++ "\""

/-- The text of a number. -/
def numberText : Json → String
  | .nat n => toString n
  | .int i => toString i
  | .float x => x.toText
  | _ => ""

mutual

/-- The compact text: no blanks anywhere. -/
def compact : Json → String
  | .null => "null"
  | .bool b => if b then "true" else "false"
  | .nat n => toString n
  | .int i => toString i
  | .float x => x.toText
  | .str s => quote s
  | .arr items => "[" ++ ",".intercalate (compactItems items) ++ "]"
  | .obj members => "\x7b" ++ ",".intercalate (compactMembers members) ++ "\x7d"

/-- Compact texts of list items. -/
def compactItems : List Json → List String
  | [] => []
  | x :: rest => compact x :: compactItems rest

/-- Compact texts of object members. -/
def compactMembers : List (String × Json) → List String
  | [] => []
  | (k, v) :: rest => (quote k ++ ":" ++ compact v) :: compactMembers rest

end

/-- Two spaces per level. -/
def indent (level : Nat) : String := String.ofList (List.replicate (2 * level) ' ')

mutual

/-- The pretty text at nesting `level`. -/
def pretty (level : Nat) : Json → String
  | .arr [] => "[]"
  | .obj [] => "\x7b\x7d"
  | .arr items =>
    "[\n" ++ ",\n".intercalate (prettyItems (level + 1) items) ++ "\n" ++ indent level ++ "]"
  | .obj members =>
    "\x7b\n" ++ ",\n".intercalate (prettyMembers (level + 1) members) ++ "\n" ++ indent level ++ "\x7d"
  | v => compact v

/-- Pretty texts of list items, each on its own line. -/
def prettyItems (level : Nat) : List Json → List String
  | [] => []
  | x :: rest => (indent level ++ pretty level x) :: prettyItems level rest

/-- Pretty texts of object members, each on its own line. -/
def prettyMembers (level : Nat) : List (String × Json) → List String
  | [] => []
  | (k, v) :: rest => (indent level ++ quote k ++ ": " ++ pretty level v) :: prettyMembers level rest

end

end Json

end CrashTest
