import CrashTest.Text.Printable
/-!
The quoted form of a text, as it appears in messages: between double quotes, with the quote, the
backslash, NUL, tab, carriage return and line feed written as two-character escapes, every
character that extends a grapheme or is not printable written as `\u` with its code point in
lower-case hexadecimal between braces, and everything else as it is.
-/
namespace CrashTest.Text

/-- Lower-case hexadecimal digits of `n`, without leading zeros. -/
def hexDigits (n : Nat) : String := String.ofList (Nat.toDigits 16 n)

/-- How one character is written inside a quoted text. -/
def quoteChar (c : Char) : String :=
  if c = '\x00' then "\\0"
  else if c = '\t' then "\\t"
  else if c = '\r' then "\\r"
  else if c = '\n' then "\\n"
  else if c = '\\' then "\\\\"
  else if c = '"' then "\\\""
  else if isGraphemeExtend c || !isPrintable c then "\\u\x7b" ++ hexDigits c.toNat ++ "\x7d"
  else String.singleton c

/-- The text between double quotes, each character written by `quoteChar`. -/
def quote (s : String) : String :=
  "\"" ++ String.join (s.toList.map quoteChar) ++ "\""

end CrashTest.Text
