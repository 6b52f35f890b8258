/-!
Bytes as UTF-8 text.

Output that programs write is a list of bytes. Read strictly, a byte list is text only when every
character in it is encoded well. Read leniently, each maximal stretch that starts a character but
cannot be completed (a stray continuation byte, a lead byte with too few or wrong continuations,
an overlong or surrogate form) becomes one replacement character `U+FFFD`, and reading carries on
after it.
-/
namespace CrashTest.Text

/-- Bytes as a list. -/
abbrev Bytes := List UInt8

/-- The UTF-8 encoding of a text. -/
def encode (s : String) : Bytes := s.toUTF8.toList

/-- Whether `b` continues a character. -/
def isContinuation (b : UInt8) : Bool := b &&& 0xC0 == 0x80

/-- The range allowed for the byte after a lead byte: the usual continuation range, narrowed
after `E0`, `ED`, `F0` and `F4` so that no overlong form, surrogate or value past `U+10FFFF` is
accepted. -/
def secondRange (lead : UInt8) : UInt8 × UInt8 :=
  if lead == 0xE0 then (0xA0, 0xBF)
  else if lead == 0xED then (0x80, 0x9F)
  else if lead == 0xF0 then (0x90, 0xBF)
  else if lead == 0xF4 then (0x80, 0x8F)
  else (0x80, 0xBF)

/-- How many bytes a character with this lead byte has; zero for a byte that leads nothing. -/
def charWidth (lead : UInt8) : Nat :=
  if lead < 0x80 then 1
  else if 0xC2 ≤ lead ∧ lead ≤ 0xDF then 2
  else if 0xE0 ≤ lead ∧ lead ≤ 0xEF then 3
  else if 0xF0 ≤ lead ∧ lead ≤ 0xF4 then 4
  else 0

/-- The code point of a well-formed character's bytes. -/
def codePoint (lead : UInt8) (rest : Bytes) : Nat :=
  let low := rest.foldl (fun acc b => acc * 64 + (b &&& 0x3F).toNat) 0
  match rest.length with
  | 0 => lead.toNat
  | 1 => (lead &&& 0x1F).toNat * 64 + low
  | 2 => (lead &&& 0x0F).toNat * 4096 + low
  | _ => (lead &&& 0x07).toNat * 262144 + low

/-- The continuation bytes that follow a lead byte of width `width`, as many as are well formed:
the bytes taken, and whether the character is complete. -/
def takeContinuations (lead : UInt8) (width : Nat) (bs : Bytes) : Bytes × Bool :=
  match width, bs with
  | 0, _ | 1, _ => ([], true)
  | _, [] => ([], false)
  | w + 2, b :: rest =>
    let (lo, hi) := secondRange lead
    if lo ≤ b ∧ b ≤ hi then
      let more := (rest.take w).takeWhile isContinuation
      (b :: more, more.length == w)
    else ([], false)

/-- One step of reading: the character at the front, or `none` for a stretch that cannot be
completed, and the bytes after it. -/
def decodeOne : Bytes → Option (Option Char × Bytes)
  | [] => none
  | b :: rest =>
    let width := charWidth b
    if width = 0 then some (none, rest)
    else
      let (taken, complete) := takeContinuations b width rest
      let after := rest.drop taken.length
      if complete then some (some (Char.ofNat (codePoint b taken)), after)
      else some (none, after)

/-- Reads bytes leniently, each stretch that cannot be completed becoming `U+FFFD`. -/
def decodeLossyChars : Nat → Bytes → List Char
  | 0, _ => []
  | fuel + 1, bs =>
    match decodeOne bs with
    | none => []
    | some (c, rest) => c.getD '�' :: decodeLossyChars fuel rest

/-- The text of the bytes, read leniently. -/
def decodeLossy (bs : Bytes) : String := String.ofList (decodeLossyChars (bs.length + 1) bs)

/-- Reads bytes strictly: the characters, or `none` if any stretch is not well formed. -/
def decodeStrictChars : Nat → Bytes → Option (List Char)
  | 0, _ => some []
  | fuel + 1, bs =>
    match decodeOne bs with
    | none => some []
    | some (none, _) => none
    | some (some c, rest) => (decodeStrictChars fuel rest).map (c :: ·)

/-- The text of the bytes, if they are well-formed UTF-8. -/
def decodeStrict? (bs : Bytes) : Option String :=
  (decodeStrictChars (bs.length + 1) bs).map String.ofList

end CrashTest.Text
