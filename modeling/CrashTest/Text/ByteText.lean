import CrashTest.Text.Utf8
/-!
Byte texts.

The shell and the small programs of the machine see text as bytes, never as characters: a
length counts bytes, a pattern's `?` takes one byte, a field width pads to a number of bytes. A
byte text holds such text in a `String` with one character per byte, the character whose code is
the byte, so that every code in it is below 256. Text from outside (a command line given as
Unicode) enters as the byte text of its UTF-8 encoding, and output leaves as the bytes
themselves; whatever reads the output decodes it.
-/
namespace CrashTest.Text

/-- The byte text of a list of bytes. -/
def ofBytes (bs : Bytes) : String := String.ofList (bs.map fun b => Char.ofNat b.toNat)

/-- The bytes of a byte text. -/
def bytesOf (s : String) : Bytes := s.toList.map fun c => c.toNat.toUInt8

/-- The byte text of a string's UTF-8 encoding. -/
def byteText (s : String) : String := ofBytes (encode s)

/-- The number of bytes of a byte text. -/
def byteLength (s : String) : Nat := s.length

end CrashTest.Text
