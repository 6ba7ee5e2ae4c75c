import Anywhere.Text.Blank
import Anywhere.Text.Case
import Anywhere.Text.Utf8

/-!
# Character sets

The two encodings in which character data travels, the names under which a connection asks for
them, and the conversion between text and bytes.
-/

namespace Anywhere.Text

/-- How character data is represented in bytes. -/
inductive Encoding where
  | utf8
  /-- ISO 8859-1: one byte for each of the first 256 code points. -/
  | latin1
deriving DecidableEq, Repr

namespace Encoding

/-- The encoding that a character set name asks for. Case, surrounding white space and the choice
between `_` and `-` do not matter. -/
def ofCharset? (name : String) : Option Encoding :=
  let plain := (asciiLowercase (trim name)).map fun c => if c == '_' then '-' else c
  if ["utf8", "utf-8"].contains plain then some utf8
  else if ["iso-1", "iso-8859-1", "iso8859-1", "latin1", "latin-1", "cp1252",
      "windows-1252"].contains plain then some latin1
  else none

/-- The text that bytes stand for. Every byte string has one. -/
def decode : Encoding → List UInt8 → String
  | utf8, bytes => String.ofList (Utf8.decode bytes)
  | latin1, bytes => String.ofList (bytes.map fun b => Char.ofNat b.toNat)

/-- The Latin-1 byte of a character; a question mark stands for those that have none. -/
def latin1Byte (c : Char) : UInt8 :=
  if c.toNat < 256 then UInt8.ofNat c.toNat else '?'.toUInt8

/-- The bytes of a text. -/
def encode : Encoding → String → List UInt8
  | utf8, text => Utf8.encode text.toList
  | latin1, text => text.toList.map latin1Byte

@[simp] theorem encode_latin1 (text : String) :
    encode latin1 text = text.toList.map latin1Byte := rfl

/-- Latin-1 spends one byte on each character. -/
theorem length_encode_latin1 (text : String) : (encode latin1 text).length = text.length := by
  simp [String.length_toList]

end Encoding

end Anywhere.Text
