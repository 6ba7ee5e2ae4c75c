import Anywhere.Text.Hex
import Anywhere.Text.Utf8

/-!
# Escaped bytes in catalog defaults

The catalog writes a column default with `\xHH` for bytes it does not show as text. Decoding
replaces every such escape by its byte, takes all other characters as their UTF-8 bytes, and reads
the result as UTF-8; an escape that is cut short or has a wrong digit is ordinary text.
-/

namespace Anywhere.Text.HexEscape

/-- The bytes that a text with escapes stands for. -/
def bytes : List Char → List UInt8
  | [] => []
  | '\\' :: 'x' :: high :: low :: rest =>
    match Hex.byte? high low with
    | some b => b :: bytes rest
    | none => Utf8.encode ['\\'] ++ bytes ('x' :: high :: low :: rest)
  | c :: rest => String.utf8EncodeChar c ++ bytes rest

/-- The text that a text with escapes stands for. -/
def decode (text : String) : String := String.ofList (Utf8.decode (bytes text.toList))

@[simp] theorem bytes_nil : bytes [] = [] := rfl

/-- An escape with two good digits is its byte. -/
theorem bytes_escape {high low : Char} {b : UInt8} (h : Hex.byte? high low = some b)
    (rest : List Char) : bytes ('\\' :: 'x' :: high :: low :: rest) = b :: bytes rest := by
  rw [bytes, h]

end Anywhere.Text.HexEscape
