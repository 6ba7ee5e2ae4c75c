import Anywhere.Proofs.CharacterSets
import Anywhere.Text.HexEscape

/-!
# Text that was written with escapes

Whoever writes a text may choose some of its characters and write `\xHH` for each byte of their
encoding, with digits of either case, and write the others as they are (`HexEscape.Written`). One
thing has to be kept in mind: a backslash that is written as it is must not look like the beginning
of an escape together with what follows it.

Decoding gives back the text, whatever was chosen (`HexEscape.decode_written`). The bytes that a
written text stands for are those of the text, since an escape stands for its byte and is left
behind, and its byte is not looked at again. So what an escape stands for may well be a backslash in
front of something that looks like the rest of an escape.
-/

namespace Anywhere.Text.Hex

/-! ## Digits -/

/-- The character is the digit of this value, in either case. -/
def IsDigitOf (value : Nat) (c : Char) : Prop :=
  c = Nat.digitChar value ∨ c = (Nat.digitChar value).toUpper

/-- The character is a digit. -/
def IsDigit (c : Char) : Prop := ∃ value < 16, IsDigitOf value c

instance (value : Nat) (c : Char) : Decidable (IsDigitOf value c) :=
  inferInstanceAs (Decidable (_ ∨ _))

theorem toNat_lt_of_digit? {c : Char} {value : Nat} (h : digit? c = some value) :
    c.toNat < 128 := by
  have hle (last : Char) (hlast : last.toNat < 128) (hc : c ≤ last) : c.toNat < 128 :=
    Nat.lt_of_le_of_lt (UInt32.le_iff_toNat_le.mp hc) hlast
  unfold digit? at h
  split at h
  · next hdigit =>
    rw [Char.isDigit, Bool.and_eq_true, decide_eq_true_eq, decide_eq_true_eq] at hdigit
    exact hle '9' (by decide) hdigit.2
  split at h
  · next hlower => exact hle 'f' (by decide) hlower.2
  split at h
  · next hupper => exact hle 'F' (by decide) hupper.2
  · exact nomatch h

theorem digit?_eq_some_iff {c : Char} {value : Nat} :
    digit? c = some value ↔ value < 16 ∧ IsDigitOf value c := by
  have hread : ∀ code < 128, ∀ value ∈ digit? (Char.ofNat code),
      value < 16 ∧ IsDigitOf value (Char.ofNat code) := by decide
  have hwritten : ∀ value < 16, digit? (Nat.digitChar value) = some value ∧
      digit? (Nat.digitChar value).toUpper = some value := by decide
  constructor
  · intro h
    have hcode := hread c.toNat (toNat_lt_of_digit? h) value (by rwa [Char.ofNat_toNat])
    rwa [Char.ofNat_toNat] at hcode
  · rintro ⟨hlt, rfl | rfl⟩
    · exact (hwritten value hlt).1
    · exact (hwritten value hlt).2

/-- Two digits denote the byte that they are the digits of. -/
theorem byte?_eq_some_iff {high low : Char} {b : UInt8} :
    byte? high low = some b ↔ IsDigitOf (b.toNat / 16) high ∧ IsDigitOf (b.toNat % 16) low := by
  have hb : b.toNat < 256 := b.toNat_lt
  constructor
  · intro h
    obtain ⟨front, hfront, h⟩ := Option.bind_eq_some_iff.mp h
    obtain ⟨back, hback, h⟩ := Option.bind_eq_some_iff.mp h
    obtain ⟨hfrontLt, hhigh⟩ := digit?_eq_some_iff.mp hfront
    obtain ⟨hbackLt, hlow⟩ := digit?_eq_some_iff.mp hback
    have hvalue : b.toNat = front * 16 + back := by
      rw [← Option.some.inj h]
      exact toNat_byte (by omega)
    have hdiv : b.toNat / 16 = front := by omega
    have hmod : b.toNat % 16 = back := by omega
    exact ⟨hdiv ▸ hhigh, hmod ▸ hlow⟩
  · rintro ⟨hhigh, hlow⟩
    have hfront := digit?_eq_some_iff.mpr ⟨by omega, hhigh⟩
    have hback := digit?_eq_some_iff.mpr ⟨by omega, hlow⟩
    have hvalue : b.toNat / 16 * 16 + b.toNat % 16 = b.toNat := by omega
    have hbyte : byte? high low = some (UInt8.ofNat (b.toNat / 16 * 16 + b.toNat % 16)) := by
      rw [byte?, hfront, hback]
      rfl
    rw [hbyte, hvalue, UInt8.ofNat_toNat]

end Anywhere.Text.Hex

namespace Anywhere.Text.HexEscape

open Hex (IsDigit IsDigitOf)

/-! ## Writing -/

/-- The escapes of some bytes in a row. -/
inductive Escapes : List UInt8 → List Char → Prop where
  | nil : Escapes [] []
  | cons {b : UInt8} {high low : Char} {bytes : List UInt8} {text : List Char} :
      IsDigitOf (b.toNat / 16) high → IsDigitOf (b.toNat % 16) low → Escapes bytes text →
      Escapes (b :: bytes) ('\\' :: 'x' :: high :: low :: text)

/-- The text looks like an escape at its front. -/
def BeginsEscape (text : List Char) : Prop :=
  ∃ high low rest, text = '\\' :: 'x' :: high :: low :: rest ∧ IsDigit high ∧ IsDigit low

/-- How a text can be written, each character as it is or by the escapes of its bytes. -/
inductive Written : List Char → List Char → Prop where
  | nil : Written [] []
  | plain {c : Char} {text written : List Char} :
      (c = '\\' → ¬ BeginsEscape (c :: written)) → Written text written →
      Written (c :: text) (c :: written)
  | escaped {c : Char} {escapes text written : List Char} :
      Escapes (String.utf8EncodeChar c) escapes → Written text written →
      Written (c :: text) (escapes ++ written)

/-! ## Reading -/

/-- Escapes are read as their bytes, whatever follows them. -/
theorem bytes_escapes {bs : List UInt8} {escapes : List Char} (h : Escapes bs escapes)
    (rest : List Char) : bytes (escapes ++ rest) = bs ++ bytes rest := by
  induction h with
  | nil => rfl
  | cons hhigh hlow _ ih =>
    simp only [List.cons_append]
    rw [bytes_escape (Hex.byte?_eq_some_iff.mpr ⟨hhigh, hlow⟩), ih]

/-- A character that begins no escape is read as its own bytes. -/
theorem bytes_plain {c : Char} {rest : List Char} (h : ¬ BeginsEscape (c :: rest)) :
    bytes (c :: rest) = String.utf8EncodeChar c ++ bytes rest := by
  rw [bytes.eq_def]
  split
  · next hnil => exact nomatch hnil
  · next high low rest' heq =>
    cases heq
    cases hbyte : Hex.byte? high low with
    | none => rfl
    | some b =>
      obtain ⟨hhigh, hlow⟩ := Hex.byte?_eq_some_iff.mp hbyte
      have hb : b.toNat < 256 := b.toNat_lt
      exact absurd ⟨high, low, rest', rfl, ⟨_, by omega, hhigh⟩, ⟨_, by omega, hlow⟩⟩ h
  · next heq =>
    cases heq
    rfl

/-- The bytes of a written text are those of the text. -/
theorem bytes_written {text written : List Char} (h : Written text written) :
    bytes written = Utf8.encode text := by
  induction h with
  | nil => rfl
  | @plain c text written hplain _ ih =>
    have hbegins : ¬ BeginsEscape (c :: written) := by
      intro hescape
      obtain ⟨high, low, rest, heq, -⟩ := id hescape
      exact hplain (List.cons.inj heq).1 hescape
    rw [bytes_plain hbegins, ih, Utf8.encode_cons]
  | escaped hescapes _ ih => rw [bytes_escapes hescapes, ih, Utf8.encode_cons]

/-- A text that has no escapes in it can be written as it is. -/
theorem written_self {text : List Char} (h : ∀ back, back <:+ text → ¬ BeginsEscape back) :
    Written text text := by
  induction text with
  | nil => exact .nil
  | cons c rest ih =>
    have hrest := ih fun back hback => h back (hback.trans (List.suffix_cons c rest))
    exact .plain (fun _ => h (c :: rest) List.suffix_rfl) hrest

theorem decode_of_written {text written : String} (h : Written text.toList written.toList) :
    decode written = text := by
  rw [decode, bytes_written h, Utf8.decode_encode, String.ofList_toList]

/-- **What was written with escapes is decoded again.** It makes no difference which characters are
escaped and how their digits are written. So a text without escapes stands for itself, and what the
escapes of a character stand for does not depend on what follows them. -/
theorem decode_written :
    (∀ text written : String, Written text.toList written.toList → decode written = text) ∧
      (∀ text : String, (∀ back, back <:+ text.toList → ¬ BeginsEscape back) →
        decode text = text) ∧
      ∀ (c : Char) (escapes rest : List Char), Escapes (String.utf8EncodeChar c) escapes →
        decode (String.ofList (escapes ++ rest)) =
          String.singleton c ++ decode (String.ofList rest) := by
  refine ⟨fun _ _ => decode_of_written, fun _ h => decode_of_written (written_self h), ?_⟩
  intro c escapes rest h
  simp only [decode, String.toList_ofList]
  rw [bytes_escapes h, Utf8.decode_utf8EncodeChar, String.ofList_cons]

/-- An escaped backslash in front of what looks like the rest of an escape, a character of two
bytes, and a backslash as it is; and an escape that is cut short. -/
theorem decode_written_backslash :
    Written "\\x41é\\".toList "\\x5Cx41\\xC3\\xa9\\".toList ∧
      decode "\\x5Cx41\\xC3\\xa9\\" = "\\x41é\\" ∧ decode "\\x4" = "\\x4" ∧
        decode (String.ofList ("\\x5c".toList ++ "x41".toList)) =
          String.singleton '\\' ++ decode (String.ofList "x41".toList) := by
  have hbackslash : Escapes (String.utf8EncodeChar '\\') ['\\', 'x', '5', 'C'] :=
    .cons (by decide) (by decide) .nil
  have hlower : Escapes (String.utf8EncodeChar '\\') ['\\', 'x', '5', 'c'] :=
    .cons (by decide) (by decide) .nil
  have haccented : Escapes (String.utf8EncodeChar 'é')
      ['\\', 'x', 'C', '3', '\\', 'x', 'a', '9'] :=
    .cons (by decide) (by decide) (.cons (by decide) (by decide) .nil)
  have hlast : ¬ BeginsEscape ['\\'] := by
    rintro ⟨high, low, rest, heq, -⟩
    exact nomatch heq
  have hshort : ∀ back, back <:+ "\\x4".toList → ¬ BeginsEscape back := by
    rintro back hback ⟨high, low, rest, rfl, -⟩
    exact absurd hback.length_le (by simp)
  have hwritten : Written "\\x41é\\".toList "\\x5Cx41\\xC3\\xa9\\".toList :=
    .escaped hbackslash (.plain nofun (.plain nofun (.plain nofun
      (.escaped haccented (.plain (fun _ => hlast) .nil)))))
  exact ⟨hwritten, decode_written.1 _ _ hwritten, decode_written.2.1 _ hshort,
    decode_written.2.2 _ _ _ hlower⟩

end Anywhere.Text.HexEscape
