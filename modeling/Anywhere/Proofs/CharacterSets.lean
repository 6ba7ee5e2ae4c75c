import Anywhere.Text.Encoding
import Mathlib.Data.List.DropRight
import Mathlib.Tactic.Common

/-!
# Text that survives its encoding

What is encoded is decoded again: in UTF-8 for every text, in Latin-1 for a text without characters
beyond U+00FF. ASCII is the same in both, so numbers and dates, which are written in ASCII, do not
depend on the encoding of a session.

For UTF-8 the argument goes through the first byte of a sequence. It tells how many bytes follow,
and the bounds that it puts on the next one exclude only what no character is encoded as.

Text also survives when white space at its ends is dropped and it begins and ends with something
else.
-/

namespace Anywhere.Text

theorem toNat_byte {n : Nat} (h : n < 256) : (UInt8.ofNat n).toNat = n :=
  UInt8.toNat_ofNat_of_lt' h

namespace Utf8

/-! ## First bytes -/

section Lead

variable {b : UInt8}

theorem Lead.ofByte_single (h : b.toNat < 0x80) : Lead.ofByte b = .single := by
  have hb : b < 0x80 := UInt8.lt_iff_toNat_lt.mpr h
  rw [ofByte, if_pos hb]

theorem Lead.ofByte_two (hlow : 0xC2 ≤ b.toNat) (hhigh : b.toNat < 0xE0) :
    Lead.ofByte b = .two := by
  simp only [ofByte, UInt8.lt_iff_toNat_lt, UInt8.reduceToNat]
  rw [if_neg (by omega), if_neg (by omega), if_pos hhigh]

/-- Of the sequences of three bytes, E0 excludes overlong ones and ED excludes surrogates. -/
theorem Lead.ofByte_three (hlow : 0xE0 ≤ b.toNat) (hhigh : b.toNat < 0xF0) :
    Lead.ofByte b = .three (if b.toNat = 0xE0 then 0xA0 else 0x80)
      (if b.toNat = 0xED then 0x9F else 0xBF) := by
  simp only [ofByte, UInt8.lt_iff_toNat_lt, beq_iff_eq, ← UInt8.toNat_inj, UInt8.reduceToNat]
  rw [if_neg (by omega), if_neg (by omega), if_neg (by omega), if_pos hhigh]
  split_ifs <;> first | rfl | omega

/-- Of the sequences of four bytes, F0 excludes overlong ones and F4 excludes what lies above
U+10FFFF. -/
theorem Lead.ofByte_four (hlow : 0xF0 ≤ b.toNat) (hhigh : b.toNat ≤ 0xF4) :
    Lead.ofByte b = .four (if b.toNat = 0xF0 then 0x90 else 0x80)
      (if b.toNat = 0xF4 then 0x8F else 0xBF) := by
  simp only [ofByte, UInt8.lt_iff_toNat_lt, beq_iff_eq, ← UInt8.toNat_inj, UInt8.reduceToNat]
  rw [if_neg (by omega), if_neg (by omega), if_neg (by omega), if_neg (by omega), if_neg (by omega),
    if_neg (by omega)]
  split_ifs <;> first | rfl | omega

end Lead

/-! ## Sequences -/

theorem within_iff {low high b : UInt8} :
    within low high b = true ↔ low.toNat ≤ b.toNat ∧ b.toNat ≤ high.toNat := by
  simp [within, UInt8.le_iff_toNat_le]

/-- The byte behind a first byte that carries these six bits of a code point. -/
def continuation (bits : Nat) : UInt8 := UInt8.ofNat (bits % 64 + 128)

theorem toNat_continuation (bits : Nat) : (continuation bits).toNat = bits % 64 + 128 :=
  toNat_byte (by omega)

theorem isContinuation_continuation (bits : Nat) : isContinuation (continuation bits) = true := by
  rw [isContinuation, within_iff, toNat_continuation]
  simp only [UInt8.reduceToNat]
  omega

theorem extend_continuation (code bits : Nat) :
    extend code (continuation bits) = code * 64 + bits % 64 := by
  rw [extend, toNat_continuation]
  omega

section Sequences

variable {b low high : UInt8} (rest : List UInt8)

theorem decode_single (h : Lead.ofByte b = .single) :
    decode (b :: rest) = Char.ofNat b.toNat :: decode rest :=
  decode.eq_2 b rest h

theorem decode_two (h : Lead.ofByte b = .two) (bits : Nat) :
    decode (b :: continuation bits :: rest) =
      Char.ofNat (b.toNat % 32 * 64 + bits % 64) :: decode rest := by
  rw [decode.eq_3 b _ rest h, if_pos (isContinuation_continuation bits), extend_continuation]

theorem decode_three (h : Lead.ofByte b = .three low high) (bits₁ bits₂ : Nat)
    (h₁ : within low high (continuation bits₁) = true) :
    decode (b :: continuation bits₁ :: continuation bits₂ :: rest) =
      Char.ofNat ((b.toNat % 16 * 64 + bits₁ % 64) * 64 + bits₂ % 64) :: decode rest := by
  rw [decode.eq_4 b low high _ _ rest h, if_pos h₁, if_pos (isContinuation_continuation bits₂),
    extend_continuation, extend_continuation]

theorem decode_four (h : Lead.ofByte b = .four low high) (bits₁ bits₂ bits₃ : Nat)
    (h₁ : within low high (continuation bits₁) = true) :
    decode (b :: continuation bits₁ :: continuation bits₂ :: continuation bits₃ :: rest) =
      Char.ofNat (((b.toNat % 8 * 64 + bits₁ % 64) * 64 + bits₂ % 64) * 64 + bits₃ % 64) ::
        decode rest := by
  rw [decode.eq_6 b low high _ _ _ rest h, if_pos h₁, if_pos (isContinuation_continuation bits₂),
    if_pos (isContinuation_continuation bits₃), extend_continuation, extend_continuation,
    extend_continuation]

end Sequences

/-! ## Characters -/

section Codes

variable {code : Nat} (rest : List UInt8)

theorem decode_code_single (hhigh : code ≤ 0x7F) :
    decode (UInt8.ofNat code :: rest) = Char.ofNat code :: decode rest := by
  have hlead : (UInt8.ofNat code).toNat = code := toNat_byte (by omega)
  rw [decode_single rest (Lead.ofByte_single (by omega)), hlead]

theorem decode_code_two (hlow : 0x80 ≤ code) (hhigh : code ≤ 0x7FF) :
    decode (UInt8.ofNat (code / 64 % 32 + 192) :: continuation code :: rest) =
      Char.ofNat code :: decode rest := by
  have hlead : (UInt8.ofNat (code / 64 % 32 + 192)).toNat = code / 64 % 32 + 192 :=
    toNat_byte (by omega)
  have hcode : (code / 64 % 32 + 192) % 32 * 64 + code % 64 = code := by omega
  rw [decode_two rest (Lead.ofByte_two (by omega) (by omega)), hlead, hcode]

/-- The code point is no surrogate, so the byte behind ED stays below its bound; and it needs three
bytes, so the one behind E0 stays above. -/
theorem decode_code_three (hlow : 0x800 ≤ code) (hhigh : code ≤ 0xFFFF)
    (hvalid : code < 0xD800 ∨ 0xDFFF < code) :
    decode (UInt8.ofNat (code / 4096 % 16 + 224) :: continuation (code / 64) ::
      continuation code :: rest) = Char.ofNat code :: decode rest := by
  have hlead : (UInt8.ofNat (code / 4096 % 16 + 224)).toNat = code / 4096 % 16 + 224 :=
    toNat_byte (by omega)
  have hthree := Lead.ofByte_three (b := UInt8.ofNat (code / 4096 % 16 + 224)) (by omega) (by omega)
  have hcode : ((code / 4096 % 16 + 224) % 16 * 64 + code / 64 % 64) * 64 + code % 64 = code := by
    omega
  rw [decode_three rest hthree, hlead, hcode]
  rw [within_iff, toNat_continuation, hlead]
  split_ifs <;> simp only [UInt8.reduceToNat] <;> omega

/-- Here the bounds behind F0 and F4 are those of the code points that need four bytes. -/
theorem decode_code_four (hlow : 0x10000 ≤ code) (hhigh : code < 0x110000) :
    decode (UInt8.ofNat (code / 262144 % 8 + 240) :: continuation (code / 4096) ::
      continuation (code / 64) :: continuation code :: rest) = Char.ofNat code :: decode rest := by
  have hlead : (UInt8.ofNat (code / 262144 % 8 + 240)).toNat = code / 262144 % 8 + 240 :=
    toNat_byte (by omega)
  have hfour := Lead.ofByte_four (b := UInt8.ofNat (code / 262144 % 8 + 240)) (by omega) (by omega)
  have hcode : (((code / 262144 % 8 + 240) % 8 * 64 + code / 4096 % 64) * 64 +
      code / 64 % 64) * 64 + code % 64 = code := by omega
  rw [decode_four rest hfour, hlead, hcode]
  rw [within_iff, toNat_continuation, hlead]
  split_ifs <;> simp only [UInt8.reduceToNat] <;> omega

end Codes

/-- The sequence of a character is decoded to the character. -/
theorem decode_utf8EncodeChar (c : Char) (rest : List UInt8) :
    decode (String.utf8EncodeChar c ++ rest) = c :: decode rest := by
  have hvalid : c.toNat < 0xD800 ∨ 0xDFFF < c.toNat ∧ c.toNat < 0x110000 := c.valid
  suffices hcode : decode (String.utf8EncodeChar c ++ rest) = Char.ofNat c.toNat :: decode rest by
    rw [hcode, Char.ofNat_toNat]
  have hval : c.val.toNat = c.toNat := rfl
  unfold String.utf8EncodeChar
  rw [hval]
  dsimp only
  split_ifs with hsingle htwo hthree
  · exact decode_code_single rest hsingle
  · exact decode_code_two rest (by omega) htwo
  · exact decode_code_three rest (by omega) hthree (by omega)
  · exact decode_code_four rest (by omega) (by omega)

/-- **What is encoded is decoded again.** -/
theorem decode_encode (text : List Char) : decode (encode text) = text := by
  induction text with
  | nil => rfl
  | cons c text ih => rw [encode_cons, decode_utf8EncodeChar, ih]

/-- ASCII is written with the bytes of its characters. -/
theorem encode_ascii {text : List Char} (h : ∀ c ∈ text, c.toNat < 0x80) :
    encode text = text.map fun c => UInt8.ofNat c.toNat := by
  induction text with
  | nil => rfl
  | cons c text ih =>
    have hc : String.utf8EncodeChar c = [UInt8.ofNat c.toNat] := by
      have hlt := h c List.mem_cons_self
      exact if_pos (Nat.le_of_lt_succ hlt)
    rw [encode_cons, hc, ih fun d hd => h d (List.mem_cons_of_mem c hd)]
    rfl

end Utf8

/-! ## Both encodings -/

namespace Encoding

/-- Text that survives an encoding: any text in UTF-8, and characters up to U+00FF in Latin-1. -/
def Covers : Encoding → String → Prop
  | utf8, _ => True
  | latin1, text => ∀ c ∈ text.toList, c.toNat ≤ 0xFF

theorem ofNat_toNat_latin1Byte {c : Char} (h : c.toNat ≤ 0xFF) :
    Char.ofNat (latin1Byte c).toNat = c := by
  rw [latin1Byte, if_pos (Nat.lt_succ_of_le h), toNat_byte (Nat.lt_succ_of_le h),
    Char.ofNat_toNat]

/-- **Text that an encoding covers survives it.** -/
theorem decode_encode {encoding : Encoding} {text : String} (h : encoding.Covers text) :
    encoding.decode (encoding.encode text) = text := by
  cases encoding with
  | utf8 => rw [encode, decode, Utf8.decode_encode, String.ofList_toList]
  | latin1 =>
    have hmap : (text.toList.map latin1Byte).map (fun b => Char.ofNat b.toNat) = text.toList := by
      rw [List.map_map]
      exact (List.map_congr_left fun c hc => ofNat_toNat_latin1Byte (h c hc)).trans (List.map_id _)
    rw [encode, decode, hmap, String.ofList_toList]

/-- ASCII does not depend on the encoding. -/
theorem decode_ascii (encoding : Encoding) {text : List Char} (h : ∀ c ∈ text, c.toNat < 0x80) :
    encoding.decode (Utf8.encode text) = String.ofList text := by
  cases encoding with
  | utf8 => rw [decode, Utf8.decode_encode]
  | latin1 =>
    have hmap : (text.map fun c => UInt8.ofNat c.toNat).map (fun b => Char.ofNat b.toNat) =
        text := by
      have hback : ∀ c ∈ text, Char.ofNat (UInt8.ofNat c.toNat).toNat = c := by
        intro c hc
        rw [toNat_byte (Nat.lt_trans (h c hc) (by decide)), Char.ofNat_toNat]
      rw [List.map_map]
      exact (List.map_congr_left hback).trans (List.map_id _)
    rw [decode, Utf8.encode_ascii h, hmap]

end Encoding

/-! ## White space at the ends -/

/-- ASCII that leaves ink. -/
def Visible (c : Char) : Prop := 0x20 < c.toNat ∧ c.toNat < 0x7F

instance (c : Char) : Decidable (Visible c) := inferInstanceAs (Decidable (_ ∧ _))

theorem isBlank_of_visible {c : Char} (h : Visible c) : isBlank c = false := by
  obtain ⟨hlow, hhigh⟩ := h
  simp only [isBlank, Bool.or_eq_false_iff, Bool.and_eq_false_iff, decide_eq_false_iff_not,
    beq_eq_false_iff_ne]
  omega

/-- Nothing is dropped from a text that neither begins nor ends with white space. -/
theorem stripBlanks_eq_self {text : List Char} (hne : text ≠ [])
    (hhead : isBlank (text.head hne) = false) (hlast : isBlank (text.getLast hne) = false) :
    stripBlanks text = text := by
  have hfront : dropBlanks text = text := by
    refine List.dropWhile_eq_self_iff.mpr fun hpos => ?_
    rw [← List.head_eq_getElem hne, hhead]
    exact Bool.false_ne_true
  rw [stripBlanks, hfront]
  refine List.rdropWhile_eq_self_iff.mpr fun _ => ?_
  rw [hlast]
  exact Bool.false_ne_true

/-- What is left when white space is dropped at the ends of a text is part of the text. -/
theorem mem_of_mem_stripBlanks {text : List Char} {c : Char} (h : c ∈ stripBlanks text) :
    c ∈ text := by
  have hfront : c ∈ dropBlanks text := (List.rdropWhile_prefix isBlank (dropBlanks text)).subset h
  exact (List.dropWhile_suffix isBlank).subset hfront

/-- No white space is left at the ends of a text. -/
theorem stripBlanks_stripBlanks (text : List Char) :
    stripBlanks (stripBlanks text) = stripBlanks text := by
  by_cases hne : stripBlanks text = []
  · rw [hne]
    rfl
  · have hfront : stripBlanks text <+: dropBlanks text := List.rdropWhile_prefix isBlank _
    refine stripBlanks_eq_self hne ?_ ?_
    · rw [hfront.head hne]
      exact List.head_dropWhile_not isBlank _
    · exact Bool.eq_false_iff.mpr (List.rdropWhile_last_not isBlank (dropBlanks text) hne)

/-- A text that is there and leaves ink throughout. -/
def Inked (text : List Char) : Prop := text ≠ [] ∧ ∀ c ∈ text, Visible c

namespace Inked

theorem cons {c : Char} {text : List Char} (hc : Visible c) (h : Inked text) :
    Inked (c :: text) := by
  refine ⟨List.cons_ne_nil c text, fun d hd => ?_⟩
  rcases List.mem_cons.mp hd with rfl | hd
  · exact hc
  · exact h.2 d hd

theorem append {front back : List Char} (hfront : Inked front) (hback : ∀ c ∈ back, Visible c) :
    Inked (front ++ back) := by
  refine ⟨List.append_ne_nil_of_left_ne_nil hfront.1 back, fun c hc => ?_⟩
  rcases List.mem_append.mp hc with hc | hc
  · exact hfront.2 c hc
  · exact hback c hc

theorem ascii {text : List Char} (h : Inked text) : ∀ c ∈ text, c.toNat < 0x80 :=
  fun c hc => (h.2 c hc).2.trans (by decide)

theorem stripBlanks_eq {text : List Char} (h : Inked text) : stripBlanks text = text :=
  stripBlanks_eq_self h.1 (isBlank_of_visible (h.2 _ (List.head_mem h.1)))
    (isBlank_of_visible (h.2 _ (List.getLast_mem h.1)))

/-- White space between two texts stays. -/
theorem stripBlanks_append {front back : List Char} (hfront : Inked front) (hback : Inked back)
    (between : List Char) :
    stripBlanks (front ++ (between ++ back)) = front ++ (between ++ back) := by
  refine stripBlanks_eq_self (List.append_ne_nil_of_left_ne_nil hfront.1 _) ?_ ?_
  · rw [List.head_append_of_ne_nil hfront.1]
    exact isBlank_of_visible (hfront.2 _ (List.head_mem _))
  · rw [List.getLast_append_of_ne_nil _ (List.append_ne_nil_of_right_ne_nil between hback.1),
      List.getLast_append_of_ne_nil _ hback.1]
    exact isBlank_of_visible (hback.2 _ (List.getLast_mem _))

end Inked

end Anywhere.Text
