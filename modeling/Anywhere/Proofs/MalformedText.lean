import Anywhere.Proofs.CharacterSets
import Mathlib.Data.List.Forall2

/-!
# Bytes that are no text

Every text has bytes, but not all bytes are those of a text. In Latin-1 it is the other way round:
all bytes are, and some characters have none. What is lost on the way there and back is said here
for both encodings in both directions (`Encoding.inverses`).

Well-formed UTF-8 is given by the table of the Unicode standard, which lists the bounds on the bytes
of a sequence row by row, and by nothing that decoding does. `Repairs` says what becomes of all
other bytes: where no sequence begins, the longest part that could still have become one is
replaced, or a single byte if none could.

The table has a row for each first byte that a sequence can have, and no byte has two. So decoding
is compared with the table one first byte at a time, and then all is about how far the bytes behind
it stay between their bounds (`held`).
-/

namespace Anywhere.Text

namespace Utf8

/-! ## The table -/

/-- The bounds on the bytes of the sequences, one row for each range of first bytes. -/
def rows : List (List (UInt8 × UInt8)) := [
  [(0x00, 0x7F)],
  [(0xC2, 0xDF), (0x80, 0xBF)],
  [(0xE0, 0xE0), (0xA0, 0xBF), (0x80, 0xBF)],
  [(0xE1, 0xEC), (0x80, 0xBF), (0x80, 0xBF)],
  [(0xED, 0xED), (0x80, 0x9F), (0x80, 0xBF)],
  [(0xEE, 0xEF), (0x80, 0xBF), (0x80, 0xBF)],
  [(0xF0, 0xF0), (0x90, 0xBF), (0x80, 0xBF), (0x80, 0xBF)],
  [(0xF1, 0xF3), (0x80, 0xBF), (0x80, 0xBF), (0x80, 0xBF)],
  [(0xF4, 0xF4), (0x80, 0x8F), (0x80, 0xBF), (0x80, 0xBF)]]

/-- The bytes lie one by one between the bounds. -/
def Fits (bounds : List (UInt8 × UInt8)) (bytes : List UInt8) : Prop :=
  List.Forall₂ (fun bound b => within bound.1 bound.2 b = true) bounds bytes

/-- The bytes fit a row of the table. -/
def IsSequence (bytes : List UInt8) : Prop := ∃ row ∈ rows, Fits row bytes

/-- Sequences, one behind the other. -/
inductive WellFormed : List UInt8 → Prop
  | nil : WellFormed []
  | append {sequence rest : List UInt8} :
      IsSequence sequence → WellFormed rest → WellFormed (sequence ++ rest)

/-! ## What is replaced -/

/-- The bytes can go on to be a sequence. -/
def Opens (part : List UInt8) : Prop := ∃ more, IsSequence (part ++ more)

/-- No sequence is in front of the bytes, and `part` is as much of them as is no part of a text. -/
structure Broken (part rest : List UInt8) : Prop where
  unfinished : ∀ sequence, IsSequence sequence → ¬ sequence <+: part ++ rest
  nonempty : part ≠ []
  opens : Opens part ∨ part.length = 1
  /-- Nothing longer can go on to be a sequence. -/
  longest : ∀ longer, longer <+: part ++ rest → Opens longer → longer.length ≤ part.length

/-- The text in which characters stand for their sequences, and a replacement for every part that
is broken. -/
inductive Repairs : List UInt8 → List Char → Prop
  | nil : Repairs [] []
  | char (c : Char) {rest : List UInt8} {text : List Char} :
      Repairs rest text → Repairs (String.utf8EncodeChar c ++ rest) (c :: text)
  | replaced {part rest : List UInt8} {text : List Char} :
      Broken part rest → Repairs rest text → Repairs (part ++ rest) (replacement :: text)

/-! ## Rows and first bytes -/

/-- The bounds on the bytes that a first byte announces, if a sequence can begin with it. -/
def Lead.bounds : Lead → Option (List (UInt8 × UInt8))
  | .single => some []
  | .two => some [(0x80, 0xBF)]
  | .three low high => some [(low, high), (0x80, 0xBF)]
  | .four low high => some [(low, high), (0x80, 0xBF), (0x80, 0xBF)]
  | .invalid => none

/-- The rows of a first byte are those in which it lies between the first bounds. -/
theorem bounds_ofByte_eq_some_iff {b : UInt8} {bounds : List (UInt8 × UInt8)} :
    (Lead.ofByte b).bounds = some bounds ↔
      ∃ bound, bound :: bounds ∈ rows ∧ within bound.1 bound.2 b = true := by
  have hrow : ∀ n < 256, ∀ row ∈ rows,
      (row.head?.any fun bound => within bound.1 bound.2 (UInt8.ofNat n)) = true →
        (Lead.ofByte (UInt8.ofNat n)).bounds = some row.tail := by
    decide +kernel
  have hbounds : ∀ n < 256, ∀ bounds ∈ (Lead.ofByte (UInt8.ofNat n)).bounds, ∃ row ∈ rows,
      row.tail = bounds ∧
        (row.head?.any fun bound => within bound.1 bound.2 (UInt8.ofNat n)) = true := by
    decide +kernel
  rw [← UInt8.ofNat_toNat (x := b)]
  constructor
  · intro h
    obtain ⟨row, hmem, rfl, hfirst⟩ := hbounds b.toNat b.toNat_lt bounds h
    cases row with
    | nil => cases hfirst
    | cons bound bounds => exact ⟨bound, hmem, hfirst⟩
  · rintro ⟨bound, hmem, hfirst⟩
    exact hrow b.toNat b.toNat_lt _ hmem hfirst

/-- A first byte says between which bounds the others lie. -/
theorem isSequence_cons_iff {b : UInt8} {rest : List UInt8} :
    IsSequence (b :: rest) ↔ ∃ bounds, (Lead.ofByte b).bounds = some bounds ∧ Fits bounds rest := by
  simp only [bounds_ofByte_eq_some_iff]
  constructor
  · rintro ⟨row, hmem, hfits⟩
    cases hfits with
    | cons hfirst hrest => exact ⟨_, ⟨_, hmem, hfirst⟩, hrest⟩
  · rintro ⟨bounds, ⟨bound, hmem, hfirst⟩, hrest⟩
    exact ⟨bound :: bounds, hmem, .cons hfirst hrest⟩

theorem not_isSequence_nil : ¬ IsSequence [] := by
  rintro ⟨row, hmem, hfits⟩
  cases hfits
  exact absurd hmem (by decide)

/-! ## Characters and sequences -/

/-- **A character is encoded as a sequence.** -/
theorem isSequence_utf8EncodeChar (c : Char) : IsSequence (String.utf8EncodeChar c) := by
  have hvalid : c.toNat < 0xD800 ∨ 0xDFFF < c.toNat ∧ c.toNat < 0x110000 := c.valid
  have hval : c.val.toNat = c.toNat := rfl
  have hnext (bits : Nat) : within 0x80 0xBF (continuation bits) = true :=
    isContinuation_continuation bits
  unfold String.utf8EncodeChar
  rw [hval]
  dsimp only
  split_ifs with hsingle htwo hthree <;> rw [isSequence_cons_iff]
  · rw [Lead.ofByte_single (by rw [toNat_byte (by omega)]; omega)]
    exact ⟨_, rfl, .nil⟩
  · rw [Lead.ofByte_two (by rw [toNat_byte (by omega)]; omega)
      (by rw [toNat_byte (by omega)]; omega)]
    exact ⟨_, rfl, .cons (hnext _) .nil⟩
  · -- the bounds behind E0 and ED are those of the code points
    have hlead : (UInt8.ofNat (c.toNat / 4096 % 16 + 224)).toNat = c.toNat / 4096 % 16 + 224 :=
      toNat_byte (by omega)
    rw [Lead.ofByte_three (by omega) (by omega)]
    refine ⟨_, rfl, .cons ?_ (.cons (hnext _) .nil)⟩
    rw [within_iff, ← continuation, toNat_continuation, hlead]
    split_ifs <;> simp only [UInt8.reduceToNat] <;> omega
  · have hlead : (UInt8.ofNat (c.toNat / 262144 % 8 + 240)).toNat = c.toNat / 262144 % 8 + 240 :=
      toNat_byte (by omega)
    rw [Lead.ofByte_four (by omega) (by omega)]
    refine ⟨_, rfl, .cons ?_ (.cons (hnext _) (.cons (hnext _) .nil))⟩
    rw [within_iff, ← continuation, toNat_continuation, hlead]
    split_ifs <;> simp only [UInt8.reduceToNat] <;> omega

theorem exists_char (code : Nat) (h : code < 0xD800 ∨ 0xDFFF < code ∧ code < 0x110000) :
    ∃ c : Char, c.val.toNat = code :=
  ⟨Char.ofNatAux code h, rfl⟩

theorem ofNat_eq_byte {n : Nat} {b : UInt8} (h : n = b.toNat) : UInt8.ofNat n = b := by
  rw [h, UInt8.ofNat_toNat]

section Codes

variable {b b₁ b₂ b₃ : UInt8}

theorem exists_encode_single (hb : b.toNat ≤ 0x7F) : ∃ c, String.utf8EncodeChar c = [b] := by
  obtain ⟨c, hc⟩ := exists_char b.toNat (by omega)
  refine ⟨c, ?_⟩
  simp only [String.utf8EncodeChar, hc]
  rw [if_pos hb, ofNat_eq_byte rfl]

theorem exists_encode_two (hb : 0xC2 ≤ b.toNat ∧ b.toNat ≤ 0xDF)
    (h₁ : 0x80 ≤ b₁.toNat ∧ b₁.toNat ≤ 0xBF) : ∃ c, String.utf8EncodeChar c = [b, b₁] := by
  obtain ⟨c, hc⟩ := exists_char (b.toNat % 32 * 64 + b₁.toNat % 64) (by omega)
  refine ⟨c, ?_⟩
  simp only [String.utf8EncodeChar, hc]
  rw [if_neg (by omega), if_pos (by omega), ofNat_eq_byte (b := b) (by omega),
    ofNat_eq_byte (b := b₁) (by omega)]

/-- The byte behind E0 makes the code point large enough, and the one behind ED keeps it in front of
the surrogates. -/
theorem exists_encode_three (hb : 0xE0 ≤ b.toNat ∧ b.toNat ≤ 0xEF)
    (h₁ : 0x80 ≤ b₁.toNat ∧ b₁.toNat ≤ 0xBF) (h₂ : 0x80 ≤ b₂.toNat ∧ b₂.toNat ≤ 0xBF)
    (hlow : b.toNat = 0xE0 → 0xA0 ≤ b₁.toNat) (hhigh : b.toNat = 0xED → b₁.toNat ≤ 0x9F) :
    ∃ c, String.utf8EncodeChar c = [b, b₁, b₂] := by
  obtain ⟨c, hc⟩ := exists_char
    ((b.toNat % 16 * 64 + b₁.toNat % 64) * 64 + b₂.toNat % 64) (by omega)
  refine ⟨c, ?_⟩
  simp only [String.utf8EncodeChar, hc]
  rw [if_neg (by omega), if_neg (by omega), if_pos (by omega), ofNat_eq_byte (b := b) (by omega),
    ofNat_eq_byte (b := b₁) (by omega), ofNat_eq_byte (b := b₂) (by omega)]

/-- The bytes behind F0 and F4 keep the code point between the bounds of the last planes. -/
theorem exists_encode_four (hb : 0xF0 ≤ b.toNat ∧ b.toNat ≤ 0xF4)
    (h₁ : 0x80 ≤ b₁.toNat ∧ b₁.toNat ≤ 0xBF) (h₂ : 0x80 ≤ b₂.toNat ∧ b₂.toNat ≤ 0xBF)
    (h₃ : 0x80 ≤ b₃.toNat ∧ b₃.toNat ≤ 0xBF) (hlow : b.toNat = 0xF0 → 0x90 ≤ b₁.toNat)
    (hhigh : b.toNat = 0xF4 → b₁.toNat ≤ 0x8F) :
    ∃ c, String.utf8EncodeChar c = [b, b₁, b₂, b₃] := by
  obtain ⟨c, hc⟩ := exists_char
    (((b.toNat % 8 * 64 + b₁.toNat % 64) * 64 + b₂.toNat % 64) * 64 + b₃.toNat % 64)
    (by omega)
  refine ⟨c, ?_⟩
  simp only [String.utf8EncodeChar, hc]
  rw [if_neg (by omega), if_neg (by omega), if_neg (by omega), ofNat_eq_byte (b := b) (by omega),
    ofNat_eq_byte (b := b₁) (by omega), ofNat_eq_byte (b := b₂) (by omega),
    ofNat_eq_byte (b := b₃) (by omega)]

end Codes

/-- **A sequence is the encoding of a character.** -/
theorem exists_encode_of_isSequence {bytes : List UInt8} (h : IsSequence bytes) :
    ∃ c, String.utf8EncodeChar c = bytes := by
  obtain ⟨row, hmem, hfits⟩ := h
  simp only [rows, List.mem_cons, List.not_mem_nil, or_false] at hmem
  rcases hmem with rfl | rfl | rfl | rfl | rfl | rfl | rfl | rfl | rfl <;>
    simp only [Fits, List.forall₂_cons_left_iff, List.forall₂_nil_left_iff, within_iff,
      UInt8.reduceToNat] at hfits
  · obtain ⟨b, _, hb, rfl, rfl⟩ := hfits
    exact exists_encode_single hb.2
  · obtain ⟨b, _, hb, ⟨b₁, _, h₁, rfl, rfl⟩, rfl⟩ := hfits
    exact exists_encode_two hb h₁
  · obtain ⟨b, _, hb, ⟨b₁, _, h₁, ⟨b₂, _, h₂, rfl, rfl⟩, rfl⟩, rfl⟩ := hfits
    exact exists_encode_three (by omega) (by omega) h₂ (by omega) (by omega)
  · obtain ⟨b, _, hb, ⟨b₁, _, h₁, ⟨b₂, _, h₂, rfl, rfl⟩, rfl⟩, rfl⟩ := hfits
    exact exists_encode_three (by omega) (by omega) h₂ (by omega) (by omega)
  · obtain ⟨b, _, hb, ⟨b₁, _, h₁, ⟨b₂, _, h₂, rfl, rfl⟩, rfl⟩, rfl⟩ := hfits
    exact exists_encode_three (by omega) (by omega) h₂ (by omega) (by omega)
  · obtain ⟨b, _, hb, ⟨b₁, _, h₁, ⟨b₂, _, h₂, rfl, rfl⟩, rfl⟩, rfl⟩ := hfits
    exact exists_encode_three (by omega) (by omega) h₂ (by omega) (by omega)
  · obtain ⟨b, _, hb, ⟨b₁, _, h₁, ⟨b₂, _, h₂, ⟨b₃, _, h₃, rfl, rfl⟩, rfl⟩, rfl⟩, rfl⟩ := hfits
    exact exists_encode_four (by omega) (by omega) h₂ h₃ (by omega) (by omega)
  · obtain ⟨b, _, hb, ⟨b₁, _, h₁, ⟨b₂, _, h₂, ⟨b₃, _, h₃, rfl, rfl⟩, rfl⟩, rfl⟩, rfl⟩ := hfits
    exact exists_encode_four (by omega) (by omega) h₂ h₃ (by omega) (by omega)
  · obtain ⟨b, _, hb, ⟨b₁, _, h₁, ⟨b₂, _, h₂, ⟨b₃, _, h₃, rfl, rfl⟩, rfl⟩, rfl⟩, rfl⟩ := hfits
    exact exists_encode_four (by omega) (by omega) h₂ h₃ (by omega) (by omega)

/-! ## How far the bytes hold out -/

/-- The longest front of the bytes that lies between the bounds. -/
def held : List (UInt8 × UInt8) → List UInt8 → List UInt8
  | (low, high) :: bounds, b :: rest => if within low high b then b :: held bounds rest else []
  | _, _ => []

theorem held_isPrefixOf (bounds : List (UInt8 × UInt8)) (bytes : List UInt8) :
    held bounds bytes <+: bytes := by
  fun_induction held bounds bytes with
  | case1 low high bounds b rest hb ih => exact List.cons_prefix_cons.mpr ⟨rfl, ih⟩
  | case2 => exact List.nil_prefix
  | case3 => exact List.nil_prefix

theorem held_append_drop (bounds : List (UInt8 × UInt8)) (bytes : List UInt8) :
    held bounds bytes ++ bytes.drop (held bounds bytes).length = bytes :=
  List.prefix_iff_eq_append.mp (held_isPrefixOf bounds bytes)

theorem length_held_le (bounds : List (UInt8 × UInt8)) (bytes : List UInt8) :
    (held bounds bytes).length ≤ bounds.length := by
  fun_induction held bounds bytes with
  | case1 low high bounds b rest hb ih => exact Nat.succ_le_succ ih
  | case2 => exact Nat.zero_le _
  | case3 => exact Nat.zero_le _

/-- What holds out to the last bound fits. -/
theorem fits_held {bounds : List (UInt8 × UInt8)} {bytes : List UInt8}
    (h : (held bounds bytes).length = bounds.length) : Fits bounds (held bounds bytes) := by
  fun_induction held bounds bytes with
  | case1 low high bounds b rest hb ih =>
    rw [List.length_cons, List.length_cons, Nat.add_right_cancel_iff] at h
    exact .cons hb (ih h)
  | case2 => cases h
  | case3 bounds bytes =>
    rw [List.length_nil, eq_comm, List.length_eq_zero_iff] at h
    rw [h]
    exact .nil

/-- Nothing else in front of the bytes lies between the bounds for longer. -/
theorem length_le_length_held {bounds : List (UInt8 × UInt8)} {bytes front more : List UInt8}
    (hfits : Fits bounds (front ++ more)) (hfront : front <+: bytes) :
    front.length ≤ (held bounds bytes).length := by
  induction front generalizing bounds bytes with
  | nil => exact Nat.zero_le _
  | cons b front ih =>
    obtain ⟨rest, rfl⟩ := hfront
    cases hfits with
    | cons hb hrest =>
      rw [List.cons_append, held, if_pos hb, List.length_cons, List.length_cons]
      exact Nat.succ_le_succ (ih hrest (List.prefix_append front rest))

/-- What holds out can be brought to fit, as every bound can be kept. -/
theorem exists_fits_held_append {bounds : List (UInt8 × UInt8)}
    (hbounds : ∀ bound ∈ bounds, within bound.1 bound.2 bound.1 = true) (bytes : List UInt8) :
    ∃ more, Fits bounds (held bounds bytes ++ more) := by
  have hlowest : ∀ bounds : List (UInt8 × UInt8),
      (∀ bound ∈ bounds, within bound.1 bound.2 bound.1 = true) →
        Fits bounds (bounds.map Prod.fst) := by
    intro bounds h
    exact List.forall₂_map_right_iff.mpr (List.forall₂_same.mpr h)
  fun_induction held bounds bytes with
  | case1 low high bounds b rest hb ih =>
    obtain ⟨more, hmore⟩ := ih fun bound hbound => hbounds bound (List.mem_cons_of_mem _ hbound)
    exact ⟨more, .cons hb hmore⟩
  | case2 low high bounds b rest hb => exact ⟨_, hlowest _ hbounds⟩
  | case3 bounds bytes => exact ⟨_, hlowest _ hbounds⟩

/-- The bounds of a row can be kept. -/
theorem keepable_bounds {b : UInt8} {bounds : List (UInt8 × UInt8)}
    (h : (Lead.ofByte b).bounds = some bounds) :
    ∀ bound ∈ bounds, within bound.1 bound.2 bound.1 = true := by
  have hrows : rows.all (·.all fun bound => within bound.1 bound.2 bound.1) = true := by decide
  simp only [List.all_eq_true] at hrows
  obtain ⟨first, hmem, -⟩ := bounds_ofByte_eq_some_iff.mp h
  exact fun bound hbound => hrows _ hmem bound (List.mem_cons_of_mem first hbound)

/-! ## What decoding does at a first byte -/

/-- The bytes behind a first byte that go on with the sequence that it announces. -/
def heldBehind (b : UInt8) (rest : List UInt8) : List UInt8 :=
  (Lead.ofByte b).bounds.elim [] fun bounds => held bounds rest

/-- Where a sequence breaks off, what holds out of it is replaced and decoding goes on behind it. -/
theorem decode_broken {b : UInt8} {rest : List UInt8}
    (h : ∀ bounds, (Lead.ofByte b).bounds = some bounds →
      (held bounds rest).length ≠ bounds.length) :
    decode (b :: rest) = replacement :: decode (rest.drop (heldBehind b rest).length) := by
  unfold heldBehind
  rw [decode.eq_def]
  -- the bytes are tried in order, and the first that is out of its bounds ends what holds out
  cases hlead : Lead.ofByte b with
  | single => exact absurd rfl (h [] (by rw [hlead]; rfl))
  | invalid => simp [hlead, Lead.bounds]
  | two =>
    replace h := h _ (by rw [hlead]; rfl)
    rcases rest with _ | ⟨b₁, rest⟩
    · simp [hlead, Lead.bounds, held]
    · by_cases h₁ : within 0x80 0xBF b₁ = true <;>
        simp_all [Lead.bounds, held, isContinuation]
  | three low high =>
    replace h := h _ (by rw [hlead]; rfl)
    rcases rest with _ | ⟨b₁, _ | ⟨b₂, rest⟩⟩
    · simp [hlead, Lead.bounds, held]
    · by_cases h₁ : within low high b₁ = true <;> simp_all [Lead.bounds, held]
    · by_cases h₁ : within low high b₁ = true <;> by_cases h₂ : within 0x80 0xBF b₂ = true <;>
        simp_all [Lead.bounds, held, isContinuation]
  | four low high =>
    replace h := h _ (by rw [hlead]; rfl)
    rcases rest with _ | ⟨b₁, _ | ⟨b₂, _ | ⟨b₃, rest⟩⟩⟩
    · simp [hlead, Lead.bounds, held]
    · by_cases h₁ : within low high b₁ = true <;> simp_all [Lead.bounds, held]
    · by_cases h₁ : within low high b₁ = true <;> by_cases h₂ : within 0x80 0xBF b₂ = true <;>
        simp_all [Lead.bounds, held, isContinuation]
    · by_cases h₁ : within low high b₁ = true <;> by_cases h₂ : within 0x80 0xBF b₂ = true <;>
        by_cases h₃ : within 0x80 0xBF b₃ = true <;>
        simp_all [Lead.bounds, held, isContinuation]

theorem heldBehind_append_drop (b : UInt8) (rest : List UInt8) :
    heldBehind b rest ++ rest.drop (heldBehind b rest).length = rest := by
  unfold heldBehind
  cases (Lead.ofByte b).bounds with
  | none => rfl
  | some bounds => exact held_append_drop bounds rest

/-- A part in front of the bytes that can go on to be a sequence holds out. -/
theorem length_le_of_opens {b : UInt8} {part rest : List UInt8} (hopens : Opens part)
    (hpart : part <+: b :: rest) : part.length ≤ (heldBehind b rest).length + 1 := by
  cases part with
  | nil => exact Nat.zero_le _
  | cons c part =>
    obtain ⟨rfl, hfront⟩ := List.cons_prefix_cons.mp hpart
    obtain ⟨more, hsequence⟩ := hopens
    obtain ⟨bounds, hbounds, hfits⟩ := isSequence_cons_iff.mp hsequence
    rw [heldBehind, hbounds, List.length_cons]
    exact Nat.succ_le_succ (length_le_length_held hfits hfront)

/-- What holds out of a sequence that breaks off is what is broken. -/
theorem Broken.ofBreaks {b : UInt8} {rest : List UInt8}
    (h : ∀ bounds, (Lead.ofByte b).bounds = some bounds →
      (held bounds rest).length ≠ bounds.length) :
    Broken (b :: heldBehind b rest) (rest.drop (heldBehind b rest).length) where
  unfinished := by
    intro sequence hsequence hfront
    rw [List.cons_append, heldBehind_append_drop] at hfront
    cases sequence with
    | nil => exact not_isSequence_nil hsequence
    | cons c front =>
      obtain ⟨rfl, hbehind⟩ := List.cons_prefix_cons.mp hfront
      obtain ⟨bounds, hbounds, hfits⟩ := isSequence_cons_iff.mp hsequence
      have hwhole : Fits bounds (front ++ []) := by rwa [List.append_nil]
      have hle := length_le_length_held hwhole hbehind
      have hlength : bounds.length = front.length := hfits.length_eq
      have hheld := length_held_le bounds rest
      exact h bounds hbounds (by omega)
  nonempty := List.cons_ne_nil _ _
  opens := by
    cases hbounds : (Lead.ofByte b).bounds with
    | none =>
      refine .inr ?_
      rw [heldBehind, hbounds]
      rfl
    | some bounds =>
      obtain ⟨more, hmore⟩ := exists_fits_held_append (keepable_bounds hbounds) rest
      refine .inl ⟨more, isSequence_cons_iff.mpr ⟨bounds, hbounds, ?_⟩⟩
      rw [heldBehind, hbounds]
      exact hmore
  longest := by
    intro longer hlonger hopens
    rw [List.cons_append, heldBehind_append_drop] at hlonger
    exact length_le_of_opens hopens hlonger

/-- The bytes behind a first byte hold out to the end of its sequence, or they are broken. -/
theorem isSequence_or_broken (b : UInt8) (rest : List UInt8) :
    IsSequence (b :: heldBehind b rest) ∨
      Broken (b :: heldBehind b rest) (rest.drop (heldBehind b rest).length) ∧
        decode (b :: rest) = replacement :: decode (rest.drop (heldBehind b rest).length) := by
  by_cases hend : ∃ bounds, (Lead.ofByte b).bounds = some bounds ∧
    (held bounds rest).length = bounds.length
  · obtain ⟨bounds, hbounds, hlength⟩ := hend
    refine .inl (isSequence_cons_iff.mpr ⟨bounds, hbounds, ?_⟩)
    rw [heldBehind, hbounds]
    exact fits_held hlength
  · have hbreaks : ∀ bounds, (Lead.ofByte b).bounds = some bounds →
        (held bounds rest).length ≠ bounds.length :=
      fun bounds hbounds hlength => hend ⟨bounds, hbounds, hlength⟩
    exact .inr ⟨.ofBreaks hbreaks, decode_broken hbreaks⟩

/-- What is broken at the front of some bytes is one part of them. -/
theorem Broken.unique {part part' rest rest' : List UInt8} (h : Broken part rest)
    (h' : Broken part' rest') (heq : part ++ rest = part' ++ rest') :
    part = part' ∧ rest = rest' := by
  have hle {p p' r r' : List UInt8} (h : Broken p r) (h' : Broken p' r')
      (heq : p ++ r = p' ++ r') : p.length ≤ p'.length := by
    rcases h.opens with hopens | hone
    · exact h'.longest p (heq ▸ List.prefix_append p r) hopens
    · rw [hone]
      exact List.length_pos_iff.mpr h'.nonempty
  exact List.append_inj heq (Nat.le_antisymm (hle h h' heq) (hle h' h heq.symm))

theorem decode_append_of_broken {part rest : List UInt8} (h : Broken part rest) :
    decode (part ++ rest) = replacement :: decode rest := by
  obtain ⟨b, part, rfl⟩ := List.exists_cons_of_ne_nil h.nonempty
  rcases isSequence_or_broken b (part ++ rest) with hsequence | ⟨hbroken, hdecode⟩
  · refine absurd ?_ (h.unfinished _ hsequence)
    have hsplit := heldBehind_append_drop b (part ++ rest)
    exact List.cons_prefix_cons.mpr ⟨rfl, ⟨_, hsplit⟩⟩
  · have hsplit := heldBehind_append_drop b (part ++ rest)
    have heq := (h.unique hbroken (by rw [List.cons_append, List.cons_append, hsplit])).2
    rw [List.cons_append, hdecode, ← heq]

/-- **Decoding repairs.** Characters are read from their sequences, and what is broken is replaced
part by part. -/
theorem repairs_iff {bytes : List UInt8} {text : List Char} :
    Repairs bytes text ↔ decode bytes = text := by
  constructor
  · intro h
    induction h with
    | nil => rfl
    | char c _ ih => rw [decode_utf8EncodeChar, ih]
    | replaced hbroken _ ih => rw [decode_append_of_broken hbroken, ih]
  · rintro rfl
    induction hlength : bytes.length using Nat.strongRecOn generalizing bytes with
    | ind n ih =>
      cases bytes with
      | nil => exact .nil
      | cons b rest =>
        have hsplit := heldBehind_append_drop b rest
        have hrest := ih (rest.drop (heldBehind b rest).length).length
          (by rw [← hlength, List.length_drop, List.length_cons]; omega) rfl
        rcases isSequence_or_broken b rest with hsequence | ⟨hbroken, hdecode⟩
        · obtain ⟨c, hc⟩ := exists_encode_of_isSequence hsequence
          have hchar := Repairs.char c hrest
          have hdecode := decode_utf8EncodeChar c (rest.drop (heldBehind b rest).length)
          rw [hc, List.cons_append, hsplit] at hchar hdecode
          rwa [hdecode]
        · have hreplaced := Repairs.replaced hbroken hrest
          rw [List.cons_append, hsplit] at hreplaced
          rwa [hdecode]

/-- Two bytes of three are one part, and those of a surrogate are three. -/
example : decode [0xE2, 0x82, 0x41, 0xED, 0xA0, 0x80] =
    [replacement, 'A', replacement, replacement, replacement] := by
  decide

/-- **Bytes survive decoding exactly if they are well-formed.** -/
theorem encode_decode_eq_self_iff {bytes : List UInt8} :
    encode (decode bytes) = bytes ↔ WellFormed bytes := by
  constructor
  · intro h
    rw [← h]
    induction decode bytes with
    | nil => exact .nil
    | cons c text ih =>
      rw [encode_cons]
      exact .append (isSequence_utf8EncodeChar c) ih
  · intro h
    induction h with
    | nil => rfl
    | append hsequence _ ih =>
      obtain ⟨c, rfl⟩ := exists_encode_of_isSequence hsequence
      rw [decode_utf8EncodeChar, encode_cons, ih]

end Utf8

/-! ## Both encodings -/

namespace Encoding

/-- The text that is left of a text in Latin-1. -/
theorem decode_encode_latin1 (text : String) :
    latin1.decode (latin1.encode text) =
      String.ofList (text.toList.map fun c => if c.toNat ≤ 0xFF then c else '?') := by
  rw [encode, decode, List.map_map]
  refine congrArg String.ofList (List.map_congr_left fun c _ => ?_)
  by_cases hc : c.toNat ≤ 0xFF
  · rw [if_pos hc]
    exact ofNat_toNat_latin1Byte hc
  · rw [if_neg hc, Function.comp_apply, latin1Byte, if_neg (by omega)]
    decide

theorem encode_decode_latin1 (bytes : List UInt8) :
    latin1.encode (latin1.decode bytes) = bytes := by
  have hbyte (b : UInt8) : latin1Byte (Char.ofNat b.toNat) = b := by
    have hlt := b.toNat_lt
    obtain ⟨c, hc⟩ := Utf8.exists_char b.toNat (by omega)
    have hchar : Char.ofNat b.toNat = c := by rw [← hc]; exact Char.ofNat_toNat c
    have hnat : c.toNat = b.toNat := hc
    rw [hchar, latin1Byte, hnat, if_pos hlt, UInt8.ofNat_toNat]
  rw [decode, encode_latin1, String.toList_ofList, List.map_map]
  exact (List.map_congr_left fun b _ => hbyte b).trans (List.map_id _)

/-- Only what Latin-1 has no byte for is lost. -/
theorem decode_encode_latin1_eq_self_iff (text : String) :
    latin1.decode (latin1.encode text) = text ↔ ∀ c ∈ text.toList, c.toNat ≤ 0xFF := by
  refine ⟨fun h c hc => ?_, fun h => decode_encode h⟩
  rw [← h, decode_encode_latin1, String.toList_ofList] at hc
  obtain ⟨d, -, rfl⟩ := List.mem_map.mp hc
  split
  · assumption
  · decide

/-- **Encoding and decoding are inverse to each other where they can be.** Latin-1 keeps all bytes
and loses the characters that it has no byte for; UTF-8 keeps all text and loses the bytes that are
not well-formed, which are replaced part by part. -/
theorem inverses (bytes : List UInt8) (text : String) :
    latin1.encode (latin1.decode bytes) = bytes ∧
    latin1.decode (latin1.encode text) =
      String.ofList (text.toList.map fun c => if c.toNat ≤ 0xFF then c else '?') ∧
    (latin1.decode (latin1.encode text) = text ↔ ∀ c ∈ text.toList, c.toNat ≤ 0xFF) ∧
    (latin1.encode text).length = text.length ∧
    utf8.decode (utf8.encode text) = text ∧
    (utf8.encode (utf8.decode bytes) = bytes ↔ Utf8.WellFormed bytes) ∧
    ∀ repaired, Utf8.Repairs bytes repaired ↔ utf8.decode bytes = String.ofList repaired := by
  refine ⟨encode_decode_latin1 bytes, decode_encode_latin1 text,
    decode_encode_latin1_eq_self_iff text, length_encode_latin1 text, ?_, ?_, fun repaired => ?_⟩
  · rw [encode, decode, Utf8.decode_encode, String.ofList_toList]
  · rw [encode, decode, String.toList_ofList]
    exact Utf8.encode_decode_eq_self_iff
  · rw [decode, Utf8.repairs_iff, String.ofList_inj]

end Encoding

end Anywhere.Text
