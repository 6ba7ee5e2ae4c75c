import Anywhere.Number.Decimal
import Anywhere.Proofs.CharacterSets

/-!
# Written numbers

Numbers are written with the digits that they need and zeros in front of these where a width is
asked for, and decimals with a point among the digits. Reading takes the digits one by one, so what
is read is the number that the digits denote, however they are divided: zeros in front do not count,
and a point between two of them only says how many places there are.

From this it follows that a decimal is read as it was written, but for the sign of a zero.
-/

namespace Anywhere.Number

/-! ## Digits -/

/-- All characters are digits. -/
def AllDigits (text : List Char) : Prop := ∀ c ∈ text, c.isDigit = true

theorem allDigits_digits (n : Nat) : AllDigits (digits n) := fun _ h => isDigit_of_mem_digits h

theorem AllDigits.padZeros {text : List Char} (h : AllDigits text) (width : Nat) :
    AllDigits (padZeros width text) := by
  intro c hc
  rcases List.mem_append.mp hc with hzero | htext
  · rw [List.eq_of_mem_replicate hzero]
    decide
  · exact h c htext

theorem ofDigitChars_zeros (count : Nat) :
    Nat.ofDigitChars 10 (List.replicate count '0') 0 = 0 := by
  induction count with
  | zero => rfl
  | succ count ih => exact ih

/-- Zeros in front do not count. -/
theorem ofDigits_padZeros (width n : Nat) : ofDigits (padZeros width (digits n)) = n := by
  rw [ofDigits, padZeros, Nat.ofDigitChars_append, ofDigitChars_zeros]
  exact ofDigits_digits n

theorem length_padZeros (width : Nat) (text : List Char) :
    (padZeros width text).length = max width text.length := by
  rw [padZeros, List.length_append, List.length_replicate]
  omega

theorem length_digits_le {n width : Nat} (hwidth : 0 < width) (h : n < tenTo width) :
    (digits n).length ≤ width :=
  (Nat.length_toDigits_le_iff (by decide) hwidth).mpr h

/-- A number that fits its width has exactly that many digits. -/
theorem length_padZeros_digits {n width : Nat} (hwidth : 0 < width) (h : n < tenTo width) :
    (padZeros width (digits n)).length = width := by
  have hlength := length_digits_le hwidth h
  rw [length_padZeros]
  omega

theorem padZeros_digits_ne_nil (width n : Nat) : padZeros width (digits n) ≠ [] :=
  List.append_ne_nil_of_right_ne_nil _ (digits_ne_nil n)

/-- More digits make a number no smaller. -/
theorem le_ofDigitChars (text : List Char) (n : Nat) : n ≤ Nat.ofDigitChars 10 text n := by
  induction text generalizing n with
  | nil => exact Nat.le_refl n
  | cons c text ih =>
    rw [Nat.ofDigitChars_cons]
    have hrest := ih (10 * n + (c.toNat - '0'.toNat))
    omega

theorem isDigit_iff_toNat {c : Char} : c.isDigit = true ↔ 48 ≤ c.toNat ∧ c.toNat ≤ 57 := by
  simp only [Char.isDigit, Bool.and_eq_true, decide_eq_true_eq, ge_iff_le, UInt32.le_iff_toNat_le]
  exact Iff.rfl

theorem visible_of_isDigit {c : Char} (h : c.isDigit = true) : Text.Visible c := by
  obtain ⟨hlow, hhigh⟩ := isDigit_iff_toNat.mp h
  exact ⟨by omega, by omega⟩

theorem allDigits_padZeros_digits (width n : Nat) : AllDigits (padZeros width (digits n)) :=
  (allDigits_digits n).padZeros width

theorem inked_padZeros_digits (width n : Nat) : Text.Inked (padZeros width (digits n)) :=
  ⟨padZeros_digits_ne_nil width n, fun c hc =>
    visible_of_isDigit (allDigits_padZeros_digits width n c hc)⟩

namespace Decimal

/-! ## Reading decimals -/

section Reading

variable {negative point seen : Bool} {mantissa scale : Nat}

/-- A digit is appended to the mantissa as long as there is room for it and for another one. -/
theorem readFrom_digit {c : Char} (hc : c.isDigit = true)
    (hfits : 10 * mantissa + (c.toNat - '0'.toNat) < mantissaBound)
    (hroom : point = true → scale + 1 < maxScale) (rest : List Char) :
    readFrom negative mantissa scale point seen (c :: rest) =
      readFrom negative (10 * mantissa + (c.toNat - '0'.toNat)) (if point then scale + 1 else 0)
        point true rest := by
  have hmore : (point && decide (maxScale ≤ scale + 1)) = false := by
    cases point with
    | false => rfl
    | true => exact decide_eq_false (by have := hroom rfl; omega)
  rw [readFrom, if_pos hc, Nat.mul_comm mantissa 10]
  dsimp only
  rw [if_neg (by omega), hmore, if_neg Bool.false_ne_true]

theorem readFrom_point (rest : List Char) :
    readFrom negative mantissa scale false seen ('.' :: rest) =
      readFrom negative mantissa scale true seen rest := by
  rw [readFrom, if_neg (by decide), if_pos (by decide)]

/-- The last decimal place is taken as well. -/
theorem readFrom_lastDigit {c : Char} (hc : c.isDigit = true)
    (hfits : 10 * mantissa + (c.toNat - '0'.toNat) < mantissaBound)
    (hlast : scale + 1 = maxScale) :
    readFrom negative mantissa scale true seen [c] =
      ofRead? negative (10 * mantissa + (c.toNat - '0'.toNat)) maxScale := by
  have hfull : (true && decide (maxScale ≤ scale + 1)) = true := decide_eq_true hlast.ge
  rw [readFrom, if_pos hc, Nat.mul_comm mantissa 10]
  dsimp only
  rw [if_neg (by omega), hfull, if_pos rfl, hlast]
  rfl

/-- The digits in front of the point. -/
theorem readFrom_whole {text : List Char} (hdigits : AllDigits text)
    (hfits : Nat.ofDigitChars 10 text mantissa < mantissaBound) (rest : List Char) :
    readFrom negative mantissa 0 false seen (text ++ rest) =
      readFrom negative (Nat.ofDigitChars 10 text mantissa) 0 false (seen || !text.isEmpty)
        rest := by
  induction text generalizing mantissa seen with
  | nil => rw [List.nil_append, List.isEmpty_nil, Bool.not_true, Bool.or_false]; rfl
  | cons c text ih =>
    rw [Nat.ofDigitChars_cons] at hfits ⊢
    have hc := hdigits c List.mem_cons_self
    have hstep := (le_ofDigitChars text _).trans_lt hfits
    have hpoint : false = true → 0 + 1 < maxScale := fun h => absurd h Bool.false_ne_true
    rw [List.cons_append, readFrom_digit hc hstep hpoint, if_neg Bool.false_ne_true,
      ih (fun d hd => hdigits d (List.mem_cons_of_mem c hd)) hfits]
    simp

/-- The digits behind the point. -/
theorem readFrom_places {text : List Char} (hdigits : AllDigits text)
    (hfits : Nat.ofDigitChars 10 text mantissa < mantissaBound)
    (hplaces : scale + text.length ≤ maxScale) :
    readFrom negative mantissa scale true true text =
      ofRead? negative (Nat.ofDigitChars 10 text mantissa) (scale + text.length) := by
  induction text generalizing mantissa scale with
  | nil => rfl
  | cons c text ih =>
    rw [Nat.ofDigitChars_cons] at hfits ⊢
    have hc := hdigits c List.mem_cons_self
    have hstep := (le_ofDigitChars text _).trans_lt hfits
    rw [List.length_cons] at hplaces ⊢
    -- the last place there is room for is read by a branch of its own
    by_cases hroom : scale + 1 < maxScale
    · have hrest : (if true then scale + 1 else 0) + text.length ≤ maxScale := by
        rw [if_pos rfl]
        omega
      rw [readFrom_digit hc hstep fun _ => hroom,
        ih (fun d hd => hdigits d (List.mem_cons_of_mem c hd)) hfits hrest]
      congr 1
      simp only [if_true]
      omega
    · have hnil : text = [] := List.length_eq_zero_iff.mp (by omega)
      subst hnil
      rw [readFrom_lastDigit hc hstep (by simp at hplaces; omega)]
      congr 1
      simp at hplaces ⊢
      omega

end Reading

/-! ## Written decimals -/

/-- The decimal without the sign of a zero. -/
def withoutSignedZero (d : Decimal) : Decimal :=
  { d with negative := d.negative && d.mantissa != 0 }

/-- It is the same number with the same places. -/
theorem same_withoutSignedZero (d : Decimal) : d.same d.withoutSignedZero = true := by
  have hsigned : d.withoutSignedZero.signedMantissa = d.signedMantissa := by
    unfold signedMantissa withoutSignedZero
    by_cases hzero : d.mantissa = 0
    · simp [hzero]
    · simp [hzero]
  rw [same, hsigned]
  exact beq_self_eq_true _

theorem ofRead?_eq (d : Decimal) :
    ofRead? d.negative d.mantissa d.scale = some d.withoutSignedZero :=
  dif_pos ⟨d.mantissa_lt, d.scale_le⟩

/-- Digits, and a point in front of the last of them if there are places. -/
theorem fixedPoint_eq (coefficient places : Nat) :
    ∃ whole fraction, AllDigits whole ∧ AllDigits fraction ∧ whole ≠ [] ∧
      fraction.length = places ∧ ofDigits (whole ++ fraction) = coefficient ∧
      fixedPoint coefficient places = whole ++ (if places = 0 then [] else '.' :: fraction) := by
  unfold fixedPoint
  split
  · next hplaces =>
    refine ⟨digits coefficient, [], allDigits_digits _, nofun, digits_ne_nil _, hplaces.symm, ?_,
      (List.append_nil _).symm⟩
    rw [List.append_nil, ofDigits_digits]
  · set padded := padZeros (places + 1) (digits coefficient) with hpadded
    have hdigits : AllDigits padded := (allDigits_digits coefficient).padZeros _
    have hlength : places + 1 ≤ padded.length := by
      rw [hpadded, length_padZeros]
      exact Nat.le_max_left ..
    refine ⟨padded.take (padded.length - places), padded.drop (padded.length - places),
      fun c hc => hdigits c (List.mem_of_mem_take hc),
      fun c hc => hdigits c (List.mem_of_mem_drop hc), ?_, ?_, ?_, rfl⟩
    · apply List.ne_nil_of_length_pos
      rw [List.length_take]
      omega
    · rw [List.length_drop]
      omega
    · rw [List.take_append_drop, hpadded, ofDigits_padZeros]

/-- The text of the absolute value is read with the given sign. -/
theorem readFrom_fixedPoint (d : Decimal) :
    readFrom d.negative 0 0 false false (fixedPoint d.mantissa d.scale) =
      some d.withoutSignedZero := by
  obtain ⟨whole, fraction, hwhole, hfraction, hne, hplaces, hvalue, htext⟩ :=
    fixedPoint_eq d.mantissa d.scale
  rw [ofDigits, Nat.ofDigitChars_append] at hvalue
  have hfits : Nat.ofDigitChars 10 fraction (Nat.ofDigitChars 10 whole 0) < mantissaBound := by
    rw [hvalue]
    exact d.mantissa_lt
  have hseen : (false || !whole.isEmpty) = true := by simp [hne]
  rw [htext, readFrom_whole hwhole ((le_ofDigitChars fraction _).trans_lt hfits), hseen]
  split
  · next hscale =>
    rw [hscale] at hplaces
    rw [List.length_eq_zero_iff.mp hplaces] at hvalue
    rw [← ofRead?_eq, hscale, ← hvalue]
    rfl
  · have hroom : 0 + fraction.length ≤ maxScale := by
      rw [hplaces, Nat.zero_add]
      exact d.scale_le
    rw [readFrom_point, readFrom_places hfraction hfits hroom, hvalue, hplaces, Nat.zero_add,
      ofRead?_eq]

theorem ofPositional?_digit {c : Char} (h : c.isDigit = true) (rest : List Char) :
    ofPositional? (c :: rest) = readFrom false 0 0 false false (c :: rest) := by
  unfold ofPositional?
  split
  · next hminus =>
    cases hminus
    exact absurd h (by decide)
  · next hplus =>
    cases hplus
    exact absurd h (by decide)
  · rfl

/-- **A decimal is read as it was written,** but for the sign of a zero. -/
theorem ofText?_text (d : Decimal) : ofText? d.text = some d.withoutSignedZero := by
  have hread := readFrom_fixedPoint d
  have hpositional : ofPositional? d.text = some d.withoutSignedZero := by
    rw [text, signed]
    cases hsign : d.negative with
    | true =>
      rw [hsign] at hread
      exact hread
    | false =>
      rw [hsign] at hread
      obtain ⟨whole, _, hwhole, _, hne, _, _, htext⟩ := fixedPoint_eq d.mantissa d.scale
      obtain ⟨c, rest, rfl⟩ := List.exists_cons_of_ne_nil hne
      rw [if_neg Bool.false_ne_true, ← hread, htext, List.cons_append]
      exact ofPositional?_digit (hwhole c List.mem_cons_self) _
  rw [ofText?, hpositional]
  rfl

theorem text_inked (d : Decimal) : Text.Inked d.text := by
  obtain ⟨whole, fraction, hwhole, hfraction, hne, _, _, htext⟩ := fixedPoint_eq d.mantissa d.scale
  have hpoint : Text.Visible '.' := by decide
  have hfixed : Text.Inked (fixedPoint d.mantissa d.scale) := by
    rw [htext]
    refine Text.Inked.append ⟨hne, fun c hc => visible_of_isDigit (hwhole c hc)⟩ fun c hc => ?_
    split at hc
    · exact nomatch hc
    · rcases List.mem_cons.mp hc with rfl | hc
      · exact hpoint
      · exact visible_of_isDigit (hfraction c hc)
  rw [text, signed]
  split
  · exact hfixed.cons (by decide)
  · exact hfixed

end Decimal

end Anywhere.Number
