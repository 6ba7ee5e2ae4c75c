import Anywhere.Client.Conversion
import Anywhere.Proofs.CalendarText

/-!
# Values that survive a bind and a fetch

A value that is bound and fetched again passes two translations that know nothing of each other: on
the way out the value decides how it is written, and on the way in the type of the column decides
how it is read. `Value.Fits` says which columns belong to a value. `Value.toValue_toWire` says that
in those the translations agree, for every value and both encodings, as far as a value can be told
from its text.

Two things are lost on the way. One is the sign of a decimal zero, which is no part of the number.
The other is that of a leap second which does not end a minute: the clock shows it as the second
behind it, and that second comes back.
-/

namespace Anywhere

open Number Calendar Text

namespace Value

/-- The columns of a value's own family. A truth value is stored in flags, and other integers where
they are neither flags nor decimals; a text must be covered by the encoding. Null is at home in
every column. -/
def Fits (encoding : Encoding) (type : NativeType) : Value → Prop
  | null => True
  | bool _ => type = .tinyInt ∨ type = .bit
  | int _ => type ≠ .tinyInt ∧ type ≠ .bit ∧ type ≠ .decimal
  | float _ => type ≠ .decimal
  | decimal _ => type = .decimal
  | date _ => type = .date
  | time _ => type = .time
  | dateTime _ => type = .timestamp
  | text s => type.isCharacter = true ∧ encoding.Covers s
  | binary _ => type = .binary ∨ type = .longBinary

/-- The value that comes back: the same value, or a decimal that is the same number with the same
places. -/
def Survives : Value → Value → Prop
  | decimal d, v => ∃ d' : Decimal, v = .decimal d' ∧ d.same d' = true ∧ d'.scale = d.scale
  | v, v' => v' = v

/-- A leap second stands nowhere but at the end of a minute. -/
def LeapEndsMinute : Value → Prop
  | time t => t.LeapEndsMinute
  | dateTime t => t.time.LeapEndsMinute
  | _ => True

/-- The value for which a value is taken when its times are read from a clock. -/
def asRead : Value → Value
  | time t => time t.asRead
  | dateTime t => dateTime t.asRead
  | v => v

/-- What is bound for a value, as a cell. -/
def toCell (encoding : Encoding) (v : Value) : WireValue := (v.toWire encoding).getD .null

end Value

namespace WireValue

/-- A written date or time is read in either encoding, and nothing is cut off its ends before. -/
theorem toTemporal_text (encoding : Encoding) {text : List Char} {read : String → Option Value}
    {v : Value} (hascii : ∀ c ∈ text, c.toNat < 0x80) (hstrip : stripBlanks text = text)
    (hread : read (String.ofList text) = some v) :
    (WireValue.text (Utf8.encode text)).toTemporal encoding read = v := by
  have htrim : trim (String.ofList text) = String.ofList text := by
    rw [trim, String.toList_ofList, hstrip]
  rw [toTemporal, encoding.decode_ascii hascii, htrim, hread]
  rfl

theorem decimalOfBytes_text (d : Decimal) :
    decimalOfBytes (Utf8.encode d.text) = .ok d.withoutSignedZero := by
  rw [decimalOfBytes, Utf8.decode_encode, d.text_inked.stripBlanks_eq, d.ofText?_text]

end WireValue

/-! ## How columns are read -/

namespace NativeType

theorem family_eq_decimal_iff {type : NativeType} : type.family = .decimal ↔ type = .decimal := by
  unfold family
  split_ifs with h <;> simp [h]

theorem family_eq_flag_iff {type : NativeType} :
    type.family = .flag ↔ type = .tinyInt ∨ type = .bit := by
  unfold family
  split_ifs with hdecimal hflag
  · subst hdecimal
    decide
  all_goals simp [hflag]

theorem family_of_isCharacter {type : NativeType} (h : type.isCharacter = true) :
    type.family = .character := by
  simp only [isCharacter, List.contains_eq_mem, List.mem_cons, List.not_mem_nil, or_false,
    decide_eq_true_eq] at h
  rcases h with rfl | rfl | rfl | rfl | rfl <;> rfl

end NativeType

namespace WireValue

variable {type : NativeType} {encoding : Encoding}

/-- Integers pass through every column that neither takes them for decimals nor for truth values. -/
theorem toValue_int (n : Int64) (hdecimal : type ≠ .decimal)
    (hflag : ¬ (type = .tinyInt ∨ type = .bit)) :
    (WireValue.int n).toValue type encoding = .ok (.int n) := by
  rw [toValue, if_neg nofun]
  -- the remaining families look at text only
  cases hfamily : type.family with
  | decimal => exact absurd (NativeType.family_eq_decimal_iff.mp hfamily) hdecimal
  | flag => exact absurd (NativeType.family_eq_flag_iff.mp hfamily) hflag
  | _ => rfl

/-- Doubles pass through every column that does not take them for decimals. -/
theorem toValue_double (x : Double) (hdecimal : type ≠ .decimal) :
    (WireValue.double x).toValue type encoding = .ok (.float x) := by
  rw [toValue, if_neg nofun]
  cases hfamily : type.family with
  | decimal => exact absurd (NativeType.family_eq_decimal_iff.mp hfamily) hdecimal
  | _ => rfl

/-- Flags are read as truth values. -/
theorem toValue_flag (n : Int64) (hflag : type = .tinyInt ∨ type = .bit) :
    (WireValue.int n).toValue type encoding = .ok (.bool (n != 0)) := by
  rw [toValue, if_neg nofun, NativeType.family_eq_flag_iff.mpr hflag]
  rfl

theorem toValue_character {bytes : List UInt8} (htype : type.isCharacter = true) :
    (WireValue.text bytes).toValue type encoding = .ok (.text (encoding.decode bytes)) := by
  rw [toValue, if_neg nofun, NativeType.family_of_isCharacter htype]
  rfl

theorem toValue_decimal (d : Decimal) :
    (WireValue.text (Utf8.encode d.text)).toValue .decimal encoding =
      .ok (.decimal d.withoutSignedZero) := by
  rw [toValue, if_neg nofun]
  change (decimalOfBytes (Utf8.encode d.text)).map Value.decimal = _
  rw [decimalOfBytes_text]
  rfl

theorem toValue_date (d : Date) :
    (WireValue.text (Utf8.encode d.text)).toValue .date encoding = .ok (.date d) := by
  rw [toValue, if_neg nofun]
  refine congrArg Except.ok
    (toTemporal_text encoding d.text_inked.ascii d.text_inked.stripBlanks_eq ?_)
  rw [d.ofText?_text]
  rfl

theorem toValue_time (t : Time) :
    (WireValue.text (Utf8.encode t.text)).toValue .time encoding = .ok (.time t.asRead) := by
  rw [toValue, if_neg nofun]
  refine congrArg Except.ok
    (toTemporal_text encoding t.text_inked.ascii t.text_inked.stripBlanks_eq ?_)
  rw [t.ofText?_text]
  rfl

theorem toValue_dateTime (t : DateTime) :
    (WireValue.text (Utf8.encode (t.text ' '))).toValue .timestamp encoding =
      .ok (.dateTime t.asRead) := by
  have hascii : ∀ c ∈ t.text ' ', c.toNat < 0x80 := by
    intro c hc
    rcases List.mem_append.mp hc with hdate | htime
    · exact t.date.text_inked.ascii c hdate
    · rcases List.mem_cons.mp htime with rfl | htime
      · decide
      · exact t.time.text_inked.ascii c htime
  have hstrip : stripBlanks (t.text ' ') = t.text ' ' :=
    t.date.text_inked.stripBlanks_append t.time.text_inked [' ']
  rw [toValue, if_neg nofun]
  refine congrArg Except.ok (toTemporal_text encoding hascii hstrip ?_)
  rw [t.ofText?_text]
  rfl

end WireValue

namespace Value

/-- A value that fits its column comes back as its text is read. -/
theorem toValue_toCell {encoding : Encoding} {type : NativeType} {v : Value}
    (h : v.Fits encoding type) :
    ∃ v', (v.toCell encoding).toValue type encoding = .ok v' ∧ v.asRead.Survives v' := by
  cases v with
  | null => exact ⟨.null, rfl, rfl⟩
  | bool b =>
    refine ⟨.bool b, ?_, rfl⟩
    change (WireValue.int (if b then 1 else 0)).toValue type encoding = _
    rw [WireValue.toValue_flag _ h]
    cases b <;> rfl
  | int n =>
    obtain ⟨htinyInt, hbit, hdecimal⟩ := h
    exact ⟨.int n, WireValue.toValue_int n hdecimal fun hflag => hflag.elim htinyInt hbit, rfl⟩
  | float x => exact ⟨.float x, WireValue.toValue_double x h, rfl⟩
  | decimal d =>
    subst h
    exact ⟨_, WireValue.toValue_decimal d, d.withoutSignedZero, rfl, d.same_withoutSignedZero, rfl⟩
  | date d =>
    subst h
    exact ⟨.date d, WireValue.toValue_date d, rfl⟩
  | time t =>
    subst h
    exact ⟨.time t.asRead, WireValue.toValue_time t, rfl⟩
  | dateTime t =>
    subst h
    exact ⟨.dateTime t.asRead, WireValue.toValue_dateTime t, rfl⟩
  | text s =>
    refine ⟨.text s, ?_, rfl⟩
    change (WireValue.text (encoding.encode s)).toValue type encoding = _
    rw [WireValue.toValue_character h.1, Encoding.decode_encode h.2]
  | binary bytes =>
    refine ⟨.binary bytes, ?_, rfl⟩
    rcases h with rfl | rfl
    · rfl
    · rfl

/-- What comes back is the value itself unless it is in a leap second that ends no minute. -/
theorem survives_iff {v v' : Value} (h : v.asRead.Survives v') :
    v.Survives v' ↔ v.LeapEndsMinute := by
  cases v with
  | time t =>
    subst h
    exact (time.injEq t.asRead t).to_iff.trans t.asRead_eq_self_iff
  | dateTime t =>
    subst h
    exact (dateTime.injEq t.asRead t).to_iff.trans t.asRead_eq_self_iff
  | _ => exact iff_of_true h trivial

/-- **A value that fits its column survives,** whatever the encoding of the session, unless it is in
a leap second that ends no minute. Such a value comes back as the second behind it. -/
theorem toValue_toWire (encoding : Encoding) (type : NativeType) (v : Value)
    (h : v.Fits encoding type) :
    ∃ v', (v.toCell encoding).toValue type encoding = .ok v' ∧ v.asRead.Survives v' ∧
      (v.Survives v' ↔ v.LeapEndsMinute) := by
  obtain ⟨v', hread, hsurvives⟩ := toValue_toCell h
  exact ⟨v', hread, hsurvives, survives_iff hsurvives⟩

/-- A leap second of the year before the year 0, and a nanosecond more. -/
def leapSecond : DateTime where
  date := ⟨-1, 12, 31, by decide, by decide⟩
  time := ⟨23, 59, 59, 1000000001, by decide, by decide, by decide, by decide⟩

theorem toValue_toWire_leapSecond :
    Fits .latin1 .timestamp (.dateTime leapSecond) ∧
      ((dateTime leapSecond).toCell .latin1).toValue .timestamp .latin1 =
        .ok (.dateTime leapSecond) := by
  have hfits : Fits .latin1 .timestamp (.dateTime leapSecond) := rfl
  obtain ⟨v, hread, -, hsurvives⟩ := toValue_toWire .latin1 .timestamp (.dateTime leapSecond) hfits
  have hleap : LeapEndsMinute (.dateTime leapSecond) := .inr rfl
  obtain rfl := hsurvives.mpr hleap
  exact ⟨hfits, hread⟩

/-- A third of a second into the leap second behind 12:00:04. -/
def offMinute : Time := ⟨12, 0, 4, 1333333333, by decide, by decide, by decide, by decide⟩

/-- The same third of a second behind 12:00:05. -/
def nextSecond : Time := ⟨12, 0, 5, 333333333, by decide, by decide, by decide, by decide⟩

/-- A leap second off the minute fits its column like any other time, but the next second is what
comes back. -/
theorem toValue_toWire_offMinute_ne :
    Fits .utf8 .time (.time offMinute) ∧
      ((time offMinute).toCell .utf8).toValue .time .utf8 = .ok (.time nextSecond) ∧
      ¬ (time offMinute).Survives (.time nextSecond) := by
  have hnext : offMinute.asRead = nextSecond := by decide
  refine ⟨rfl, ?_, ?_⟩
  · rw [← hnext]
    exact WireValue.toValue_time offMinute
  · intro hsurvives
    have hsecond : nextSecond = offMinute := time.inj hsurvives
    exact absurd hsecond (by decide)

end Value

end Anywhere
