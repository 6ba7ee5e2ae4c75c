import Anywhere.Calendar.Reader
import Anywhere.Proofs.Numerals

/-!
# Written dates and times

Dates and times are written with fixed widths, apart from years that need more than four digits and
from the fraction of a second. Each reader takes exactly what was written for it and leaves what
comes behind: a number of fixed width ends where its width ends, a year with a sign ends at the
hyphen, and a fraction ends with the text.

So a date, a time and a date-time are read as they were written, in the notation in which columns
deliver them. Leap seconds at the end of a minute, nanoseconds and years beyond four digits are no
exception. Only a leap second elsewhere is written like the second behind it, and read as that one
(`Time.asRead`).
-/

namespace Anywhere.Calendar

open Anywhere.Number (AllDigits allDigits_padZeros_digits digits inked_padZeros_digits padZeros
  ofDigits tenTo)
open Anywhere.Text (Inked Visible dropBlanks isBlank_of_visible)

theorem daysInMonth_le (year : Int) (month : Nat) : daysInMonth year month ≤ 31 := by
  unfold daysInMonth
  split_ifs <;> omega

/-- A month that has days is one of the twelve. -/
theorem month_le_of_daysInMonth {year : Int} {month : Nat} (h : 1 ≤ daysInMonth year month) :
    month ≤ 12 := by
  unfold daysInMonth at h
  split_ifs at h with htwo _ hshort hmonth
  · omega
  · omega
  · simp only [List.mem_cons, List.not_mem_nil, or_false] at hshort
    omega
  · exact hmonth.2
  · omega

theorem Date.month_lt (d : Date) : d.month < 100 := by
  have hmonth := month_le_of_daysInMonth (d.day_mem.1.trans d.day_mem.2)
  omega

theorem Date.day_lt (d : Date) : d.day < 100 := by
  have hday := d.day_mem.2.trans (daysInMonth_le d.year d.month)
  omega

/-! ## What a clock shows -/

namespace Time

/-- A leap second stands nowhere but at the end of a minute. -/
def LeapEndsMinute (t : Time) : Prop := t.nanosecond < 1000000000 ∨ t.second = 59

instance (t : Time) : Decidable t.LeapEndsMinute := inferInstanceAs (Decidable (_ ∨ _))

/-- The time for which a time is taken when it is read from a clock: itself, or the second behind it
when it is in a leap second that ends no minute. -/
def asRead (t : Time) : Time :=
  if h : t.LeapEndsMinute then t
  else
    have hsecond : t.second + 1 < 60 := by
      have hlt := t.second_lt
      have hne : t.second ≠ 59 := fun heq => h (.inr heq)
      omega
    have hnanosecond : t.nanosecond - 1000000000 < 2000000000 := by
      have hlt := t.nanosecond_lt
      omega
    ⟨t.hour, t.minute, t.second + 1, t.nanosecond - 1000000000, t.hour_lt, t.minute_lt, hsecond,
      hnanosecond⟩

theorem asRead_eq_self_iff (t : Time) : t.asRead = t ↔ t.LeapEndsMinute := by
  constructor
  · intro hself
    by_contra hleap
    rw [asRead, dif_neg hleap] at hself
    have hsecond : t.second + 1 = t.second := congrArg Time.second hself
    omega
  · exact fun hleap => dif_pos hleap

theorem shownSecond_le (t : Time) : t.shownSecond ≤ 60 := by
  have hsecond := t.second_lt
  have hnanosecond := t.nanosecond_lt
  unfold shownSecond
  omega

theorem shownNanosecond_lt (t : Time) : t.shownNanosecond < 1000000000 :=
  Nat.mod_lt _ (by decide)

/-- The parts that a clock shows make up the time that is read from it. -/
theorem ofParts?_shown (t : Time) :
    ofParts? t.hour t.minute t.shownSecond t.shownNanosecond = some t.asRead := by
  have hsecond := t.second_lt
  have hnanosecond := t.nanosecond_lt
  rw [ofParts?, dif_pos ⟨t.hour_lt, t.minute_lt, t.shownNanosecond_lt⟩]
  by_cases hplain : t.nanosecond < 1000000000
  · have hshown : t.shownSecond = t.second ∧ t.shownNanosecond = t.nanosecond := by
      unfold shownSecond shownNanosecond
      omega
    have hself : t.asRead = t := t.asRead_eq_self_iff.mpr (.inl hplain)
    rw [dif_pos (hshown.1.trans_lt hsecond), hself]
    simp only [hshown]
  · have hshown : t.shownSecond = t.second + 1 ∧
        t.shownNanosecond = t.nanosecond - 1000000000 := by
      unfold shownSecond shownNanosecond
      omega
    by_cases hlast : t.second = 59
    · have hself : t.asRead = t := t.asRead_eq_self_iff.mpr (.inr hlast)
      have hcount : 1000000000 + t.shownNanosecond = t.nanosecond := by omega
      have hsixty : t.shownSecond = 60 := by omega
      rw [dif_neg (by omega), if_pos hsixty, hself]
      simp only [hcount, ← hlast]
    · have hleap : ¬ t.LeapEndsMinute := fun h => h.elim hplain hlast
      have hnext : t.shownSecond < 60 := by omega
      rw [dif_pos hnext, asRead, dif_neg hleap]
      simp only [hshown]

end Time

/-- The date-time for which a date-time is taken when it is read from a clock. -/
def DateTime.asRead (t : DateTime) : DateTime := { t with time := t.time.asRead }

theorem DateTime.asRead_eq_self_iff (t : DateTime) :
    t.asRead = t ↔ t.time.LeapEndsMinute := by
  rw [← t.time.asRead_eq_self_iff]
  exact ⟨fun h => congrArg DateTime.time h, fun h => by rw [asRead, h]⟩

namespace Reader

/-! ## One reader after another -/

/-- Behind a reader that succeeds, the next one goes on with what it left. -/
theorem bind_of_some {α β : Type} {r : Text.Reader α} {f : α → Text.Reader β}
    {text rest : List Char} {a : α} (h : r text = some (a, rest)) : (r >>= f) text = f a rest := by
  change (r text >>= fun p => f p.1 p.2) = _
  rw [h]
  rfl

theorem blanks_of_visible {c : Char} (h : Visible c) (rest : List Char) :
    Text.Reader.blanks (c :: rest) = some ((), c :: rest) := by
  have hkept : dropBlanks (c :: rest) = c :: rest :=
    List.dropWhile_cons_of_neg (by rw [isBlank_of_visible h]; exact Bool.false_ne_true)
  change some ((), dropBlanks (c :: rest)) = _
  rw [hkept]

/-! ## Numbers -/

/-- Nothing of the text continues a number. -/
def EndsNumber (rest : List Char) : Prop := ∀ c ∈ rest.head?, c.isDigit = false

theorem endsNumber_cons {c : Char} (h : c.isDigit = false) (rest : List Char) :
    EndsNumber (c :: rest) := by
  intro d hd
  cases hd
  exact h

theorem EndsNumber.takeWhile_take {rest : List Char} (h : EndsNumber rest) (count : Nat) :
    (rest.take count).takeWhile Char.isDigit = [] := by
  cases rest with
  | nil => simp
  | cons c rest =>
    cases count with
    | zero => rfl
    | succ count =>
      rw [List.take_succ_cons, List.takeWhile_cons_of_neg]
      rw [h c rfl]
      exact Bool.false_ne_true

/-- A number ends where its width ends, or in front of something that is no digit. -/
theorem number_append {most : Nat} {text rest : List Char} (hdigits : AllDigits text)
    (hne : text ≠ []) (hmost : text.length ≤ most) (hend : text.length = most ∨ EndsNumber rest) :
    number most (text ++ rest) = some (ofDigits text, rest) := by
  have hrun : ((text ++ rest).take most).takeWhile Char.isDigit = text := by
    -- what is left of the width holds no digit, or there is nothing left of it
    have hstop : (rest.take (most - text.length)).takeWhile Char.isDigit = [] := by
      rcases hend with hfull | hstop
      · rw [hfull, Nat.sub_self, List.take_zero, List.takeWhile_nil]
      · exact hstop.takeWhile_take _
    rw [List.take_append, List.take_of_length_le hmost, List.takeWhile_append_of_pos hdigits, hstop,
      List.append_nil]
  rw [number, hrun, List.drop_left, if_neg (by simp [hne])]

/-- A number of any length ends in front of something that is no digit. -/
theorem anyNumber_append {text rest : List Char} (hdigits : AllDigits text) (hne : text ≠ [])
    (hend : EndsNumber rest) : anyNumber (text ++ rest) = some (ofDigits text, rest) :=
  number_append hdigits hne (by rw [List.length_append]; omega) (.inr hend)

/-- Two written digits are read. -/
theorem twoDigits_append {n : Nat} (h : n < 100) (rest : List Char) :
    twoDigits (Date.twoDigits n ++ rest) = some (n, rest) := by
  have hdigits : AllDigits (Date.twoDigits n) := allDigits_padZeros_digits 2 n
  have hlength : (Date.twoDigits n).length = 2 := Number.length_padZeros_digits (by decide) h
  have hne : Date.twoDigits n ≠ [] := Number.padZeros_digits_ne_nil 2 n
  have hread : number 2 (Date.twoDigits n ++ rest) = some (n, rest) := by
    rw [number_append hdigits hne hlength.le (.inl hlength), Date.twoDigits,
      Number.ofDigits_padZeros]
  obtain ⟨c, text, htext⟩ := List.exists_cons_of_ne_nil hne
  rw [htext] at hread hdigits ⊢
  have hvisible := Number.visible_of_isDigit (hdigits c List.mem_cons_self)
  rw [twoDigits, List.cons_append, bind_of_some (blanks_of_visible hvisible _)]
  exact hread

/-- A year without a sign has up to four digits. -/
theorem year_digit {c : Char} (h : c.isDigit = true) (text : List Char) :
    year (c :: text) = (do return ((← number 4 : Nat) : Int)) (c :: text) := by
  have hget : (get : Text.Reader (List Char)) (c :: text) = some (c :: text, c :: text) := rfl
  rw [year, bind_of_some (blanks_of_visible (Number.visible_of_isDigit h) _), bind_of_some hget]
  refine congrFun ?_ (c :: text)
  split
  · next hminus =>
    cases hminus
    exact absurd h (by decide)
  · next hplus =>
    cases hplus
    exact absurd h (by decide)
  · rfl

/-- Behind a sign, a year may have any number of digits. -/
theorem year_minus (text : List Char) :
    year ('-' :: text) = (do return -((← anyNumber : Nat) : Int)) text := by
  have hminus : Visible '-' := by decide
  have hget : (get : Text.Reader (List Char)) ('-' :: text) = some ('-' :: text, '-' :: text) := rfl
  rw [year, bind_of_some (blanks_of_visible hminus _), bind_of_some hget]
  exact bind_of_some rfl

theorem year_plus (text : List Char) :
    year ('+' :: text) = (do return ((← anyNumber : Nat) : Int)) text := by
  have hplus : Visible '+' := by decide
  have hget : (get : Text.Reader (List Char)) ('+' :: text) = some ('+' :: text, '+' :: text) := rfl
  rw [year, bind_of_some (blanks_of_visible hplus _), bind_of_some hget]
  exact bind_of_some rfl

/-- A written year is read, up to the hyphen. -/
theorem year_append {y : Int} {rest : List Char} (hend : EndsNumber rest) :
    year (Date.yearText y ++ rest) = some (y, rest) := by
  have hdigits : AllDigits (padZeros 4 (digits y.natAbs)) := allDigits_padZeros_digits 4 _
  have hne : padZeros 4 (digits y.natAbs) ≠ [] := Number.padZeros_digits_ne_nil 4 _
  have hvalue : ofDigits (padZeros 4 (digits y.natAbs)) = y.natAbs := Number.ofDigits_padZeros 4 _
  have hany : anyNumber (padZeros 4 (digits y.natAbs) ++ rest) = some (y.natAbs, rest) := by
    rw [anyNumber_append hdigits hne hend, hvalue]
  rw [Date.yearText]
  -- behind a sign the digits run up to the hyphen, and without one there are exactly four of them
  split_ifs with hneg hfour
  · rw [List.cons_append, year_minus, bind_of_some hany]
    exact congrArg (fun n => some (n, rest)) (by omega)
  · have hlength : (padZeros 4 (digits y.natAbs)).length = 4 :=
      Number.length_padZeros_digits (by decide) (show y.natAbs < 10000 by omega)
    have hread : number 4 (padZeros 4 (digits y.natAbs) ++ rest) = _ :=
      number_append hdigits hne hlength.le (.inl hlength)
    obtain ⟨c, text, htext⟩ := List.exists_cons_of_ne_nil hne
    rw [hvalue, htext] at hread
    rw [htext] at hdigits ⊢
    rw [List.cons_append] at hread ⊢
    rw [year_digit (hdigits c List.mem_cons_self), bind_of_some hread]
    exact congrArg (fun n => some (n, rest)) (by omega)
  · rw [List.cons_append, year_plus, bind_of_some hany]
    exact congrArg (fun n => some (n, rest)) (by omega)

/-! ## Dates -/

theorem char_append (c : Char) (rest : List Char) :
    Text.Reader.char c (c :: rest) = some ((), rest) := Text.Reader.char_cons_self c rest

theorem gap_tight (text : List Char) : gap .tight text = some ((), text) := rfl

/-- What is there is read. -/
theorem lift_some {α : Type} {result : Option α} {a : α} (h : result = some a) (text : List Char) :
    (liftM result : Text.Reader α) text = some (a, text) := by
  rw [h]
  rfl

/-- **A written date is read,** whatever comes behind it. -/
theorem date_append (d : Date) (rest : List Char) :
    date .tight (d.text ++ rest) = some (d, rest) := by
  have hyear : ∀ rest, year (Date.yearText d.year ++ '-' :: rest) = some (d.year, '-' :: rest) :=
    fun rest => year_append (endsNumber_cons (by decide) rest)
  have hparts : Date.ofParts? d.year d.month d.day = some d := dif_pos ⟨d.year_mem, d.day_mem⟩
  rw [Date.text, List.append_assoc, List.append_assoc, List.cons_append, List.cons_append, date,
    bind_of_some (hyear _), bind_of_some (gap_tight _), bind_of_some (char_append _ _),
    bind_of_some (twoDigits_append d.month_lt _), bind_of_some (gap_tight _),
    bind_of_some (char_append _ _), bind_of_some (twoDigits_append d.day_lt _),
    bind_of_some (gap_tight _)]
  exact lift_some hparts rest

/-! ## Times -/

/-- The first nine digits behind a point are read, and all digits are taken. -/
theorem fraction_point {rest run : List Char} (hrun : (rest.take 9).takeWhile Char.isDigit = run)
    (hne : run.isEmpty = false) :
    fraction ('.' :: rest) =
      some (ofDigits run * tenTo (9 - run.length), rest.dropWhile Char.isDigit) := by
  subst hrun
  change (if ((rest.take 9).takeWhile Char.isDigit).isEmpty then _ else _ : Text.Reader Nat) _ = _
  rw [hne, if_neg Bool.false_ne_true]
  rfl

/-- A fraction with a fixed number of digits, at the end of a text. -/
theorem fraction_padZeros {width n : Nat} (hwidth : 0 < width) (hnine : width ≤ 9)
    (h : n < tenTo width) :
    fraction ('.' :: padZeros width (digits n)) = some (n * tenTo (9 - width), []) := by
  have hdigits : AllDigits (padZeros width (digits n)) := allDigits_padZeros_digits width n
  have hlength : (padZeros width (digits n)).length = width :=
    Number.length_padZeros_digits hwidth h
  have hrun : ((padZeros width (digits n)).take 9).takeWhile Char.isDigit =
      padZeros width (digits n) := by
    rw [List.take_of_length_le (by omega)]
    exact List.takeWhile_eq_self_iff.mpr hdigits
  have hrest : (padZeros width (digits n)).dropWhile Char.isDigit = [] :=
    List.dropWhile_eq_nil_iff.mpr hdigits
  have hne : (padZeros width (digits n)).isEmpty = false := by
    simp [Number.padZeros_digits_ne_nil]
  rw [fraction_point hrun hne, hrest, hlength, Number.ofDigits_padZeros]

/-- The written fraction of a second is read. -/
theorem fraction_fractionText {nanosecond : Nat} (h : nanosecond < 1000000000) :
    fraction (Time.fractionText nanosecond) = some (nanosecond, []) := by
  unfold Time.fractionText
  split_ifs with hzero hmilli hmicro
  · rw [hzero]
    rfl
  · have hfits : nanosecond / 1000000 < tenTo 3 := show nanosecond / 1000000 < 1000 by omega
    rw [fraction_padZeros (by decide) (by decide) hfits]
    exact congrArg (fun n => some (n, [])) (Nat.div_mul_cancel (Nat.dvd_of_mod_eq_zero hmilli))
  · have hfits : nanosecond / 1000 < tenTo 6 := show nanosecond / 1000 < 1000000 by omega
    rw [fraction_padZeros (by decide) (by decide) hfits]
    exact congrArg (fun n => some (n, [])) (Nat.div_mul_cancel (Nat.dvd_of_mod_eq_zero hmicro))
  · have hfits : nanosecond < tenTo 9 := h
    rw [fraction_padZeros (by decide) (by decide) hfits]
    exact congrArg (fun n => some (n, [])) (Nat.mul_one nanosecond)

/-- **A written time is read,** leap seconds at the end of a minute and nanoseconds included. -/
theorem fullTime_text (t : Time) : fullTime .tight t.text = some (t.asRead, []) := by
  have hhour : t.hour < 100 := t.hour_lt.trans (by decide)
  have hminute : t.minute < 100 := t.minute_lt.trans (by decide)
  have hsecond : t.shownSecond < 100 := t.shownSecond_le.trans_lt (by decide)
  have hfirst : ∀ rest, hourMinute .tight (Date.twoDigits t.hour ++
      ':' :: (Date.twoDigits t.minute ++ rest)) = some ((t.hour, t.minute), rest) := by
    intro rest
    rw [hourMinute, bind_of_some (twoDigits_append hhour _), bind_of_some (gap_tight _),
      bind_of_some (char_append _ _), bind_of_some (twoDigits_append hminute _)]
    rfl
  have hlast : seconds .tight
      (':' :: (Date.twoDigits t.shownSecond ++ Time.fractionText t.shownNanosecond)) =
      some ((t.shownSecond, t.shownNanosecond), []) := by
    rw [seconds, bind_of_some (gap_tight _), bind_of_some (char_append _ _),
      bind_of_some (twoDigits_append hsecond _),
      bind_of_some (fraction_fractionText t.shownNanosecond_lt), bind_of_some (gap_tight _)]
    rfl
  have htext : t.text = Date.twoDigits t.hour ++ ':' :: (Date.twoDigits t.minute ++
      ':' :: (Date.twoDigits t.shownSecond ++ Time.fractionText t.shownNanosecond)) := by
    simp [Time.text]
  rw [htext, fullTime]
  refine (bind_of_some (hfirst _)).trans ?_
  refine (bind_of_some hlast).trans ?_
  exact lift_some t.ofParts?_shown []

/-! ## Dates with times -/

theorem blanks_space {c : Char} (h : Visible c) (rest : List Char) :
    Text.Reader.blanks (' ' :: c :: rest) = some ((), c :: rest) := by
  have hspace : dropBlanks (' ' :: c :: rest) = dropBlanks (c :: rest) :=
    List.dropWhile_cons_of_pos (by decide)
  change some ((), dropBlanks (' ' :: c :: rest)) = _
  rw [hspace]
  exact blanks_of_visible h rest

end Reader

/-! ## Written texts as a whole -/

theorem Date.yearText_inked (year : Int) : Inked (yearText year) := by
  have hmagnitude := inked_padZeros_digits 4 year.natAbs
  rw [yearText]
  split_ifs
  · exact hmagnitude.cons (by decide)
  · exact hmagnitude
  · exact hmagnitude.cons (by decide)

theorem Date.text_inked (d : Date) : Inked d.text :=
  have hmonth := (inked_padZeros_digits 2 d.month).cons (show Visible '-' by decide)
  have hday := (inked_padZeros_digits 2 d.day).cons (show Visible '-' by decide)
  ((yearText_inked d.year).append hmonth.2).append hday.2

theorem Time.fractionText_visible (nanosecond : Nat) :
    ∀ c ∈ fractionText nanosecond, Visible c := by
  have hpoint : Visible '.' := by decide
  rw [fractionText]
  split_ifs
  · exact nofun
  · exact ((inked_padZeros_digits 3 _).cons hpoint).2
  · exact ((inked_padZeros_digits 6 _).cons hpoint).2
  · exact ((inked_padZeros_digits 9 _).cons hpoint).2

theorem Time.text_inked (t : Time) : Inked t.text :=
  have hminute := (inked_padZeros_digits 2 t.minute).cons (show Visible ':' by decide)
  have hsecond := (inked_padZeros_digits 2 t.shownSecond).cons (show Visible ':' by decide)
  (((inked_padZeros_digits 2 t.hour).append hminute.2).append hsecond.2).append
    (fractionText_visible t.shownNanosecond)

/-- A written date is read as that date. -/
theorem Date.ofText?_text (d : Date) : ofText? .tight (String.ofList d.text) = some d := by
  have hread := Reader.date_append d []
  rw [List.append_nil] at hread
  rw [ofText?, String.toList_ofList, Text.Reader.whole, hread]

/-- A written time is read as a clock is. -/
theorem Time.ofText?_text (t : Time) : ofText? .tight (String.ofList t.text) = some t.asRead := by
  rw [ofText?, String.toList_ofList, Text.Reader.whole, Reader.fullTime_text]

/-- A written date-time is read as a clock is. -/
theorem DateTime.ofText?_text (t : DateTime) :
    ofText? .tight (String.ofList (t.text ' ')) = some t.asRead := by
  have hread : Reader.dateTime .tight (t.text ' ') = some (t.asRead, []) := by
    obtain ⟨hne, hvisible⟩ := t.time.text_inked
    obtain ⟨c, rest, htime⟩ := List.exists_cons_of_ne_nil hne
    have hfull := Reader.fullTime_text t.time
    rw [htime] at hvisible hfull
    rw [DateTime.text, htime, Reader.dateTime, Reader.bind_of_some (Reader.date_append _ _),
      Reader.bind_of_some (Reader.blanks_space (hvisible c List.mem_cons_self) _),
      Reader.bind_of_some hfull]
    rfl
  rw [ofText?, String.toList_ofList, Text.Reader.whole, hread]

end Anywhere.Calendar
