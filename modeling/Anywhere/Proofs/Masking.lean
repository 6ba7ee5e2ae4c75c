import Anywhere.Proofs.Passwords
import Mathlib.Data.List.Forall2

/-!
# Connection strings that are shown and read again

A connection string that was read can be shown with its passwords masked, and what is shown is a
connection string again: it has the same parameters in the same order, up to the values of the
passwords, however many there are and whatever the case of their names
(`ConnectionString.ofText?_maskedText`). So nothing but the passwords is concealed.

And they are concealed altogether: two connection strings are shown as the same text exactly if they
are the same up to their passwords. Both follow from the fact that parameters which were read are
tidy, and are still tidy once they are masked.
-/

namespace Anywhere.ConnectionString

open Text

/-! ## Parameters up to their passwords -/

/-- The parameter `shown` stands for `parameter`, whose value is hidden if it is a password. -/
structure Conceals (parameter shown : String × String) : Prop where
  name : shown.1 = parameter.1
  value : shown.2 =
    if eqIgnoringCase parameter.1 "Password" || eqIgnoringCase parameter.1 "PWD" then "********"
    else parameter.2

/-- Two parameters differ at most in the value of a password. -/
structure Alike (p q : String × String) : Prop where
  name : p.1 = q.1
  value : eqIgnoringCase p.1 "Password" = false → eqIgnoringCase p.1 "PWD" = false → p.2 = q.2

theorem alike_iff {p q : String × String} : Alike p q ↔ masked p = masked q := by
  constructor
  · rintro ⟨hname, hvalue⟩
    refine Prod.ext hname ?_
    change (if isSecret p.1 then mask else p.2) = if isSecret q.1 then mask else q.2
    rw [← hname]
    split
    · rfl
    · next hsecret =>
      rw [isSecret, Bool.not_eq_true, Bool.or_eq_false_iff] at hsecret
      exact hvalue hsecret.1 hsecret.2
  · intro h
    obtain ⟨name, value⟩ := p
    obtain ⟨name', value'⟩ := q
    obtain ⟨rfl, hvalue⟩ := Prod.mk.inj h
    refine ⟨rfl, fun hpassword hpwd => ?_⟩
    have hsecret : isSecret name = false := by rw [isSecret, hpassword, hpwd, Bool.or_false]
    rwa [hsecret, if_neg Bool.false_ne_true, if_neg Bool.false_ne_true] at hvalue

theorem forall₂_conceals (parameters : List (String × String)) :
    List.Forall₂ Conceals parameters (parameters.map masked) := by
  rw [List.forall₂_map_right_iff, List.forall₂_same]
  exact fun parameter _ => ⟨rfl, rfl⟩

theorem map_masked_eq_iff {ps qs : List (String × String)} :
    ps.map masked = qs.map masked ↔ List.Forall₂ Alike ps qs := by
  rw [← List.forall₂_eq_eq_eq, List.forall₂_map_left_iff, List.forall₂_map_right_iff]
  exact ⟨fun h => h.imp fun _ _ => alike_iff.mpr, fun h => h.imp fun _ _ => alike_iff.mp⟩

/-! ## Texts that were read -/

/-- **Whatever was read is tidy.** -/
theorem tidy_of_ofText? {text : String} {s : ConnectionString} (h : ofText? text = .ok s) :
    ∀ parameter ∈ s.parameters, Tidy parameter := by
  have hread := toOption_ofText? text
  rw [h] at hread
  obtain ⟨parameters, hparameters, rfl⟩ := Option.map_eq_some_iff.mp hread.symm
  exact forall_mem_of_flatMapM hparameters fun _ _ _ => tidy_of_ofSegment?

theorem tidy_masked {text : String} {s : ConnectionString} (h : ofText? text = .ok s) :
    ∀ parameter ∈ s.parameters.map masked, Tidy parameter :=
  List.forall_mem_map.mpr fun parameter hparameter => (tidy_of_ofText? h parameter hparameter).masked

/-- **What is shown is read as the same parameters with their passwords masked,** and it is the same
text as for another connection string exactly if the two differ at most in their passwords. -/
theorem ofText?_maskedText {text : String} {s : ConnectionString} (h : ofText? text = .ok s) :
    (∃ shown, ofText? s.maskedText = .ok ⟨shown⟩ ∧ List.Forall₂ Conceals s.parameters shown) ∧
      ∀ text' s', ofText? text' = .ok s' →
        (s.maskedText = s'.maskedText ↔ List.Forall₂ Alike s.parameters s'.parameters) := by
  refine ⟨⟨s.parameters.map masked, ofText?_toText (tidy_masked h), forall₂_conceals _⟩, ?_⟩
  intro text' s' h'
  rw [← map_masked_eq_iff]
  exact ⟨toText_inj (tidy_masked h) (tidy_masked h'), fun heq => congrArg (toText ⟨·⟩) heq⟩

/-- Two passwords, one of them with an equals sign and one empty, and other ones in their places. -/
theorem ofText?_maskedText_twoPasswords :
    ∃ s s', ofText? "UID = dba ;PWD=a=b;;password=;Host=é" = .ok s ∧
      ofText? "UID=dba;PWD=;password= x y;Host=é;" = .ok s' ∧
        (∃ shown, ofText? s.maskedText = .ok ⟨shown⟩ ∧
          List.Forall₂ Conceals s.parameters shown) ∧
        s.maskedText = s'.maskedText := by
  have hfirst : ofText? "UID = dba ;PWD=a=b;;password=;Host=é" =
      .ok ⟨[("UID", "dba"), ("PWD", "a=b"), ("password", ""), ("Host", "é")]⟩ := by
    decide +kernel
  have hsecond : ofText? "UID=dba;PWD=;password= x y;Host=é;" =
      .ok ⟨[("UID", "dba"), ("PWD", ""), ("password", "x y"), ("Host", "é")]⟩ := by
    decide +kernel
  obtain ⟨hshown, hsame⟩ := ofText?_maskedText hfirst
  have hpwd : Alike ("PWD", "a=b") ("PWD", "") := ⟨rfl, fun _ h => absurd h (by decide)⟩
  have hpassword : Alike ("password", "") ("password", "x y") :=
    ⟨rfl, fun h => absurd h (by decide)⟩
  have hrefl (p : String × String) : Alike p p := ⟨rfl, fun _ _ => rfl⟩
  refine ⟨_, _, hfirst, hsecond, hshown, (hsame _ _ hsecond).mpr ?_⟩
  exact .cons (hrefl _) (.cons hpwd (.cons hpassword (.cons (hrefl _) .nil)))

end Anywhere.ConnectionString
