import Anywhere.Fault
import Anywhere.Proofs.Idempotence
import Mathlib.Data.List.TakeWhile

/-!
# Words in front of SQL text

Raw SQL is not read, but two words in front of it are recognized: a projection that begins with
`DISTINCT` is marked, and a statement that begins with `SELECT` only reads. White space may stand in
front of such a word, and the case of its letters does not matter.

Both are looked for by cutting the text at the length of the word. Here they are brought to what is
meant: the text is white space, the word in letters of either case, and a tail. With that,
`Query.normalize_eq_self_iff_nothingToDo` says of a tree, without a word about the rules, whether
normalizing leaves it alone.
-/

namespace Anywhere

namespace Text

/-- Behind white space the text begins with the word, in letters of either case, and `tail` is what
follows it. -/
def Leads (word text tail : List Char) : Prop :=
  ∃ blanks head, text = blanks ++ head ++ tail ∧ (∀ c ∈ blanks, isBlank c = true) ∧
    head.map Char.toLower = word

/-- White space has no case. -/
theorem toLower_of_isBlank {c : Char} (h : isBlank c = true) : c.toLower = c := by
  have hupper : ¬ (65 ≤ c.toNat ∧ c.toNat ≤ 90) := by
    simp only [isBlank, Bool.or_eq_true, Bool.and_eq_true, decide_eq_true_eq, beq_iff_eq] at h
    omega
  have hval : ¬ (c.val ≥ 'A'.val ∧ c.val ≤ 'Z'.val) := hupper
  exact dif_neg hval

/-- A text that begins with the word does so behind all of its leading white space. -/
theorem leads_iff {word text tail : List Char} {c : Char} (hfirst : word.head? = some c)
    (hc : isBlank c = false) :
    Leads word text tail ↔
      ((dropBlanks text).take word.length).map Char.toLower = word ∧
        (dropBlanks text).drop word.length = tail := by
  constructor
  · rintro ⟨blanks, head, rfl, hblanks, hhead⟩
    have hlength : head.length = word.length := by rw [← hhead, List.length_map]
    -- the word is no white space, so nothing of it is dropped
    have hdrop : dropBlanks (blanks ++ head ++ tail) = head ++ tail := by
      rw [dropBlanks, List.append_assoc, List.dropWhile_append_of_pos hblanks]
      rw [← hhead] at hfirst
      cases head with
      | nil => cases hfirst
      | cons d rest =>
        have hd : ¬ isBlank d = true := by
          intro hblank
          rw [List.map_cons, toLower_of_isBlank hblank] at hfirst
          cases hfirst
          rw [hblank] at hc
          cases hc
        rw [List.cons_append, List.dropWhile_cons_of_neg hd]
    rw [hdrop, ← hlength, List.take_left, List.drop_left]
    exact ⟨hhead, rfl⟩
  · rintro ⟨hhead, rfl⟩
    refine ⟨text.takeWhile isBlank, (dropBlanks text).take word.length, ?_, ?_, hhead⟩
    · rw [List.append_assoc, List.take_append_drop]
      exact List.takeWhile_append_dropWhile.symm
    · exact fun c hc => List.mem_takeWhile_imp hc

end Text

/-! ## The marker of a projection -/

/-- The marker leads the text as a word of its own: white space, a parenthesis or the end of the
text follows it. -/
def Marker.Leads (sql : List Char) : Prop :=
  ∃ tail, Text.Leads word sql tail ∧ ∀ c ∈ tail.head?, Text.isBlank c = true ∨ c = '('

theorem Marker.marks_raw_iff (sql : String) :
    Marker.marks (.raw sql) = true ↔ Marker.Leads sql.toList := by
  have hfirst : Marker.word.head? = some 'd' := by decide
  simp only [Marker.Leads, Text.leads_iff hfirst (by decide), Marker.marks, Marker.rest?,
    beq_iff_eq]
  by_cases hword : ((Text.dropBlanks sql.toList).take Marker.word.length).map Char.toLower =
    Marker.word
  · rw [if_pos hword]
    cases hrest : (Text.dropBlanks sql.toList).drop Marker.word.length with
    | nil => simp [hword]
    | cons c rest => by_cases hc : Text.isBlank c = true ∨ c = '(' <;> simp [hword, hc]
  · rw [if_neg hword]
    refine iff_of_false Bool.false_ne_true ?_
    rintro ⟨tail, ⟨hword', -⟩, -⟩
    exact hword hword'

namespace Query

theorem unmarked_iff (q : Query) :
    q.Unmarked ↔ ∀ s ∈ q.selects, ∀ sql, Expr.raw sql ∈ s.projections →
      ¬ Marker.Leads sql.toList := by
  constructor
  · intro h s hs sql hsql hleads
    exact absurd ((Marker.marks_raw_iff sql).mpr hleads) (by simp [h s hs _ hsql])
  · intro h s hs p hp
    cases p with
    | raw sql =>
      rw [← Bool.not_eq_true, Marker.marks_raw_iff]
      exact h s hs sql hp
    | _ => rfl

/-- **Normalizing changes exactly the trees that need it:** those with a query in them, at any
depth, that does not obey the row cap or in which a raw projection is marked. -/
theorem normalize_eq_self_iff_nothingToDo (q : Query) :
    q.normalize = q ↔ ∀ t ∈ q.all, t.ObeysCap ∧
      ∀ s ∈ t.selects, ∀ sql, Expr.raw sql ∈ s.projections → ¬ Marker.Leads sql.toList := by
  rw [normalize_eq_self_iff]
  exact forall₂_congr fun t _ => and_congr_right fun _ => t.unmarked_iff

end Query

/-! ## Statements that only read -/

/-- A statement only reads when its text is led by the six letters, whatever follows them. -/
theorem ClientError.isSelect_iff (e : ClientError) :
    e.isSelect = true ↔ ∃ tail, Text.Leads "select".toList e.sql.toList tail := by
  have hfirst : "select".toList.head? = some 's' := by decide
  have hlength : "select".toList.length = 6 := by decide
  simp only [Text.leads_iff hfirst (by decide), ClientError.isSelect, hlength, beq_iff_eq]
  exact ⟨fun h => ⟨_, h, rfl⟩, fun ⟨_, h, _⟩ => h⟩

end Anywhere
