import Anywhere.Proofs.Numerals
import Anywhere.Proofs.Placeholders

/-!
# SQL text as a server scans it

Whoever reads SQL text from left to right has to tell apart what stands inside quotes and what
stands outside. This file has such a scanner, which knows nothing of queries: a single quote begins
a string, in which two quotes stand for a quote and two backslashes for a backslash, and a double
quote begins a name, which ends at the next one. What stands outside is handed on character by
character.

Scanning a text that was put together means scanning its parts, up to one case: a string that ends
where another quote follows would go on. So there are two notions of a part, `Closes` for one that
may be followed by anything and `Scans` for one that must not be followed by a single quote, and
the names, literals and other pieces of SQL text are shown to be one or the other.
-/

namespace Anywhere.Sql

/-- What the scanner finds: a string, a name, or a character outside of both. -/
inductive Token where
  | string (content : List Char)
  | name (content : List Char)
  | char (c : Char)
deriving DecidableEq, Repr

/-- Where the scanner stands. What it has read of a quoted token is kept in reverse. -/
inductive Mode where
  | outside
  | inString (read : List Char)
  | inName (read : List Char)

/-- The tokens of a text that begins in the given mode. There are none if it ends inside quotes. -/
def scanFrom : Mode → List Char → Option (List Token)
  | .outside, [] => some []
  | .outside, c :: rest =>
    if c = '\'' then scanFrom (.inString []) rest
    else if c = '"' then scanFrom (.inName []) rest
    else (scanFrom .outside rest).map (.char c :: ·)
  | .inString _, [] => none
  | .inString read, '\'' :: '\'' :: rest => scanFrom (.inString ('\'' :: read)) rest
  | .inString read, '\\' :: '\\' :: rest => scanFrom (.inString ('\\' :: read)) rest
  | .inString read, c :: rest =>
    if c = '\'' then (scanFrom .outside rest).map (.string read.reverse :: ·)
    else scanFrom (.inString (c :: read)) rest
  | .inName _, [] => none
  | .inName read, c :: rest =>
    if c = '"' then (scanFrom .outside rest).map (.name read.reverse :: ·)
    else scanFrom (.inName (c :: read)) rest

attribute [simp] scanFrom

/-- The tokens of a text. -/
def scan (text : String) : Option (List Token) := scanFrom .outside text.toList

/-- Whatever follows, the text is scanned as these tokens. -/
def Closes (text : List Char) (tokens : List Token) : Prop :=
  ∀ rest, scanFrom .outside (text ++ rest) = (scanFrom .outside rest).map (tokens ++ ·)

/-- The text is scanned as these tokens, as long as no single quote follows. -/
def Scans (text : List Char) (tokens : List Token) : Prop :=
  ∀ rest, rest.head? ≠ some '\'' →
    scanFrom .outside (text ++ rest) = (scanFrom .outside rest).map (tokens ++ ·)

theorem Closes.scans {text : List Char} {tokens : List Token} (h : Closes text tokens) :
    Scans text tokens := fun rest _ => h rest

theorem Closes.nil : Closes [] [] := by
  intro rest
  cases h : scanFrom .outside rest with
  | none => simp [h]
  | some tokens => simp [h]

theorem map_append_map (a b : List Token) (tokens : Option (List Token)) :
    (tokens.map (b ++ ·)).map (a ++ ·) = tokens.map (a ++ b ++ ·) := by
  cases tokens with
  | none => rfl
  | some ts => simp

theorem Closes.append {a b : List Char} {ts us : List Token} (ha : Closes a ts)
    (hb : Closes b us) : Closes (a ++ b) (ts ++ us) := by
  intro rest
  rw [List.append_assoc, ha, hb, map_append_map]

theorem Closes.appendScans {a b : List Char} {ts us : List Token} (ha : Closes a ts)
    (hb : Scans b us) : Scans (a ++ b) (ts ++ us) := by
  intro rest hrest
  rw [List.append_assoc, ha, hb rest hrest, map_append_map]

/-- Two texts in a row, the second of which does not begin with a single quote. -/
theorem Scans.append {a b : List Char} {ts us : List Token} (ha : Scans a ts) (hb : Scans b us)
    (hhead : b.head? ≠ some '\'') : Scans (a ++ b) (ts ++ us) := by
  intro rest hrest
  have hnext : (b ++ rest).head? ≠ some '\'' := by
    cases b with
    | nil => exact hrest
    | cons c b => exact hhead
  rw [List.append_assoc, ha _ hnext, hb rest hrest, map_append_map]

theorem Scans.scan {text : String} {tokens : List Token} (h : Scans text.toList tokens) :
    scan text = some tokens := by
  have hend := h [] (by simp)
  rw [List.append_nil] at hend
  rw [Sql.scan, hend, scanFrom, Option.map_some, List.append_nil]

/-! ## Text outside quotes -/

/-- The text has no quotes. -/
def Unquoted (text : List Char) : Prop := ∀ c ∈ text, c ≠ '\'' ∧ c ≠ '"'

instance (text : List Char) : Decidable (Unquoted text) := List.decidableBAll _ text

theorem Unquoted.closes {text : List Char} (h : Unquoted text) : Closes text (text.map .char) := by
  induction text with
  | nil => exact .nil
  | cons c text ih =>
    intro rest
    obtain ⟨hsingle, hdouble⟩ := h c List.mem_cons_self
    have hstep := ih (fun d hd => h d (List.mem_cons_of_mem c hd)) rest
    rw [List.cons_append, scanFrom, if_neg hsingle, if_neg hdouble, hstep]
    cases scanFrom .outside rest <;> rfl

/-! ## Names and literals -/

theorem scanFrom_name {content : List Char} (h : '"' ∉ content) (read rest : List Char) :
    scanFrom (.inName read) (content ++ '"' :: rest) =
      (scanFrom .outside rest).map (.name (read.reverse ++ content) :: ·) := by
  induction content generalizing read with
  | nil => simp
  | cons c content ih =>
    rw [List.mem_cons, not_or] at h
    rw [List.cons_append, scanFrom, if_neg (Ne.symm h.1), ih h.2, List.reverse_cons,
      List.append_assoc]
    rfl

theorem quote_notMem_plain (name : List Char) : '"' ∉ Name.plain name := by
  intro h
  have hspecial := (List.mem_filter.mp h).2
  exact absurd hspecial (by decide)

/-- **A name in double quotes** is one name, without the characters that it cannot hold. -/
theorem closes_quotedChars (name : List Char) :
    Closes (Name.quotedChars name) [.name (Name.plain name)] := by
  intro rest
  have hname := scanFrom_name (quote_notMem_plain name) [] rest
  rw [Name.quotedChars, List.cons_append, List.cons_append, List.append_assoc, scanFrom,
    if_neg (by decide), if_pos rfl]
  exact hname

/-- A character that is not special belongs to the string. -/
theorem scanFrom_inString {c : Char} (hback : c ≠ '\\') (hquote : c ≠ '\'')
    (read rest : List Char) :
    scanFrom (.inString read) (c :: rest) = scanFrom (.inString (c :: read)) rest := by
  rw [scanFrom, if_neg hquote]
  · intro rest' hc
    exact absurd hc hquote
  · intro rest' hc
    exact absurd hc hback

theorem scanFrom_escaped (text read : List Char) {rest : List Char}
    (hrest : rest.head? ≠ some '\'') :
    scanFrom (.inString read) (Literal.escaped text ++ '\'' :: rest) =
      (scanFrom .outside rest).map (.string (read.reverse ++ text) :: ·) := by
  induction text generalizing read with
  | nil =>
    -- the quote that ends the string is not doubled
    cases rest with
    | nil => simp [Literal.escaped]
    | cons c rest =>
      have hc : c ≠ '\'' := fun h => hrest (congrArg some h)
      simp [Literal.escaped, hc]
  | cons c text ih =>
    have hstep := ih (c :: read)
    rw [List.reverse_cons, List.append_assoc] at hstep
    rw [Literal.escaped, List.flatMap_cons, ← Literal.escaped, List.append_assoc]
    by_cases hback : c = '\\'
    · subst hback
      exact hstep
    · by_cases hquote : c = '\''
      · subst hquote
        exact hstep
      · have hc : Literal.escapedChar c = [c] := by simp [Literal.escapedChar, hback, hquote]
        rw [hc, List.cons_append, List.nil_append, scanFrom_inString hback hquote, hstep]
        rfl

/-- **A text in single quotes** is one string, and its content is the text that was quoted. -/
theorem scans_ofChars (text : List Char) :
    Scans (Literal.ofChars text).toList [.string text] := by
  intro rest hrest
  have hstring := scanFrom_escaped text [] hrest
  rw [Literal.ofChars, String.toList_ofList, List.cons_append, List.cons_append,
    List.append_assoc, scanFrom, if_pos rfl]
  exact hstring

theorem Closes.intercalate {separator : List Char} {between : List Token} {f : α → List Char}
    {g : α → List Token} (hseparator : Closes separator between) {parts : List α}
    (hparts : ∀ a ∈ parts, Closes (f a) (g a)) :
    Closes (separator.intercalate (parts.map f)) (between.intercalate (parts.map g)) := by
  induction parts with
  | nil => exact .nil
  | cons a parts ih =>
    have ha := hparts a List.mem_cons_self
    have hrest := ih fun b hb => hparts b (List.mem_cons_of_mem a hb)
    cases parts with
    | nil => simpa [List.intercalate] using ha
    | cons b parts =>
      have h := ha.append (hseparator.append hrest)
      simpa [List.intercalate_cons_cons] using h

/-- The tokens of a table name: one name for each part between the dots. -/
def pathTokens (name : String) : List Token :=
  [.char '.'].intercalate ((Text.pieces '.' name.toList).map fun part => [.name (Name.plain part)])

theorem closes_quotedPath (name : String) :
    Closes (Name.quotedPath name).toList (pathTokens name) := by
  have hunquoted : Unquoted ['.'] := by decide
  have hdot : Closes ['.'] [.char '.'] := hunquoted.closes
  rw [Name.quotedPath, String.toList_ofList]
  exact hdot.intercalate fun part _ => closes_quotedChars part

/-! ## Numbers -/

/-- The text consists of digits, signs and points. -/
def Numeric (text : List Char) : Prop := ∀ c ∈ text, c.isDigit = true ∨ c = '-' ∨ c = '.'

instance (text : List Char) : Decidable (Numeric text) := List.decidableBAll _ text

theorem Numeric.append {a b : List Char} (ha : Numeric a) (hb : Numeric b) : Numeric (a ++ b) := by
  intro c hc
  rcases List.mem_append.mp hc with hc | hc
  · exact ha c hc
  · exact hb c hc

theorem Numeric.cons {c : Char} {text : List Char} (hc : c.isDigit = true ∨ c = '-' ∨ c = '.')
    (h : Numeric text) : Numeric (c :: text) := by
  intro d hd
  rcases List.mem_cons.mp hd with rfl | hd
  · exact hc
  · exact h d hd

theorem Numeric.ofAllDigits {text : List Char} (h : Number.AllDigits text) : Numeric text :=
  fun c hc => .inl (h c hc)

theorem Numeric.signed {text : List Char} (h : Numeric text) (negative : Bool) :
    Numeric (Number.signed negative text) := by
  cases negative with
  | false => exact h
  | true => exact h.cons (.inr (.inl rfl))

theorem numeric_fixedPoint (coefficient places : Nat) :
    Numeric (Number.fixedPoint coefficient places) := by
  obtain ⟨whole, fraction, hwhole, hfraction, -, -, -, htext⟩ :=
    Number.Decimal.fixedPoint_eq coefficient places
  rw [htext]
  refine (Numeric.ofAllDigits hwhole).append ?_
  split
  · exact fun c hc => nomatch hc
  · exact (Numeric.ofAllDigits hfraction).cons (.inr (.inr rfl))

theorem exists_digit_fixedPoint (coefficient places : Nat) :
    ∃ c ∈ Number.fixedPoint coefficient places, c.isDigit = true := by
  obtain ⟨whole, fraction, hwhole, -, hne, -, -, htext⟩ :=
    Number.Decimal.fixedPoint_eq coefficient places
  obtain ⟨c, hc⟩ := List.exists_mem_of_ne_nil _ hne
  rw [htext]
  exact ⟨c, List.mem_append_left _ hc, hwhole c hc⟩

/-! ## Text without quotes and question marks -/

/-- The text has neither quotes nor question marks. -/
def Inert (text : List Char) : Prop := ∀ c ∈ text, c ≠ '\'' ∧ c ≠ '"' ∧ c ≠ '?'

instance (text : List Char) : Decidable (Inert text) := List.decidableBAll _ text

namespace Inert

theorem unquoted {text : List Char} (h : Inert text) : Unquoted text :=
  fun c hc => ⟨(h c hc).1, (h c hc).2.1⟩

theorem append {a b : List Char} (ha : Inert a) (hb : Inert b) : Inert (a ++ b) := by
  intro c hc
  rcases List.mem_append.mp hc with hc | hc
  · exact ha c hc
  · exact hb c hc

theorem of_subset {a b : List Char} (hsub : ∀ c ∈ a, c ∈ b) (h : Inert b) : Inert a :=
  fun c hc => h c (hsub c hc)

theorem head_ne {text : List Char} (h : Inert text) : text.head? ≠ some '\'' := by
  cases text with
  | nil => exact nofun
  | cons c text =>
    intro hc
    exact (h c List.mem_cons_self).1 (Option.some.inj hc)

theorem ofNumeric {text : List Char} (h : Numeric text) : Inert text := by
  intro c hc
  rcases h c hc with hdigit | rfl | rfl
  · refine ⟨?_, ?_, ?_⟩ <;> rintro rfl <;> exact absurd hdigit (by decide)
  · decide
  · decide

/-- What is no code point becomes the character of code zero. -/
theorem toNat_ofNat_of_le {code : Nat} (h : 64 ≤ code) :
    (Char.ofNat code).toNat = 0 ∨ 64 ≤ (Char.ofNat code).toNat := by
  by_cases hvalid : code.isValidChar
  · have hchar : Char.ofNat code = Char.ofNatAux code hvalid := dif_pos hvalid
    rw [hchar]
    exact .inr h
  · have hchar : Char.ofNat code = Char.ofNat 0 := dif_neg hvalid
    rw [hchar]
    exact .inl rfl

/-- Code points from 64 on are neither quotes nor question marks. -/
theorem ofCode {code : Nat} (h : 64 ≤ code) : Inert [Char.ofNat code] := by
  intro c hc
  rw [List.mem_singleton] at hc
  have hnat : c.toNat = 0 ∨ 64 ≤ c.toNat := hc ▸ toNat_ofNat_of_le h
  refine ⟨?_, ?_, ?_⟩ <;> rintro rfl <;> revert hnat <;> decide

/-- The tables of letters lead to no code point below 64. -/
theorem le_caseImage {runs : List Text.CaseRun} (hruns : ∀ run ∈ runs, 64 ≤ run.image) {code : Nat}
    (h : 64 ≤ code) : 64 ≤ Text.caseImage runs code := by
  rw [Text.caseImage]
  cases hrun : runs.findSome? (·.image? code) with
  | none => exact h
  | some found =>
    obtain ⟨run, hmem, hfound⟩ := List.exists_of_findSome?_eq_some hrun
    have hle := hruns run hmem
    unfold Text.CaseRun.image? at hfound
    split at hfound
    · cases hfound
      exact Nat.le_add_right_of_le hle
    · cases hfound

/-- Upper case leads to no quote and no question mark: letters of ASCII stay there, and the tables
for all others have no code point below 64. -/
theorem uppercaseChar {c : Char} (h : Inert [c]) : Inert (Text.uppercaseChar c) := by
  have hascii : ∀ code < 128, Inert [Char.ofNat code] → Inert [(Char.ofNat code).toUpper] := by
    decide +kernel
  have hruns : ∀ run ∈ Text.uppercaseRuns, 64 ≤ run.image := by decide +kernel
  have hexpansions : ∀ entry ∈ Text.uppercaseExpansions, ∀ code ∈ entry.2, 64 ≤ code := by
    decide +kernel
  unfold Text.uppercaseChar
  split
  · next hlt =>
    have hc := hascii c.toNat hlt
    rw [Char.ofNat_toNat] at hc
    exact hc h
  · split
    · next codes hcodes =>
      intro d hd
      obtain ⟨code, hcode, rfl⟩ := List.mem_map.mp hd
      obtain ⟨before, after, hentry, -⟩ := List.lookup_eq_some_iff.mp hcodes
      have hmem : (c.toNat, codes) ∈ Text.uppercaseExpansions := by
        rw [hentry]
        exact List.mem_append_right _ List.mem_cons_self
      exact ofCode (hexpansions _ hmem code hcode) _ List.mem_cons_self
    · exact ofCode (le_caseImage hruns (by omega))

theorem uppercase {text : String} (h : Inert text.toList) :
    Inert (Text.uppercase text).toList := by
  intro d hd
  rw [Text.uppercase, String.toList_ofList] at hd
  obtain ⟨c, hc, hd⟩ := List.mem_flatMap.mp hd
  refine uppercaseChar (fun e he => ?_) d hd
  rw [List.mem_singleton.mp he]
  exact h c hc

end Inert

/-- What is written between other texts: it is not empty, and has neither quotes nor question
marks. -/
structure Separator (text : String) : Prop where
  inert : Inert text.toList
  nonempty : text.toList ≠ []

instance (text : String) : Decidable (Separator text) :=
  decidable_of_iff (Inert text.toList ∧ text.toList ≠ [])
    ⟨fun ⟨hinert, hne⟩ => ⟨hinert, hne⟩, fun h => ⟨h.inert, h.nonempty⟩⟩

end Anywhere.Sql

namespace Anywhere.Value

open Sql

/-- What the literal of a value has between single quotes, if it has any. -/
def quotedText? : Value → Option (List Char)
  | text s => some s.toList
  | date d => some d.text
  | time t => some t.text
  | dateTime t => some (t.text ' ')
  | _ => none

/-- A literal is a text in quotes or a number, and that of null is `NULL`. -/
theorem literal?_forms {v : Value} {sql : String} (h : v.literal? = some sql) :
    (∃ text, v.quotedText? = some text ∧ sql = Literal.ofChars text) ∨
      v.quotedText? = none ∧ (v = .null ∧ sql = "NULL" ∨
        Numeric sql.toList ∧ ∃ c ∈ sql.toList, c.isDigit = true) := by
  have hsigned : ∀ {text : List Char} (negative : Bool), Numeric text →
      (∃ c ∈ text, c.isDigit = true) → Numeric (Number.signed negative text) ∧
        ∃ c ∈ Number.signed negative text, c.isDigit = true := by
    rintro text negative hnumeric ⟨c, hc, hdigit⟩
    refine ⟨hnumeric.signed negative, c, ?_, hdigit⟩
    cases negative with
    | false => exact hc
    | true => exact List.mem_cons_of_mem _ hc
  cases v with
  | null =>
    cases h
    exact .inr ⟨rfl, .inl ⟨rfl, rfl⟩⟩
  | bool b =>
    cases b <;> cases h <;>
      exact .inr ⟨rfl, .inr ⟨by decide, List.any_eq_true.mp (by decide)⟩⟩
  | int n =>
    obtain rfl := Option.some.inj h
    have hdigits := Number.allDigits_digits n.toInt.natAbs
    obtain ⟨c, hc⟩ := List.exists_mem_of_ne_nil _ (Number.digits_ne_nil n.toInt.natAbs)
    rw [Number.ofInt, String.toList_ofList]
    exact .inr ⟨rfl, .inr (hsigned _ (.ofAllDigits hdigits) ⟨c, hc, hdigits c hc⟩)⟩
  | float x =>
    rw [literal?] at h
    split at h
    · next hfinite =>
      obtain rfl := Option.some.inj h
      have hnumber : x.isNaN = false := by
        simp only [Number.Double.isFinite, bne_iff_ne] at hfinite
        simp [Number.Double.isNaN, hfinite]
      rw [Number.Double.toText, String.toList_ofList, Number.Double.text, hnumber,
        if_neg Bool.false_ne_true, if_pos hfinite]
      exact .inr ⟨rfl, .inr (hsigned _ (numeric_fixedPoint _ _) (exists_digit_fixedPoint _ _))⟩
    · cases h
  | decimal d =>
    obtain rfl := Option.some.inj h
    rw [Number.Decimal.toText, String.toList_ofList, Number.Decimal.text]
    exact .inr ⟨rfl, .inr (hsigned _ (numeric_fixedPoint _ _) (exists_digit_fixedPoint _ _))⟩
  | date d => exact .inl ⟨_, rfl, (Option.some.inj h).symm⟩
  | time t => exact .inl ⟨_, rfl, (Option.some.inj h).symm⟩
  | dateTime t => exact .inl ⟨_, rfl, (Option.some.inj h).symm⟩
  | text s => exact .inl ⟨_, rfl, (Option.some.inj h).symm⟩
  | binary bytes => cases h

end Anywhere.Value
