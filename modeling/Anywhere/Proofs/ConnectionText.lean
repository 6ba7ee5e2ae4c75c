import Anywhere.Client.Script
import Anywhere.Proofs.CharacterSets
import Anywhere.Session.Basic

/-!
# Connection strings that are read again

A connection string is read from left to right, and a position is kept for what may go wrong. What
it amounts to does not depend on that: it can be read off its segments, the texts between the
separators, each by itself (`ConnectionString.toOption_ofText?`). So what parameters are read as
once they are written can be said of each parameter by itself, too, whatever its value holds.

Parameters that are *tidy* are read as they were written, and all parameters that were ever read are
tidy. The settings amount to tidy parameters if no setting holds a separator or has white space at
its ends, and then settings, connection string and session agree
(`Session.settings_agree`).
-/

namespace Anywhere

open Text

/-! ## Lists of lists -/

section FlatMap

variable {α β γ : Type}

theorem flatMapM_append (f : α → Option (List β)) (front back : List α) :
    (front ++ back).flatMapM f = do
      let bs ← front.flatMapM f
      return bs ++ (← back.flatMapM f) := by
  induction front with
  | nil => simp
  | cons a front ih => simp [ih, Option.bind_assoc]

theorem flatMapM_flatMap (f : β → Option (List γ)) (g : α → List β) (as : List α) :
    (as.flatMap g).flatMapM f = as.flatMapM fun a => (g a).flatMapM f := by
  induction as with
  | nil => rfl
  | cons a as ih => rw [List.flatMap_cons, flatMapM_append, ih, List.flatMapM_cons]

theorem forall_mem_of_flatMapM {f : α → Option (List β)} {P : β → Prop} {as : List α} {bs : List β}
    (h : as.flatMapM f = some bs) (hf : ∀ a ∈ as, ∀ bs, f a = some bs → ∀ b ∈ bs, P b) :
    ∀ b ∈ bs, P b := by
  induction as generalizing bs with
  | nil =>
    cases h
    exact List.forall_mem_nil P
  | cons a as ih =>
    rw [List.flatMapM_cons] at h
    obtain ⟨front, hfront, h⟩ := Option.bind_eq_some_iff.mp h
    obtain ⟨back, hback, h⟩ := Option.bind_eq_some_iff.mp h
    cases h
    rw [List.forall_mem_append]
    exact ⟨hf a List.mem_cons_self front hfront,
      ih hback fun a' ha' => hf a' (List.mem_cons_of_mem a ha')⟩

end FlatMap

/-- A separator ends a segment wherever it stands, inside of the texts or between them. -/
theorem splitOn_intercalate_eq_flatMap (separator : Char) (texts : List (List Char))
    (hne : texts ≠ []) :
    ([separator].intercalate texts).splitOn separator = texts.flatMap (·.splitOn separator) := by
  induction texts with
  | nil => exact absurd rfl hne
  | cons text rest ih =>
    cases rest with
    | nil => simp [List.intercalate]
    | cons next rest =>
      have hrest := ih (List.cons_ne_nil next rest)
      rw [List.intercalate_cons_cons, List.append_assoc, List.singleton_append,
        List.splitOn_append_cons_self, hrest]
      rfl

/-- What stands in front of the first separator belongs to the first segment. -/
theorem splitOn_append_of_not_mem {separator : Char} {front : List Char} (h : separator ∉ front)
    (text : List Char) :
    (front ++ text).splitOn separator = (text.splitOn separator).modifyHead (front ++ ·) := by
  induction front with
  | nil =>
    change _ = List.modifyHead id _
    rw [List.modifyHead_id]
    rfl
  | cons c front ih =>
    rw [List.mem_cons, not_or] at h
    have hc : ¬ (c == separator) = true := by simpa using Ne.symm h.1
    rw [List.cons_append, List.splitOn_cons_eq_if_modifyHead, if_neg hc, ih h.2,
      List.modifyHead_modifyHead]
    rfl

namespace ConnectionString

/-! ## Segments -/

/-- The parameters in a segment, which is a text without separators: none if it is empty, or else
one, if it can be read. -/
def ofSegment? (segment : List Char) : Option (List (String × String)) :=
  if segment.isEmpty then some []
  else do
    let (name, value) ← pair? segment
    if (stripBlanks name).isEmpty then none
    else some [(String.ofList (stripBlanks name), String.ofList (stripBlanks value))]

/-- A name ends where the segment ends, at the latest. -/
theorem isValueChar_of_isNameChar {c : Char} (h : isNameChar c = true) : isValueChar c = true := by
  rw [isNameChar, Bool.and_eq_true] at h
  exact h.2

theorem takeWhile_segment (text : List Char) :
    (segment text).takeWhile isNameChar = text.takeWhile isNameChar := by
  rw [segment, List.takeWhile_takeWhile]
  congr 1
  funext c
  simpa using isValueChar_of_isNameChar

theorem dropWhile_segment (text : List Char) :
    (segment text).dropWhile isNameChar = segment (text.dropWhile isNameChar) := by
  induction text with
  | nil => rfl
  | cons c rest ih =>
    cases hname : isNameChar c with
    | true =>
      have hvalue := isValueChar_of_isNameChar hname
      rw [segment, List.takeWhile_cons_of_pos hvalue, List.dropWhile_cons_of_pos hname,
        List.dropWhile_cons_of_pos hname]
      exact ih
    | false =>
      have hstop : (c :: rest).dropWhile isNameChar = c :: rest :=
        List.dropWhile_cons_of_neg (by simp [hname])
      rw [hstop, segment, List.takeWhile_cons]
      split
      · exact List.dropWhile_cons_of_neg (by simp [hname])
      · rfl

/-- The entry at the front of a text is that of its first segment. -/
theorem pair?_segment (text : List Char) : pair? (segment text) = pair? text := by
  rw [pair?, pair?, takeWhile_segment, dropWhile_segment]
  cases text.takeWhile isNameChar with
  | nil => rfl
  | cons first name =>
    cases text.dropWhile isNameChar with
    | nil => rfl
    | cons c rest =>
      -- what is not read as part of a name is an equals sign or the next separator
      by_cases hc : c = '='
      · subst hc
        have hvalue : segment ('=' :: rest) = '=' :: segment rest := rfl
        rw [hvalue]
        simp only [segment, List.takeWhile_idem]
      · rw [segment, List.takeWhile_cons]
        cases isValueChar c with
        | true => simp [hc]
        | false => simp [hc]

/-- Behind the first segment of a text the others follow. -/
theorem splitOn_eq_cons (text : List Char) :
    text.splitOn ';' = segment text ::
      match text.dropWhile isValueChar with
      | [] => []
      | _ :: rest => rest.splitOn ';' := by
  induction text with
  | nil => rfl
  | cons c rest ih =>
    rw [List.splitOn_cons_eq_if_modifyHead]
    by_cases hc : c = ';'
    · subst hc
      rfl
    · have hvalue : isValueChar c = true := by simpa [isValueChar] using hc
      have hfirst : segment (c :: rest) = c :: segment rest := List.takeWhile_cons_of_pos hvalue
      rw [if_neg (by simpa using hc), ih, hfirst, List.dropWhile_cons_of_pos hvalue]
      rfl

/-- A segment ends in front of a separator. -/
theorem eq_separator_of_dropWhile {text rest : List Char} {c : Char}
    (h : text.dropWhile isValueChar = c :: rest) : c = ';' := by
  have hstop := List.dropWhile_get_zero_not isValueChar text (by simp [h])
  simpa [h, isValueChar] using hstop

/-- The first segment is read, and then what follows it. -/
theorem flatMapM_splitOn (text : List Char) :
    (text.splitOn ';').flatMapM ofSegment? = do
      let first ← ofSegment? (segment text)
      return first ++
        (← ((text.dropWhile isValueChar).splitOn ';').flatMapM ofSegment?) := by
  have hnone : ofSegment? [] = some [] := rfl
  rw [splitOn_eq_cons, List.flatMapM_cons]
  cases hrest : text.dropWhile isValueChar with
  | nil => simp [hnone]
  | cons c rest =>
    rw [eq_separator_of_dropWhile hrest, List.splitOn_cons_eq_if_modifyHead,
      if_pos (beq_self_eq_true _), List.flatMapM_cons, hnone]
    simp

/-- A segment that is not empty has to be an entry. -/
theorem ofSegment?_segment {c : Char} {rest : List Char} (hc : c ≠ ';') :
    ofSegment? (segment (c :: rest)) = (pair? (c :: rest)).bind fun (name, value) =>
      if (stripBlanks name).isEmpty then none
      else some [(String.ofList (stripBlanks name), String.ofList (stripBlanks value))] := by
  have hvalue : isValueChar c = true := by simpa [isValueChar] using hc
  have hfirst : segment (c :: rest) = c :: segment rest := List.takeWhile_cons_of_pos hvalue
  rw [ofSegment?, pair?_segment, hfirst]
  rfl

/-- The position is of no concern for what is read. -/
theorem toOption_readFrom (position : Nat) (text : List Char) :
    (readFrom position text).toOption = (text.splitOn ';').flatMapM ofSegment? := by
  fun_induction readFrom position text with
  | case1 => rfl
  | case2 position rest ih =>
    rw [ih, List.splitOn_cons_eq_if_modifyHead, if_pos (beq_self_eq_true _), List.flatMapM_cons]
    simp [ofSegment?]
  | case3 position c rest hc hpair =>
    rw [flatMapM_splitOn, ofSegment?_segment hc, hpair]
    rfl
  | case4 position c rest hc name value hpair hblank =>
    rw [flatMapM_splitOn, ofSegment?_segment hc, hpair]
    simp [hblank]
    rfl
  | case5 position c rest hc name value hpair next hname ih =>
    have hvalue : isValueChar c = true := by simpa [isValueChar] using hc
    have hnamed : (stripBlanks name).isEmpty = false := by simpa using hname
    rw [flatMapM_splitOn, ofSegment?_segment hc, hpair, List.dropWhile_cons_of_pos hvalue, ← ih]
    simp only [Option.bind_eq_bind, Option.bind_some, hnamed]
    cases readFrom next (rest.dropWhile isValueChar) with
    | error fault => rfl
    | ok parameters => rfl

/-- **A connection string is read segment by segment.** -/
theorem toOption_ofText? (text : String) :
    (ofText? text).toOption = ((text.toList.splitOn ';').flatMapM ofSegment?).map mk := by
  rw [ofText?, ← toOption_readFrom 0]
  cases readFrom 0 text.toList with
  | error fault => rfl
  | ok parameters => rfl

/-! ## Parameters that are written and read -/

/-- A name that is read as it is written. -/
structure TidyName (name : String) : Prop where
  nonempty : name.toList ≠ []
  char : ∀ c ∈ name.toList, isNameChar c = true
  strip : stripBlanks name.toList = name.toList

/-- A value that is read as it is written. -/
structure TidyValue (value : String) : Prop where
  char : ∀ c ∈ value.toList, isValueChar c = true
  strip : stripBlanks value.toList = value.toList

/-- A parameter that is read as it is written. -/
structure Tidy (parameter : String × String) : Prop where
  name : TidyName parameter.1
  value : TidyValue parameter.2

instance (name : String) : Decidable (TidyName name) :=
  decidable_of_iff
    (name.toList ≠ [] ∧ name.toList.all isNameChar = true ∧ stripBlanks name.toList = name.toList)
    ⟨fun h => ⟨h.1, List.all_eq_true.mp h.2.1, h.2.2⟩,
      fun h => ⟨h.nonempty, List.all_eq_true.mpr h.char, h.strip⟩⟩

instance (value : String) : Decidable (TidyValue value) :=
  decidable_of_iff
    (value.toList.all isValueChar = true ∧ stripBlanks value.toList = value.toList)
    ⟨fun h => ⟨List.all_eq_true.mp h.1, h.2⟩, fun h => ⟨List.all_eq_true.mpr h.char, h.strip⟩⟩

theorem toList_entryText (parameter : String × String) :
    (entryText parameter).toList = parameter.1.toList ++ '=' :: parameter.2.toList := by
  simp [entryText]

/-- A name ends with the first equals sign. -/
theorem pair?_append {name : List Char} (hne : name ≠ [])
    (hname : ∀ c ∈ name, isNameChar c = true) (rest : List Char) :
    pair? (name ++ '=' :: rest) = some (name, segment rest) := by
  have hstop : ¬ isNameChar '=' = true := by decide
  rw [pair?, List.takeWhile_append_of_pos hname, List.dropWhile_append_of_pos hname,
    List.takeWhile_cons_of_neg hstop, List.dropWhile_cons_of_neg hstop, List.append_nil]
  obtain ⟨c, name, rfl⟩ := List.exists_cons_of_ne_nil hne
  rfl

theorem chars_of_pair? {text name value : List Char} (h : pair? text = some (name, value)) :
    (∀ c ∈ name, isNameChar c = true) ∧ ∀ c ∈ value, isValueChar c = true := by
  have hname : ∀ c ∈ text.takeWhile isNameChar, isNameChar c = true :=
    fun c => List.mem_takeWhile_imp
  unfold pair? at h
  split at h
  · next first rest hread _ =>
    cases h
    rw [hread] at hname
    exact ⟨hname, fun c => List.mem_takeWhile_imp⟩
  · exact nomatch h

/-- **What was read is tidy.** -/
theorem tidy_of_ofSegment? {segment : List Char} {parameters : List (String × String)}
    (h : ofSegment? segment = some parameters) : ∀ parameter ∈ parameters, Tidy parameter := by
  unfold ofSegment? at h
  split at h
  · cases h
    exact List.forall_mem_nil Tidy
  · obtain ⟨⟨name, value⟩, hpair, h⟩ := Option.bind_eq_some_iff.mp h
    obtain ⟨hname, hvalue⟩ := chars_of_pair? hpair
    dsimp only at h
    split at h
    · exact nomatch h
    · next hne =>
      cases h
      rw [List.forall_mem_singleton]
      refine ⟨⟨?_, ?_, ?_⟩, ?_, ?_⟩ <;> rw [String.toList_ofList]
      · simpa using hne
      · exact fun c hc => hname c (mem_of_mem_stripBlanks hc)
      · exact stripBlanks_stripBlanks name
      · exact fun c hc => hvalue c (mem_of_mem_stripBlanks hc)
      · exact stripBlanks_stripBlanks value

/-- What a parameter is read as once it is written: itself, if it is tidy, and else perhaps several
parameters, or nothing that can be read. -/
def reread (parameter : String × String) : Option (List (String × String)) :=
  ((entryText parameter).toList.splitOn ';').flatMapM ofSegment?

/-- A segment that begins with a tidy name and an equals sign. -/
theorem TidyName.ofSegment? {name : String} (h : TidyName name) {value : List Char}
    (hvalue : ∀ c ∈ value, isValueChar c = true) :
    ofSegment? (name.toList ++ '=' :: value)
      = some [(name, String.ofList (stripBlanks value))] := by
  have hsegment : segment value = value := List.takeWhile_eq_self_iff.mpr hvalue
  rw [ConnectionString.ofSegment?, pair?_append h.nonempty h.char, hsegment]
  simp [h.strip, h.nonempty]

theorem Tidy.reread {parameter : String × String} (h : Tidy parameter) :
    reread parameter = some [parameter] := by
  obtain ⟨name, value⟩ := parameter
  have hsegment : ';' ∉ name.toList ++ '=' :: value.toList := by
    rw [List.mem_append, List.mem_cons]
    rintro (hname | heq | hvalue)
    · exact absurd (h.name.char ';' hname) (by decide)
    · exact absurd heq (by decide)
    · exact absurd (h.value.char ';' hvalue) (by decide)
  rw [ConnectionString.reread, toList_entryText, List.splitOn_eq_singleton hsegment,
    List.flatMapM_cons, List.flatMapM_nil, h.name.ofSegment? h.value.char, h.value.strip]
  simp

/-- **What parameters are read as is said by each of them.** -/
theorem toOption_ofText?_toText (parameters : List (String × String)) :
    (ofText? (toText ⟨parameters⟩)).toOption = (parameters.flatMapM reread).map mk := by
  rw [toOption_ofText?, toText, String.toList_intercalate]
  cases parameters with
  | nil => rfl
  | cons parameter rest =>
    have hsegments := splitOn_intercalate_eq_flatMap ';'
      (((parameter :: rest).map entryText).map String.toList) (by simp)
    have hseparator : ";".toList = [';'] := rfl
    rw [hseparator, hsegments, List.map_map, List.flatMap_map, flatMapM_flatMap]
    rfl

/-- **Tidy parameters are read as they were written.** -/
theorem ofText?_toText {parameters : List (String × String)} (h : ∀ p ∈ parameters, Tidy p) :
    ofText? (toText ⟨parameters⟩) = .ok ⟨parameters⟩ := by
  have hread : parameters.flatMapM reread = some parameters := by
    induction parameters with
    | nil => rfl
    | cons parameter rest ih =>
      rw [List.forall_mem_cons] at h
      rw [List.flatMapM_cons, h.1.reread, ih h.2]
      rfl
  have htext := toOption_ofText?_toText parameters
  rw [hread] at htext
  cases hresult : ofText? (toText ⟨parameters⟩) with
  | error fault =>
    rw [hresult] at htext
    exact nomatch htext
  | ok s =>
    rw [hresult] at htext
    cases htext
    rfl

end ConnectionString

/-! ## Settings -/

namespace Settings

open ConnectionString

/-- What is set that goes into a connection string. -/
def fields (s : Settings) : List String :=
  [s.database, s.server, s.username, s.password, s.commLinks, s.connectionName,
    s.encoding].filterMap id

/-- A setting without separators and without white space at its ends. -/
structure Plain (field : String) : Prop where
  separator : ';' ∉ field.toList
  first : ∀ c ∈ field.toList.head?, isBlank c = false
  last : ∀ c ∈ field.toList.getLast?, isBlank c = false

theorem all_not_isBlank {c? : Option Char} :
    c?.all (!isBlank ·) = true ↔ ∀ c ∈ c?, isBlank c = false := by
  cases c? <;> simp

instance (field : String) : Decidable (Plain field) :=
  decidable_of_iff
    (';' ∉ field.toList ∧ field.toList.head?.all (!isBlank ·) = true ∧
      field.toList.getLast?.all (!isBlank ·) = true)
    ⟨fun h => ⟨h.1, all_not_isBlank.mp h.2.1, all_not_isBlank.mp h.2.2⟩,
      fun h => ⟨h.separator, all_not_isBlank.mpr h.first, all_not_isBlank.mpr h.last⟩⟩

theorem Plain.tidyValue {field : String} (h : Plain field) : TidyValue field where
  char := by
    intro c hc
    have hne : c ≠ ';' := fun heq => h.separator (heq ▸ hc)
    simpa [isValueChar] using hne
  strip := by
    by_cases hne : field.toList = []
    · rw [hne]
      rfl
    · exact stripBlanks_eq_self hne (h.first _ (List.head?_eq_some_head hne))
        (h.last _ (List.getLast?_eq_some_getLast hne))

section Parameters

variable {s : Settings}

theorem plain_of_fields (h : ∀ field ∈ s.fields, Plain field) {setting : Option String}
    (hsetting : setting ∈ [s.database, s.server, s.username, s.password, s.commLinks,
      s.connectionName, s.encoding]) : ∀ field ∈ setting, Plain field := by
  intro field hfield
  exact h field (List.mem_filterMap.mpr ⟨setting, hsetting, hfield⟩)

/-- A setting that may be missing and has something in its place then. -/
theorem tidy_getD {name instead : String} {setting : Option String} (hname : TidyName name)
    (h : ∀ field ∈ setting, Plain field) (hinstead : Plain instead) :
    Tidy (name, setting.getD instead) := by
  cases setting with
  | none => exact ⟨hname, hinstead.tidyValue⟩
  | some field => exact ⟨hname, (h field rfl).tidyValue⟩

/-- A setting that may be missing. -/
theorem tidy_of_mem_toList {name : String} {setting : Option String} (hname : TidyName name)
    (h : ∀ field ∈ setting, Plain field) :
    ∀ parameter ∈ (setting.map (name, ·)).toList, Tidy parameter := by
  cases setting with
  | none => exact List.forall_mem_nil Tidy
  | some field => exact List.forall_mem_singleton.mpr ⟨hname, (h field rfl).tidyValue⟩

/-- **Plain settings amount to tidy parameters.** -/
theorem tidy_parameters {database : String} (hdatabase : s.database = some database)
    (h : ∀ field ∈ s.fields, Plain field) :
    ∀ parameter ∈ s.parameters database, Tidy parameter := by
  have hset : ∀ field ∈ s.database, Plain field := plain_of_fields h (by simp)
  have hplain : Plain database := hset database hdatabase
  have hserver : Tidy ("ServerName", s.server.getD database) :=
    tidy_getD (by decide) (plain_of_fields h (by simp)) hplain
  have husername : Tidy ("UserID", s.username.getD defaultUsername) :=
    tidy_getD (by decide) (plain_of_fields h (by simp)) (by decide)
  have hpassword : Tidy ("Password", s.password.getD defaultPassword) :=
    tidy_getD (by decide) (plain_of_fields h (by simp)) (by decide)
  have hname : TidyName "DatabaseName" := by decide
  have hidle : Tidy ("Idle", "0") := ⟨by decide, by decide⟩
  simp only [parameters, List.forall_mem_append, List.forall_mem_cons, and_assoc]
  exact ⟨hserver, ⟨hname, hplain.tidyValue⟩, husername, hpassword, List.forall_mem_nil Tidy,
    tidy_of_mem_toList (by decide) (plain_of_fields h (by simp)),
    tidy_of_mem_toList (by decide) (plain_of_fields h (by simp)),
    tidy_of_mem_toList (by decide) (plain_of_fields h (by simp)), hidle, List.forall_mem_nil Tidy⟩

end Parameters

/-- No other parameter of the settings passes for the character set. -/
theorem charset?_parameters (s : Settings) (database : String) :
    ConnectionString.charset? ⟨s.parameters database⟩ = s.encoding := by
  have hserver : eqIgnoringCase "ServerName" "CharSet" = false := by decide
  have hdatabase : eqIgnoringCase "DatabaseName" "CharSet" = false := by decide
  have husername : eqIgnoringCase "UserID" "CharSet" = false := by decide
  have hpassword : eqIgnoringCase "Password" "CharSet" = false := by decide
  have hlinks : eqIgnoringCase "CommLinks" "CharSet" = false := by decide
  have hname : eqIgnoringCase "ConnectionName" "CharSet" = false := by decide
  have hidle : eqIgnoringCase "Idle" "CharSet" = false := by decide
  cases hl : s.commLinks <;> cases hn : s.connectionName <;> cases he : s.encoding <;>
    simp [ConnectionString.charset?, get?, parameters, *]

end Settings

/-! ## Sessions -/

namespace Session

open Anywhere.Action

variable {σ κ η : Type} (client : Client σ κ η)

/-- The step has no say in the encoding of the session. -/
def KeepsEncoding (x : Step σ κ α) : Prop :=
  ∀ p : Session κ × σ, (x p).2.1.encoding = p.1.encoding

namespace KeepsEncoding

theorem pure (a : α) : KeepsEncoding (pure a : Step σ κ α) := fun _ => rfl

theorem throw (fault : Fault) : KeepsEncoding (throw fault : Step σ κ α) := fun _ => rfl

theorem track : KeepsEncoding (Operation.track : Step σ κ (Session κ)) := fun _ => rfl

theorem ask (call : Call κ η) :
    KeepsEncoding (Operation.ask client call : Step σ κ call.Reply) := fun _ => rfl

theorem update {f : Session κ → Session κ}
    (h : ∀ session, (f session).encoding = session.encoding) :
    KeepsEncoding (Operation.update f : Step σ κ Unit) :=
  fun p => h p.1

theorem bind {x : Step σ κ α} {f : α → Step σ κ β} (hx : KeepsEncoding x)
    (hf : ∀ a, KeepsEncoding (f a)) : KeepsEncoding (x >>= f) := by
  intro p
  have hp := hx p
  rw [bind_apply]
  rcases hxp : x p with ⟨fault | a, q⟩ <;> rw [hxp] at hp
  · exact hp
  · exact (hf a q).trans hp

theorem forM {f : α → Step σ κ Unit} (hf : ∀ a, KeepsEncoding (f a)) (as : List α) :
    KeepsEncoding (as.forM f) := by
  induction as with
  | nil => exact .pure ()
  | cons a as ih => exact (hf a).bind fun _ => ih

end KeepsEncoding

theorem setOption_keepsEncoding (sql : String) : KeepsEncoding (setOption client sql) := by
  refine .bind .track fun s => .bind (.ask client _) fun reply => ?_
  split
  · exact .bind (.ask client _) fun _ => .pure ()
  · exact .pure ()

theorem establish_keepsEncoding : KeepsEncoding (establish client) := by
  refine .bind .track fun s => .bind (.ask client _) fun reply => ?_
  have hrest : KeepsEncoding (do
      Operation.update fun s => { s with connected := true, autoCommit := true }
      connectionOptions.forM (setOption client) : Step σ κ Unit) :=
    .bind (.update fun _ => rfl) fun _ => .forM (setOption_keepsEncoding client) _
  split
  · exact .bind (.ask client _) fun _ => .bind (.throw _) fun _ => hrest
  · exact hrest

/-- **A session has the encoding that its connection string asks for.** -/
theorem connect_encoding {text : String} {parameters : ConnectionString}
    (hread : ConnectionString.ofText? text = .ok parameters) {t t' : σ} {session : Session κ}
    (h : connect client text t = (.ok session, t')) :
    session.encoding = encodingOf parameters := by
  obtain ⟨parameters', t₀, hparameters, h⟩ := bind_eq_ok.1 h
  have hsame : parameters' = parameters := by
    have hresult : ConnectionString.ofText? text = .ok parameters' := congrArg Prod.fst hparameters
    exact Except.ok.inj (hresult.symm.trans hread)
  obtain ⟨connection?, t₁, -, h⟩ := bind_eq_ok.1 h
  rw [hsame] at h
  cases connection? with
  | none => exact nomatch congrArg Prod.fst h
  | some connection =>
    -- connecting is the last thing that is done, and the encoding is chosen before
    dsimp only [afterStep] at h
    have hkept := establish_keepsEncoding client
      (⟨connection, text, encodingOf parameters, false, true, 0⟩, t₁)
    split at h
    · next hdone =>
      cases h
      rw [hdone] at hkept
      exact hkept
    · exact nomatch congrArg Prod.fst h

/-- The parameters ask for the encoding that the settings ask for, if that is supported. -/
theorem encodingOf_parameters {s : Settings} {encoding : Option Encoding}
    (hown : s.connectionString = none) (h : s.encoding? = .ok encoding) (database : String) :
    encodingOf ⟨s.parameters database⟩ = encoding.getD .utf8 := by
  have hcharset : s.charset? = .ok s.encoding := by
    rw [Settings.charset?, hown]
    cases s.encoding <;> rfl
  rw [encodingOf, Settings.charset?_parameters]
  rw [Settings.encoding?, hcharset] at h
  cases hset : s.encoding with
  | none =>
    rw [hset] at h
    cases h
    rfl
  | some name =>
    rw [hset] at h
    cases hfound : Encoding.ofCharset? name with
    | none => simp [hfound, bind, Except.bind, throw, throwThe, MonadExceptOf.throw] at h
    | some supported =>
      have hsupported : some supported = encoding := by
        simpa [hfound, bind, Except.bind, pure, Except.pure] using h
      rw [Option.bind_some, hfound, ← hsupported]

/-- **Settings, connection string and session agree.** Plain settings that name a database amount to
a connection string that is read as these settings, in a fixed order and with what stands for those
that are missing. A session that is opened with it has the encoding that the settings ask for, and
UTF-8 if they do not ask for one. -/
theorem settings_agree (client : Client σ κ η) {s : Settings} {database : String}
    (hown : s.connectionString = none) (hdatabase : s.database = some database)
    (hne : database ≠ "") (hplain : ∀ field ∈ s.fields, Settings.Plain field) :
    ∃ text parameters, s.connectionText = .ok text ∧
      ConnectionString.ofText? text = .ok ⟨parameters⟩ ∧
      parameters =
        [("ServerName", s.server.getD database), ("DatabaseName", database),
          ("UserID", s.username.getD "dba"), ("Password", s.password.getD "sql")] ++
        (s.commLinks.map ("CommLinks", ·)).toList ++
        (s.connectionName.map ("ConnectionName", ·)).toList ++
        (s.encoding.map ("CharSet", ·)).toList ++ [("Idle", "0")] ∧
      ∀ encoding, s.encoding? = .ok encoding →
        encodingOf ⟨parameters⟩ = encoding.getD .utf8 ∧
        ∀ t session t', connect client text t = (.ok session, t') →
          session.encoding = encoding.getD .utf8 := by
  have htext : s.connectionText = .ok (ConnectionString.toText ⟨s.parameters database⟩) := by
    have hempty : database.isEmpty = false := by simpa using hne
    simp [Settings.connectionText, hown, hdatabase, hempty]
  have hread := ConnectionString.ofText?_toText (Settings.tidy_parameters hdatabase hplain)
  refine ⟨_, s.parameters database, htext, hread, rfl, fun encoding hencoding => ?_⟩
  have hasked := encodingOf_parameters hown hencoding database
  exact ⟨hasked, fun t session t' hopen => (connect_encoding client hread hopen).trans hasked⟩

/-! ### Settings with an equals sign -/

/-- A password with an equals sign, no user, and a Latin-1 character set. -/
def salesSettings : Settings :=
  { database := some "sales", server := some "srv1", password := some "p=w",
    commLinks := some "tcpip(host=db)", encoding := some "iso_1" }

theorem settings_agree_sales :
    salesSettings.connectionString = none ∧ salesSettings.database = some "sales" ∧
      "sales" ≠ "" ∧ (∀ field ∈ salesSettings.fields, Settings.Plain field) ∧
      ∃ text, salesSettings.connectionText = .ok text ∧
        ConnectionString.ofText? text = .ok
          ⟨[("ServerName", "srv1"), ("DatabaseName", "sales"), ("UserID", "dba"),
            ("Password", "p=w"), ("CommLinks", "tcpip(host=db)"), ("CharSet", "iso_1"),
            ("Idle", "0")]⟩ ∧
        ∃ session t', connect Script.client text (.start [] [] []) = (.ok session, t') ∧
          session.encoding = .latin1 := by
  have hplain : ∀ field ∈ salesSettings.fields, Settings.Plain field := by decide +kernel
  have hdatabase : salesSettings.database = some "sales" := rfl
  obtain ⟨text, parameters, htext, hread, rfl, hagree⟩ :=
    settings_agree Script.client rfl hdatabase (by decide) hplain
  have hencoding : salesSettings.encoding? = .ok (some .latin1) := by decide +kernel
  have hopens : (salesSettings.connectionText.toOption.map fun text =>
      (connect Script.client text (.start [] [] [])).1.isOk) = some true := by
    decide +kernel
  rw [htext] at hopens
  rcases hopen : connect Script.client text (.start [] [] []) with ⟨fault | session, t'⟩
  · rw [Except.toOption, Option.map_some, hopen] at hopens
    exact nomatch hopens
  · exact ⟨rfl, rfl, by decide, hplain, text, htext, hread, session, t', hopen,
      (hagree _ hencoding).2 _ _ _ hopen⟩

end Session

end Anywhere
