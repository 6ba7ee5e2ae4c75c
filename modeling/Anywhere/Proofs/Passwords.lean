import Anywhere.CommandLine.Run
import Anywhere.Proofs.ConnectionText

/-!
# Passwords that are shown

The settings are written as a connection string, which is read again to find the parameter whose
value is a password, and is shown with a mask in its place. So a password is concealed as far as it
is read as one value. What stands behind a separator in it is read as parameters of its own, which
are shown like all the others, or cannot be read, which is seen as well.

This is all there is: two passwords lead to the same output and the same exit code exactly if they
*spill* the same, unless the connection string cannot be read whatever the password is
(`CommandLine.seen_connstr_eq_iff`). A password without separators spills nothing.
-/

namespace Anywhere

open Text

namespace ConnectionString

/-! ## Parameters that are shown -/

/-- Parameters as they are shown once they are written and read again. -/
def shown? (parameters : List (String × String)) : Option (List (String × String)) :=
  (parameters.flatMapM reread).map (List.map masked)

/-- What is shown of a password behind its mask: what stands behind its first separator, read as
parameters. -/
def spill? (password : String) : Option (List (String × String)) :=
  ((password.toList.splitOn ';').tail.flatMapM ofSegment?).map (List.map masked)

theorem shown?_append (front back : List (String × String)) :
    shown? (front ++ back) = do
      let shown ← shown? front
      return shown ++ (← shown? back) := by
  rw [shown?, shown?, shown?, flatMapM_append]
  cases front.flatMapM reread <;> cases back.flatMapM reread <;> simp

/-- **A password is shown as the mask and what it spills.** -/
theorem shown?_password (password : String) :
    shown? [("Password", password)] = (spill? password).map (("Password", mask) :: ·) := by
  have hname : TidyName "Password" := by decide
  have hseparator : ';' ∉ "Password".toList ++ ['='] := by decide
  have htext : (entryText ("Password", password)).toList
      = ("Password".toList ++ ['=']) ++ password.toList := by simp [toList_entryText]
  have hfirst : ofSegment? ("Password".toList ++ ['='] ++ segment password.toList)
      = some [("Password", String.ofList (stripBlanks (segment password.toList)))] := by
    rw [List.append_assoc]
    exact hname.ofSegment? fun c => List.mem_takeWhile_imp
  have hmasked (value : String) : masked ("Password", value) = ("Password", mask) := by
    have hsecret : isSecret "Password" = true := by decide
    rw [masked, if_pos hsecret]
  obtain ⟨rest, hrest⟩ : ∃ rest, password.toList.splitOn ';' = segment password.toList :: rest :=
    ⟨_, splitOn_eq_cons _⟩
  rw [shown?, spill?, List.flatMapM_cons, List.flatMapM_nil, reread, htext,
    splitOn_append_of_not_mem hseparator, hrest, List.modifyHead_cons, List.tail_cons,
    List.flatMapM_cons, hfirst]
  cases rest.flatMapM ofSegment? with
  | none => rfl
  | some parameters => simp [hmasked]

/-- A password without separators spills nothing. -/
theorem spill?_of_not_mem {password : String} (h : ';' ∉ password.toList) :
    spill? password = some [] := by
  rw [spill?, List.splitOn_eq_singleton h]
  rfl

theorem Tidy.masked {parameter : String × String} (h : Tidy parameter) :
    Tidy (masked parameter) := by
  have hmask : TidyValue mask := by decide
  refine ⟨h.name, ?_⟩
  change TidyValue (if isSecret parameter.1 then mask else parameter.2)
  split
  · exact hmask
  · exact h.value

theorem tidy_of_shown? {parameters shown : List (String × String)}
    (h : shown? parameters = some shown) : ∀ parameter ∈ shown, Tidy parameter := by
  obtain ⟨parameters', hread, rfl⟩ := Option.map_eq_some_iff.mp h
  have htidy : ∀ parameter ∈ parameters', Tidy parameter :=
    forall_mem_of_flatMapM hread fun _ _ _ hreread =>
      forall_mem_of_flatMapM hreread fun _ _ _ => tidy_of_ofSegment?
  exact List.forall_mem_map.mpr fun parameter hparameter => (htidy parameter hparameter).masked

/-- Tidy parameters are told apart by how they are written. -/
theorem toText_inj {ps qs : List (String × String)} (hps : ∀ p ∈ ps, Tidy p)
    (hqs : ∀ q ∈ qs, Tidy q) (h : toText ⟨ps⟩ = toText ⟨qs⟩) : ps = qs := by
  have hsame : ofText? (toText ⟨ps⟩) = ofText? (toText ⟨qs⟩) := congrArg ofText? h
  rw [ofText?_toText hps, ofText?_toText hqs] at hsame
  cases hsame
  rfl

theorem toOption_maskedText (parameters : List (String × String)) :
    ((ofText? (toText ⟨parameters⟩)).map maskedText).toOption
      = (shown? parameters).map fun shown => toText ⟨shown⟩ := by
  have hread := toOption_ofText?_toText parameters
  cases hresult : ofText? (toText ⟨parameters⟩) with
  | error fault =>
    rw [hresult] at hread
    rw [shown?, Option.map_eq_none_iff.mp hread.symm]
    rfl
  | ok s =>
    rw [hresult] at hread
    obtain ⟨parameters', hreread, rfl⟩ := Option.map_eq_some_iff.mp hread.symm
    rw [shown?, hreread]
    rfl

end ConnectionString

/-! ## Settings with a password -/

namespace Settings

open ConnectionString

/-- The settings with another password. -/
def withPassword (s : Settings) (password : String) : Settings :=
  { s with password := some password }

/-- The settings amount to a connection string that can be read. -/
def Readable (s : Settings) : Prop :=
  ∃ text parameters, s.connectionText = .ok text ∧ ConnectionString.ofText? text = .ok parameters

/-- The parameters in front of the password. -/
def beforePassword (s : Settings) (database : String) : List (String × String) :=
  [("ServerName", s.server.getD database), ("DatabaseName", database),
    ("UserID", s.username.getD defaultUsername)]

/-- The parameters behind the password. -/
def behindPassword (s : Settings) : List (String × String) :=
  (s.commLinks.map ("CommLinks", ·)).toList ++
  (s.connectionName.map ("ConnectionName", ·)).toList ++
  (s.encoding.map ("CharSet", ·)).toList ++ [("Idle", "0")]

variable {s : Settings}

theorem parameters_withPassword (s : Settings) (password database : String) :
    (s.withPassword password).parameters database
      = s.beforePassword database ++ ([("Password", password)] ++ s.behindPassword) := by
  simp [parameters, withPassword, beforePassword, behindPassword]

theorem shown?_parameters (s : Settings) (password database : String) :
    shown? ((s.withPassword password).parameters database) = do
      let front ← shown? (s.beforePassword database)
      let spilled ← spill? password
      let back ← shown? s.behindPassword
      return front ++ ("Password", mask) :: spilled ++ back := by
  rw [parameters_withPassword, shown?_append, shown?_append, shown?_password]
  cases shown? (s.beforePassword database) <;> cases spill? password <;>
    cases shown? s.behindPassword <;> simp

/-- Two passwords look alike if they spill the same, or if nothing is shown for another reason. -/
theorem shown?_parameters_eq_iff (s : Settings) (p q database : String) :
    shown? ((s.withPassword p).parameters database)
        = shown? ((s.withPassword q).parameters database) ↔
      ¬ ((shown? (s.beforePassword database)).isSome ∧ (shown? s.behindPassword).isSome) ∨
        spill? p = spill? q := by
  rw [shown?_parameters, shown?_parameters]
  cases shown? (s.beforePassword database) with
  | none => simp
  | some front =>
    cases shown? s.behindPassword with
    | none => cases spill? p <;> cases spill? q <;> simp
    | some back => cases spill? p <;> cases spill? q <;> simp

/-- The connection string is written unless there is no database to connect to, whatever the
password is. -/
theorem connectionText_withPassword (hown : s.connectionString = none) :
    (∀ password, (s.withPassword password).connectionText = .error (.config .missingDatabase)) ∨
      ∃ database, ∀ password, (s.withPassword password).connectionText
        = .ok (toText ⟨(s.withPassword password).parameters database⟩) := by
  have hown' (password : String) : (s.withPassword password).connectionString = none := hown
  have hdatabase (password : String) : (s.withPassword password).database = s.database := rfl
  simp only [connectionText, hown', hdatabase]
  cases s.database with
  | none => exact .inl fun _ => rfl
  | some database =>
    cases hempty : database.isEmpty with
    | true => exact .inl fun _ => by simp [hempty]
    | false => exact .inr ⟨database, fun _ => by simp [hempty]⟩

/-- The settings can be read with an empty password exactly if everything around the password can
be read. -/
theorem readable_iff {database : String} (h : (s.withPassword "").connectionText
      = .ok (toText ⟨(s.withPassword "").parameters database⟩)) :
    (s.withPassword "").Readable ↔
      (shown? (s.beforePassword database)).isSome ∧ (shown? s.behindPassword).isSome := by
  have hspill : spill? "" = some [] := spill?_of_not_mem (by simp)
  have hshown := toOption_maskedText ((s.withPassword "").parameters database)
  rw [shown?_parameters, hspill] at hshown
  have hread : (s.withPassword "").Readable ↔
      (((ConnectionString.ofText? (toText ⟨(s.withPassword "").parameters database⟩)).map
        maskedText).toOption).isSome := by
    rw [Readable, h]
    cases hresult : ConnectionString.ofText?
        (toText ⟨(s.withPassword "").parameters database⟩) with
    | error fault => simp [hresult, Except.map, Except.toOption]
    | ok parameters => simp [hresult, Except.map, Except.toOption]
  rw [hread, hshown]
  cases shown? (s.beforePassword database) <;> cases shown? s.behindPassword <;> simp

end Settings

/-! ## What the command shows -/

namespace CommandLine

open ConnectionString

/-- What is seen of a command from outside. -/
def Result.seen (r : Result) : Nat × String := (r.code, r.output)

/-- The settings that a command finds, in a file that is named or in the usual places. -/
def Surroundings.settings? (around : Surroundings) : Option String → Except Fault Settings
  | some path => loadSettings around path
  | none => findSettings around

/-- What is seen once there is a text to show. -/
def shownText (s : Settings) (text : String) : Result :=
  .after (lines [text]) s.encoding? fun encoding =>
    .good (lines (text :: (encoding.map fun e => "Encoding: " ++ encodingName e).toList))

theorem lines_inj {text text' : String} {rest : List String}
    (h : lines (text :: rest) = lines (text' :: rest)) : text = text' := by
  simpa [lines] using h

theorem lines_ne_empty (text : String) (rest : List String) : lines (text :: rest) ≠ "" := by
  simp [lines]

/-- The text is printed first, and what comes behind it has nothing to do with it. -/
theorem exists_output_shownText (s : Settings) :
    ∃ rest, ∀ text, (shownText s text).output = lines (text :: rest) := by
  unfold shownText
  cases s.encoding? with
  | error fault => exact ⟨[], fun _ => rfl⟩
  | ok encoding => exact ⟨_, fun _ => rfl⟩

/-- What is seen of parameters as they are shown, if they can be. -/
def seenOf (s : Settings) : Option (List (String × String)) → Nat × String
  | none => (Result.failed "" "").seen
  | some shown => (shownText s (toText ⟨shown⟩)).seen

/-- What is seen tells the parameters that are shown. -/
theorem seenOf_inj {s : Settings} {ps? qs? : Option (List (String × String))}
    (hps : ∀ ps, ps? = some ps → ∀ p ∈ ps, Tidy p) (hqs : ∀ qs, qs? = some qs → ∀ q ∈ qs, Tidy q)
    (h : seenOf s ps? = seenOf s qs?) : ps? = qs? := by
  obtain ⟨rest, hrest⟩ := exists_output_shownText s
  have houtput : (seenOf s ps?).2 = (seenOf s qs?).2 := congrArg Prod.snd h
  cases ps? with
  | none =>
    cases qs? with
    | none => rfl
    | some qs => exact absurd (houtput.trans (hrest _)).symm (lines_ne_empty _ _)
  | some ps =>
    cases qs? with
    | none => exact absurd ((hrest _).symm.trans houtput) (lines_ne_empty _ _)
    | some qs =>
      have htext := lines_inj ((hrest _).symm.trans (houtput.trans (hrest _)))
      rw [toText_inj (hps ps rfl) (hqs qs rfl) htext]

variable {s : Settings}

/-- **What is seen are the parameters as they are shown.** -/
theorem seen_showSettings {password database : String}
    (htext : (s.withPassword password).connectionText
      = .ok (toText ⟨(s.withPassword password).parameters database⟩)) :
    (showSettings (s.withPassword password) false).seen
      = seenOf s (shown? ((s.withPassword password).parameters database)) := by
  have hmasked := toOption_maskedText ((s.withPassword password).parameters database)
  have hresult : showSettings (s.withPassword password) false
      = .after "" ((ofText? (toText ⟨(s.withPassword password).parameters database⟩)).map
          maskedText) (shownText (s.withPassword password)) := by
    rw [showSettings, htext]
    rfl
  rw [hresult]
  cases hread : (ofText? (toText ⟨(s.withPassword password).parameters database⟩)).map
      maskedText with
  | error fault =>
    rw [hread] at hmasked
    rw [Option.map_eq_none_iff.mp hmasked.symm]
    rfl
  | ok text =>
    rw [hread] at hmasked
    obtain ⟨shown, hshown, rfl⟩ := Option.map_eq_some_iff.mp hmasked.symm
    rw [hshown]
    rfl

theorem seen_showSettings_eq_iff (hown : s.connectionString = none) (p q : String) :
    (showSettings (s.withPassword p) false).seen = (showSettings (s.withPassword q) false).seen ↔
      ¬ (s.withPassword "").Readable ∨ spill? p = spill? q := by
  obtain hnone | ⟨database, htext⟩ := Settings.connectionText_withPassword hown
  · -- without a database the command fails before a password is of concern
    have hfailed (password : String) : showSettings (s.withPassword password) false
        = .failed "" (Fault.config .missingDatabase).message := by
      rw [showSettings, hnone]
      rfl
    have hunreadable : ¬ (s.withPassword "").Readable := by
      rintro ⟨text, _, htext, -⟩
      rw [hnone] at htext
      exact nomatch htext
    rw [hfailed, hfailed]
    simp [hunreadable]
  · rw [seen_showSettings (htext p), seen_showSettings (htext q), Settings.readable_iff (htext ""),
      ← Settings.shown?_parameters_eq_iff]
    exact ⟨seenOf_inj (fun _ => tidy_of_shown?) fun _ => tidy_of_shown?, congrArg (seenOf s)⟩

/-! ### The command -/

theorem connstr_eq (around : Surroundings) (config : Option String) (showPassword : Bool) :
    connstr around config showPassword
      = .after "" (around.settings? config) (showSettings · showPassword) := by
  cases config <;> rfl

variable {around around' : Surroundings} {config config' : Option String} {p q : String}

/-- **A password is concealed up to what it spills.** The command is run twice, with settings that
differ in their password. What is seen is the same exactly if the passwords spill the same, or if
the settings cannot be shown whatever the password is. -/
theorem seen_connstr_eq_iff (hown : s.connectionString = none)
    (hp : around.settings? config = .ok (s.withPassword p))
    (hq : around'.settings? config' = .ok (s.withPassword q)) :
    (connstr around config false).seen = (connstr around' config' false).seen ↔
      ¬ (s.withPassword "").Readable ∨ spill? p = spill? q := by
  rw [connstr_eq, connstr_eq, hp, hq]
  exact seen_showSettings_eq_iff hown p q

/-! ### A password with separators -/

def demoSettings : Settings := { database := some "demo" }

/-- The usual file with the settings, with the given password in it. -/
def demoSurroundings (password : String) : Surroundings where
  input := none
  file path := [("sqlany.toml",
    "[connection]\ndatabase = \"demo\"\npassword = \"" ++ password ++ "\"\n")].lookup path
  userSettings := none

/-- What is spilled here is masked by itself. -/
theorem seen_connstr_repeated :
    (demoSurroundings "s3;PWD=cret").settings? none
        = .ok (demoSettings.withPassword "s3;PWD=cret") ∧
      (demoSurroundings "other;PWD=key").settings? none
        = .ok (demoSettings.withPassword "other;PWD=key") ∧
      (connstr (demoSurroundings "s3;PWD=cret") none false).seen
        = (connstr (demoSurroundings "other;PWD=key") none false).seen := by
  have hp : (demoSurroundings "s3;PWD=cret").settings? none
      = .ok (demoSettings.withPassword "s3;PWD=cret") := by decide +kernel
  have hq : (demoSurroundings "other;PWD=key").settings? none
      = .ok (demoSettings.withPassword "other;PWD=key") := by decide +kernel
  have hspill : spill? "s3;PWD=cret" = spill? "other;PWD=key" := by decide +kernel
  exact ⟨hp, hq, (seen_connstr_eq_iff rfl hp hq).mpr (.inr hspill)⟩

/-- A part of the password is shown, as a parameter behind the mask. -/
theorem seen_connstr_spilled_ne :
    (demoSurroundings "s3;cret=key").settings? none
        = .ok (demoSettings.withPassword "s3;cret=key") ∧
      (demoSurroundings "plain").settings? none = .ok (demoSettings.withPassword "plain") ∧
      (connstr (demoSurroundings "s3;cret=key") none false).output
        = "ServerName=demo;DatabaseName=demo;UserID=dba;Password=********;cret=key;Idle=0\n" ∧
      (connstr (demoSurroundings "s3;cret=key") none false).seen
        ≠ (connstr (demoSurroundings "plain") none false).seen := by
  have hp : (demoSurroundings "s3;cret=key").settings? none
      = .ok (demoSettings.withPassword "s3;cret=key") := by decide +kernel
  have hq : (demoSurroundings "plain").settings? none
      = .ok (demoSettings.withPassword "plain") := by decide +kernel
  refine ⟨hp, hq, ?_, ?_⟩
  · rw [connstr_eq, hp]
    decide +kernel
  · rw [connstr_eq, connstr_eq, hp, hq]
    decide +kernel

end CommandLine

end Anywhere
