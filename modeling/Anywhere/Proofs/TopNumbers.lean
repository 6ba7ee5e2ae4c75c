import Anywhere.Proofs.Grammar

/-!
# The numbers behind `TOP`

A limit gets into SQL text as a number behind the word `TOP`, and whoever reads the text finds it
there again: `Group.topsOfList` goes through the groups that the text is read as, parentheses
included, and lists the numbers behind each `TOP`.

Like groups, these numbers are put together part by part. `Tops` and `LeadsTops` say which ones are
found in a part, as `Spells` and `Leads` do for the groups. Besides they demand that no part ends
with the word `TOP`, so that a number at the beginning of the next part is never taken for a limit.

Text that is handed on as it is could say `TOP` itself. It does not when it is `CapFree`, and neither
does what becomes of it when its case is changed or white space is taken off.
-/

namespace Anywhere

namespace Sql

/-! ## The numbers behind `TOP` -/

namespace Lexeme

/-- The word `TOP`, in whatever case. -/
def isTop : Lexeme → Bool
  | word text => text.map Char.toLower == "top".toList
  | _ => false

/-- The number that a word of digits stands for. -/
def number? : Lexeme → Option Nat
  | word text => Number.nat? text
  | _ => none

theorem IsNumeric.not_top {l : Lexeme} (h : l.IsNumeric) : l.isTop = false := by
  rcases h with ⟨digits, rfl, hdigits⟩ | rfl | rfl
  · rw [isTop, beq_eq_false_iff_ne]
    intro heq
    have ht : 't' ∈ digits.map Char.toLower := by
      rw [heq]
      decide
    obtain ⟨d, hd, hlower⟩ := List.mem_map.mp ht
    -- no digit is a form of a letter
    have hall : ∀ code < 58, 48 ≤ code → (Char.ofNat code).toLower ≠ 't' := by decide
    obtain ⟨hlow, hhigh⟩ := Number.isDigit_iff_toNat.mp (hdigits d hd)
    have hne := hall d.toNat (by omega) hlow
    rw [Char.ofNat_toNat] at hne
    exact hne hlower
  · rfl
  · rfl

end Lexeme

namespace Group

/-- The word `TOP`. -/
def isTop : Group → Bool
  | .lexeme l => l.isTop
  | .parens _ => false

/-- The number that a group stands for. -/
def number? : Group → Option Nat
  | .lexeme l => l.number?
  | .parens _ => none

/-- The number behind a group if the group is the word `TOP`. -/
def top? (g : Group) (behind : List Group) : Option Nat :=
  if g.isTop then behind.head?.bind number? else none

mutual

/-- The numbers behind the word `TOP` in a pair of parentheses. -/
def tops : Group → List Nat
  | .lexeme _ => []
  | .parens inner => topsOfList inner

/-- The numbers behind the word `TOP`, at any depth. -/
def topsOfList : List Group → List Nat
  | [] => []
  | g :: rest => g.tops ++ (g.top? rest).toList ++ topsOfList rest

end

theorem top?_of_not_isTop {g : Group} (h : g.isTop = false) (behind : List Group) :
    g.top? behind = none := by
  rw [top?, h, if_neg Bool.false_ne_true]

theorem topsOfList_cons (g : Group) (rest : List Group) :
    topsOfList (g :: rest) = g.tops ++ (g.top? rest).toList ++ topsOfList rest := rfl

/-- Two sequences have nothing more between them, if the first one does not end with `TOP`. -/
theorem topsOfList_append {gs : List Group} (h : ∀ g ∈ gs.getLast?, g.isTop = false)
    (hs : List Group) : topsOfList (gs ++ hs) = topsOfList gs ++ topsOfList hs := by
  induction gs with
  | nil => rfl
  | cons g gs ih =>
    cases gs with
    | nil =>
      have hg := top?_of_not_isTop (h g rfl)
      simp [topsOfList, hg]
    | cons next gs =>
      have hrest := ih fun last hlast => h last hlast
      have hhead : g.top? (next :: gs ++ hs) = g.top? (next :: gs) := rfl
      rw [List.cons_append, topsOfList_cons g (next :: gs ++ hs), hrest, hhead,
        topsOfList_cons g (next :: gs), List.append_assoc _ _ (topsOfList hs)]

/-- Lexemes that are all something else. -/
theorem topsOfList_eq_nil {gs : List Group} (h : ∀ g ∈ gs, ∃ l, g = .lexeme l ∧ l.isTop = false) :
    topsOfList gs = [] := by
  induction gs with
  | nil => rfl
  | cons g gs ih =>
    obtain ⟨l, rfl, hl⟩ := h g List.mem_cons_self
    have hrest := ih fun g' hg' => h g' (List.mem_cons_of_mem _ hg')
    rw [topsOfList, top?_of_not_isTop (g := .lexeme l) hl, hrest]
    rfl

end Group

/-! ## Texts and their numbers -/

/-- These are the numbers behind `TOP`, and the word itself is not the last group. -/
def Finds (gs : List Group) (ns : List Nat) : Prop :=
  Group.topsOfList gs = ns ∧ ∀ g ∈ gs.getLast?, g.isTop = false

theorem Finds.append {gs hs : List Group} {ns ms : List Nat} (hgs : Finds gs ns)
    (hhs : Finds hs ms) : Finds (gs ++ hs) (ns ++ ms) := by
  refine ⟨by rw [Group.topsOfList_append hgs.2, hgs.1, hhs.1], fun g hg => ?_⟩
  rw [List.getLast?_append] at hg
  cases hlast : hs.getLast? with
  | none =>
    rw [hlast] at hg
    exact hgs.2 g hg
  | some last =>
    rw [hlast] at hg
    exact hhs.2 g (hlast ▸ hg)

/-- Lexemes that are all something else. -/
theorem Finds.nothing {gs : List Group} (h : ∀ g ∈ gs, ∃ l, g = .lexeme l ∧ l.isTop = false) :
    Finds gs [] := by
  refine ⟨Group.topsOfList_eq_nil h, fun g hg => ?_⟩
  obtain ⟨l, rfl, hl⟩ := h g (List.mem_of_getLast? hg)
  exact hl

/-- These numbers are read in the text, unless something follows that goes on with it. -/
def Tops (text : List Char) (ns : List Nat) : Prop := ∃ gs, Spells text gs ∧ Finds gs ns

/-- These numbers are read in the text, whatever follows. -/
def LeadsTops (text : List Char) (ns : List Nat) : Prop := ∃ gs, Leads text gs ∧ Finds gs ns

namespace Tops

variable {a b text : List Char} {ns ms : List Nat}

theorem nil : Tops [] [] := ⟨[], .nil, rfl, nofun⟩

/-- Two texts in a row, the second of which does not go on with the first. -/
theorem append (ha : Tops a ns) (hb : Tops b ms) (hbounded : Bounded b) :
    Tops (a ++ b) (ns ++ ms) := by
  obtain ⟨gs, hspells, hgs⟩ := ha
  obtain ⟨hs, hspells', hhs⟩ := hb
  exact ⟨gs ++ hs, hspells.append hspells' hbounded, hgs.append hhs⟩

theorem lead (ha : LeadsTops a ns) (hb : Tops b ms) : Tops (a ++ b) (ns ++ ms) := by
  obtain ⟨gs, hleads, hgs⟩ := ha
  obtain ⟨hs, hspells, hhs⟩ := hb
  exact ⟨gs ++ hs, hleads.appendSpells hspells, hgs.append hhs⟩

/-- What stands in parentheses is found there. -/
theorem parenthesized (h : Tops text ns) : LeadsTops ('(' :: text ++ [')']) ns := by
  obtain ⟨gs, hspells, hgs⟩ := h
  refine ⟨[.parens gs], hspells.parenthesized, ?_, fun g hg => ?_⟩
  · rw [Group.topsOfList, Group.tops, hgs.1]
    simp [Group.top?, Group.isTop, Group.topsOfList]
  · cases hg
    rfl

/-- A blank behind a text keeps everything else apart from it. -/
theorem blank (h : Tops text ns) : LeadsTops (text ++ [' ']) ns := by
  obtain ⟨gs, hspells, hgs⟩ := h
  refine ⟨gs, fun around read rest => ?_, hgs⟩
  have hbounded : Bounded (' ' :: rest) := by
    intro c hc
    cases hc
    decide
  have hskip : ∀ read, readFrom around read (' ' :: rest) = readFrom around read rest := by
    intro read
    unfold readFrom
    rw [scanFrom, if_neg (by decide), if_neg (by decide)]
    cases scanFrom .outside rest <;> rfl
  rw [List.append_assoc, List.singleton_append, hspells _ _ _ hbounded, hskip]

theorem name (name : String) : Tops (Name.quoted name).toList [] := by
  rw [Name.quoted, String.toList_ofList]
  refine ⟨_, spells_name name.toList, .nothing fun g hg => ?_⟩
  exact ⟨_, List.mem_singleton.mp hg, rfl⟩

theorem qualified {gs : List Group} (hspells : Spells text gs) (h : ∀ g ∈ gs, g.IsQualified) :
    Tops text [] := by
  refine ⟨gs, hspells, .nothing fun g hg => ?_⟩
  obtain ⟨content, rfl⟩ | rfl := h g hg
  · exact ⟨_, rfl, rfl⟩
  · exact ⟨_, rfl, rfl⟩

theorem path (name : String) : Tops (Name.quotedPath name).toList [] := by
  obtain ⟨gs, hspells, hgs⟩ := spells_path name
  exact qualified hspells hgs

theorem value (v : Value) : Tops (Fragments.ofValue v).sql.toList [] := by
  obtain ⟨gs, -, hspells, hgs⟩ := spells_value v
  refine ⟨gs, hspells, .nothing fun g hg => ?_⟩
  rcases hgs g hg with ⟨content, rfl⟩ | ⟨l, hl, rfl⟩ | rfl | rfl
  · exact ⟨_, rfl, rfl⟩
  · exact ⟨l, rfl, hl.not_top⟩
  · exact ⟨_, rfl, by decide⟩
  · exact ⟨_, rfl, rfl⟩

theorem place (p : Parameter) : Tops (Fragments.sql [.place p]).toList [] :=
  ⟨_, spells_place p, .nothing fun _ hg => ⟨_, List.mem_singleton.mp hg, rfl⟩⟩

end Tops

theorem LeadsTops.tops {text : List Char} {ns : List Nat} (h : LeadsTops text ns) :
    Tops text ns := by
  obtain ⟨gs, hleads, hgs⟩ := h
  exact ⟨gs, hleads.spells, hgs⟩

/-! ### Keywords and symbols -/

/-- Words and symbols outside of quotes and parentheses, none of which is `TOP`. -/
def Topless (text : List Char) : Prop :=
  Unquoted text ∧ ∀ l ∈ lexFrom [] (text.map .char), l.isParenthesis = false ∧ l.isTop = false

instance (text : List Char) : Decidable (Topless text) := inferInstanceAs (Decidable (_ ∧ _))

/-- Nothing goes on with a text whose last character is not one of a word. -/
theorem lexFrom_append_of_end {text : List Char} (h : ∀ c ∈ text.getLast?, isWordChar c = false)
    (hne : text ≠ []) (read : List Char) (tokens : List Token) :
    lexFrom read (text.map .char ++ tokens) = lexFrom read (text.map .char) ++ lexFrom [] tokens := by
  induction text generalizing read with
  | nil => exact absurd rfl hne
  | cons c rest ih =>
    rw [List.map_cons, List.cons_append, lexFrom, lexFrom]
    cases rest with
    | nil =>
      rw [h c rfl, if_neg Bool.false_ne_true, if_neg Bool.false_ne_true]
      split <;> simp [lexFrom, endWord]
    | cons d rest =>
      have hrest := ih (fun last hlast => h last hlast) (List.cons_ne_nil d rest)
      split
      · exact hrest _
      · split
        · rw [hrest, List.append_assoc]
        · rw [hrest, List.append_assoc, List.cons_append]

theorem Topless.tops {text : List Char} (h : Topless text) : Tops text [] := by
  refine ⟨_, .ofScans h.1.closes.scans fun l hl => (h.2 l hl).1, .nothing fun g hg => ?_⟩
  obtain ⟨l, hl, rfl⟩ := List.mem_map.mp hg
  exact ⟨l, rfl, (h.2 l hl).2⟩

/-- Keywords and symbols behind which a string or a word can begin. -/
structure Front (sql : String) : Prop where
  topless : Topless sql.toList
  ends : ∀ c ∈ sql.toList.getLast?, isWordChar c = false
  nonempty : sql.toList ≠ []

instance (sql : String) : Decidable (Front sql) :=
  have : Decidable (∀ c ∈ sql.toList.getLast?, isWordChar c = false) :=
    Option.decidableForallMem sql.toList.getLast?
  decidable_of_iff (Topless sql.toList ∧ (∀ c ∈ sql.toList.getLast?, isWordChar c = false) ∧
      sql.toList ≠ [])
    ⟨fun ⟨htopless, hends, hne⟩ => ⟨htopless, hends, hne⟩,
      fun h => ⟨h.topless, h.ends, h.nonempty⟩⟩

theorem Front.leads {sql : String} (h : Front sql) : LeadsTops sql.toList [] := by
  have hleads := Leads.ofUnquoted h.topless.1 _ (lexFrom_append_of_end h.ends h.nonempty [])
    fun l hl => (h.topless.2 l hl).1
  refine ⟨_, hleads, .nothing fun g hg => ?_⟩
  obtain ⟨l, hl, rfl⟩ := List.mem_map.mp hg
  exact ⟨l, rfl, (h.topless.2 l hl).2⟩

/-- Keywords and symbols that keep what is behind them apart from what is in front of them. -/
structure Divider (sql : String) : Prop extends Front sql where
  bounded : Bounded sql.toList

instance (sql : String) : Decidable (Divider sql) :=
  decidable_of_iff (Front sql ∧ Bounded sql.toList)
    ⟨fun ⟨hfront, hbounded⟩ => ⟨hfront, hbounded⟩, fun h => ⟨h.toFront, h.bounded⟩⟩

/-- A limit is found behind its `TOP`. -/
theorem Tops.top (n : Nat) : Tops (" TOP ".toList ++ (Number.ofNat n).toList) [n] := by
  have htop : Leads " TOP ".toList [.lexeme (.word "TOP".toList)] :=
    .ofUnquoted (by decide) [.word "TOP".toList] (fun _ => rfl) (by decide)
  have hdigits : Group.isTop (.lexeme (.word (Number.digits n))) = false :=
    Lexeme.IsNumeric.not_top (.inl ⟨_, rfl, Number.allDigits_digits n⟩)
  have hnumber : Group.top? (.lexeme (.word "TOP".toList)) [.lexeme (.word (Number.digits n))] =
      some n := by
    rw [Group.top?, if_pos (by decide)]
    exact Number.nat?_digits n
  refine ⟨_, htop.appendSpells (spells_natural n), ?_, fun g hg => ?_⟩
  · rw [List.singleton_append, Group.topsOfList_cons, Group.topsOfList_cons, hnumber,
      Group.top?_of_not_isTop hdigits]
    rfl
  · cases hg
    exact hdigits

/-- A number behind other keywords is no limit. -/
theorem Front.number {sql : String} (h : Front sql) (n : Nat) :
    Tops (sql.toList ++ (Number.ofNat n).toList) [] := by
  refine .lead h.leads ⟨_, spells_natural n, .nothing fun g hg => ?_⟩
  exact ⟨_, List.mem_singleton.mp hg,
    Lexeme.IsNumeric.not_top (.inl ⟨_, rfl, Number.allDigits_digits n⟩)⟩

/-! ### Text that is handed on as it is -/

/-- ASCII without quotes and parentheses that does not say `TOP`. -/
def CapFree (text : List Char) : Prop := (∀ c ∈ text, c.toNat < 128) ∧ Topless text

instance (text : List Char) : Decidable (CapFree text) :=
  have : Decidable (∀ c ∈ text, c.toNat < 128) := List.decidableBAll _ text
  inferInstanceAs (Decidable (_ ∧ _))

theorem visible_of_isWordChar {c : Char} (h : isWordChar c = true) : Text.Visible c := by
  have hparts : (decide (c.val ≥ 'A'.val ∧ c.val ≤ 'Z'.val) ||
      (decide (c.val ≥ 'a'.val) && decide (c.val ≤ 'z'.val)) || c.isDigit || c == '_') = true := h
  have hcodes : (65 ≤ c.toNat ∧ c.toNat ≤ 90 ∨ 97 ≤ c.toNat ∧ c.toNat ≤ 122) ∨
      c.isDigit = true ∨ c = '_' := by
    simpa [or_assoc, UInt32.le_iff_toNat_le] using hparts
  rcases hcodes with hletter | hdigit | rfl
  · exact ⟨by omega, by omega⟩
  · exact Number.visible_of_isDigit hdigit
  · decide

/-- White space belongs to no word. -/
theorem isWordChar_of_isBlank {c : Char} (h : Text.isBlank c = true) : isWordChar c = false := by
  by_contra hword
  have hvisible := visible_of_isWordChar ((Bool.not_eq_false _).mp hword)
  rw [Text.isBlank_of_visible hvisible] at h
  exact Bool.false_ne_true h

theorem lexFrom_blank {c : Char} (h : Text.isBlank c = true) (tokens : List Token) :
    lexFrom [] (.char c :: tokens) = lexFrom [] tokens := by
  rw [lexFrom, isWordChar_of_isBlank h, if_neg Bool.false_ne_true, if_pos h]
  rfl

/-- A blank in front of a text keeps it apart from everything else. -/
theorem Topless.behindBlank {text : List Char} (h : Topless text) :
    Topless (' ' :: text) ∧ Bounded (' ' :: text) := by
  have hlexemes : lexFrom [] ((' ' :: text).map .char) = lexFrom [] (text.map .char) :=
    lexFrom_blank (by decide) (text.map .char)
  refine ⟨⟨List.forall_mem_cons.mpr ⟨by decide, h.1⟩, fun l hl => ?_⟩, fun c hc => ?_⟩
  · rw [hlexemes] at hl
    exact h.2 l hl
  · cases hc
    decide

theorem lexFrom_dropBlanks (text : List Char) :
    lexFrom [] ((Text.dropBlanks text).map .char) = lexFrom [] (text.map .char) := by
  induction text with
  | nil => rfl
  | cons c text ih =>
    by_cases hblank : Text.isBlank c = true
    · have hdrop : Text.dropBlanks (c :: text) = Text.dropBlanks text :=
        List.dropWhile_cons_of_pos hblank
      rw [hdrop, ih, List.map_cons, lexFrom_blank hblank]
    · rw [Text.dropBlanks, List.dropWhile_cons_of_neg hblank]

theorem lexFrom_dropBlanksRight (text : List Char) :
    lexFrom [] ((Text.dropBlanksRight text).map .char) = lexFrom [] (text.map .char) := by
  have hblanks : ∀ c ∈ (text.reverse.takeWhile Text.isBlank).reverse, Text.isBlank c = true :=
    fun c hc => List.mem_takeWhile_imp (List.mem_reverse.mp hc)
  have htext : text =
      Text.dropBlanksRight text ++ (text.reverse.takeWhile Text.isBlank).reverse := by
    rw [Text.dropBlanksRight, ← List.reverse_append, List.takeWhile_append_dropWhile,
      List.reverse_reverse]
  generalize (text.reverse.takeWhile Text.isBlank).reverse = blanks at hblanks htext
  have hnothing : lexFrom [] (blanks.map .char) = [] := by
    have hdrop : Text.dropBlanks blanks = [] := List.dropWhile_eq_nil_iff.mpr hblanks
    rw [← lexFrom_dropBlanks, hdrop]
    rfl
  have hdetached : Detached (blanks.map .char) := by
    intro c hc
    cases blanks with
    | nil => cases hc
    | cons d blanks =>
      cases hc
      exact isWordChar_of_isBlank (hblanks _ List.mem_cons_self)
  conv_rhs => rw [htext]
  rw [List.map_append, lexFrom_append hdetached, hnothing, List.append_nil]

/-- What holds of every character and itself holds of it and its upper case form, if it does in
ASCII. -/
theorem forall_toUpper {P : Char → Char → Prop} (hself : ∀ c, P c c)
    (hascii : ∀ code < 128, P (Char.ofNat code) (Char.ofNat code).toUpper) (c : Char) :
    P c c.toUpper := by
  by_cases hlt : c.toNat < 128
  · have hc := hascii c.toNat hlt
    rwa [Char.ofNat_toNat] at hc
  · have hupper : c.toUpper = c := by
      refine dif_neg fun hletter => hlt ?_
      have hle : c.toNat ≤ 122 := UInt32.le_iff_toNat_le.mp hletter.2
      omega
    rw [hupper]
    exact hself c

/-- A lexeme in other characters. -/
def Lexeme.map (f : Char → Char) : Lexeme → Lexeme
  | word text => word (text.map f)
  | string content => string content
  | name content => name content
  | symbol c => symbol (f c)

theorem lexFrom_map {f : Char → Char} (hword : ∀ c, isWordChar (f c) = isWordChar c)
    (hblank : ∀ c, Text.isBlank (f c) = Text.isBlank c) (text read : List Char) :
    lexFrom (read.map f) ((text.map f).map .char) =
      (lexFrom read (text.map .char)).map (Lexeme.map f) := by
  have hend : ∀ read : List Char, endWord (read.map f) = (endWord read).map (Lexeme.map f) := by
    intro read
    cases read with
    | nil => rfl
    | cons c read => simp [endWord, Lexeme.map]
  induction text generalizing read with
  | nil => exact hend read
  | cons c text ih =>
    rw [List.map_cons, List.map_cons, List.map_cons, lexFrom, lexFrom, hword, hblank]
    have hnil := ih []
    rw [List.map_nil] at hnil
    split
    · exact ih (c :: read)
    · split
      · rw [hend, hnil, List.map_append]
      · rw [hend, hnil, List.map_append, List.map_cons]
        rfl

namespace CapFree

/-- A text with fewer characters and lexemes. -/
theorem of_subset {a b : List Char} (h : CapFree a) (hsub : ∀ c ∈ b, c ∈ a)
    (hlex : ∀ l ∈ lexFrom [] (b.map .char), l ∈ lexFrom [] (a.map .char)) : CapFree b :=
  ⟨fun c hc => h.1 c (hsub c hc), fun c hc => h.2.1 c (hsub c hc), fun l hl => h.2.2 l (hlex l hl)⟩

theorem dropBlanks {text : List Char} (h : CapFree text) : CapFree (Text.dropBlanks text) :=
  h.of_subset (fun _ hc => (List.dropWhile_sublist _).subset hc)
    fun l hl => by rwa [lexFrom_dropBlanks] at hl

theorem trim {text : String} (h : CapFree text.toList) : CapFree (Text.trim text).toList := by
  rw [Text.trim, String.toList_ofList, Text.stripBlanks]
  refine h.dropBlanks.of_subset (fun c hc => ?_) fun l hl => ?_
  · rw [Text.dropBlanksRight, List.mem_reverse] at hc
    exact List.mem_reverse.mp ((List.dropWhile_sublist _).subset hc)
  · rwa [lexFrom_dropBlanksRight] at hl

/-- In upper case nothing becomes a quote, a parenthesis or the word `TOP` that was none. -/
theorem uppercase {text : String} (h : CapFree text.toList) : CapFree (Text.uppercase text).toList := by
  obtain ⟨hascii, hunquoted, hlexemes⟩ := h
  have hupper : (Text.uppercase text).toList = text.toList.map Char.toUpper := by
    rw [Text.uppercase, String.toList_ofList, List.map_eq_flatMap]
    exact List.flatMap_congr fun c hc => if_pos (hascii c hc)
  -- the characters in front of the letters have no upper case form, and are none
  have hspecial {c d : Char} (hd : d.toNat < 65) (h : c.toUpper = d) : c = d := by
    subst h
    exact forall_toUpper (P := fun c u => u.toNat < 65 → c = u) (fun _ _ => rfl)
      (by decide +kernel) c hd
  have hlower : ∀ c : Char, c.toUpper.toLower = c.toLower :=
    forall_toUpper (P := fun c u => u.toLower = c.toLower) (fun _ => rfl) (by decide +kernel)
  have hword : ∀ c : Char, isWordChar c.toUpper = isWordChar c :=
    forall_toUpper (P := fun c u => isWordChar u = isWordChar c) (fun _ => rfl) (by decide +kernel)
  have hblank : ∀ c : Char, Text.isBlank c.toUpper = Text.isBlank c :=
    forall_toUpper (P := fun c u => Text.isBlank u = Text.isBlank c) (fun _ => rfl)
      (by decide +kernel)
  have hlex := lexFrom_map hword hblank text.toList []
  rw [hupper]
  refine ⟨fun u hu => ?_, fun u hu => ?_, fun l hl => ?_⟩
  · obtain ⟨c, hc, rfl⟩ := List.mem_map.mp hu
    exact forall_toUpper (P := fun c u => c.toNat < 128 → u.toNat < 128) (fun _ h => h)
      (by decide +kernel) c (hascii c hc)
  · obtain ⟨c, hc, rfl⟩ := List.mem_map.mp hu
    obtain ⟨hsingle, hdouble⟩ := hunquoted c hc
    exact ⟨fun he => hsingle (hspecial (by decide) he),
      fun he => hdouble (hspecial (by decide) he)⟩
  · rw [List.map_nil] at hlex
    rw [hlex] at hl
    obtain ⟨l', hl', rfl⟩ := List.mem_map.mp hl
    obtain ⟨hparenthesis, htop⟩ := hlexemes l' hl'
    cases l' with
    | word text =>
      refine ⟨rfl, ?_⟩
      rw [Lexeme.isTop] at htop
      rw [Lexeme.map, Lexeme.isTop, List.map_map]
      simpa only [Function.comp_def, hlower] using htop
    | symbol c =>
      refine ⟨?_, rfl⟩
      simp only [Lexeme.map, Lexeme.isParenthesis, Bool.or_eq_false_iff, beq_eq_false_iff_ne, ne_eq,
        Lexeme.symbol.injEq] at hparenthesis ⊢
      exact ⟨fun he => hparenthesis.1 (hspecial (by decide) he),
        fun he => hparenthesis.2 (hspecial (by decide) he)⟩
    | string content => exact ⟨rfl, rfl⟩
    | name content => exact ⟨rfl, rfl⟩

end CapFree

end Sql

end Anywhere
