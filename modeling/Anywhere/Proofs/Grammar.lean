import Anywhere.Proofs.Scanning

/-!
# The words, groups and operators of SQL text

Behind the scanner a reader of SQL puts characters together to words, finds the parentheses that
belong together, and then takes what stands between them apart at the operators, those that bind
loosest first. This file has such a reader. It knows no single operator: which lexemes are
operators, and how loosely they bind, is left to those who use it.

Texts are read from left to right, so a text that was put together is read part by part, as long as
no part goes on with the word or the string in front of it. `Leads` and `Spells` say which groups a
part is read as, the first whatever follows it and the second when nothing follows that could be
taken for more of it.
-/

namespace Anywhere.Sql

/-! ## Words and symbols -/

/-- A token, or what characters outside of quotes are put together to. -/
inductive Lexeme where
  | word (text : List Char)
  | string (content : List Char)
  | name (content : List Char)
  | symbol (c : Char)
deriving DecidableEq, Repr

/-- The lexeme is a parenthesis. -/
def Lexeme.isParenthesis (l : Lexeme) : Bool := l == .symbol '(' || l == .symbol ')'

/-- A character of keywords and numbers. -/
def isWordChar (c : Char) : Bool := c.isAlphanum || c == '_'

/-- The word that ends here. What has been read of it is kept in reverse. -/
def endWord (read : List Char) : List Lexeme :=
  if read.isEmpty then [] else [.word read.reverse]

/-- The lexemes of a sequence of tokens, `read` being what has been read of a word that goes on. -/
def lexFrom (read : List Char) : List Token → List Lexeme
  | [] => endWord read
  | .string content :: rest => endWord read ++ .string content :: lexFrom [] rest
  | .name content :: rest => endWord read ++ .name content :: lexFrom [] rest
  | .char c :: rest =>
    if isWordChar c then lexFrom (c :: read) rest
    else if Text.isBlank c then endWord read ++ lexFrom [] rest
    else endWord read ++ .symbol c :: lexFrom [] rest

/-- No word goes on with these tokens. -/
def Detached (tokens : List Token) : Prop :=
  ∀ c, tokens.head? = some (.char c) → isWordChar c = false

theorem lexFrom_of_detached {tokens : List Token} (h : Detached tokens) (read : List Char) :
    lexFrom read tokens = endWord read ++ lexFrom [] tokens := by
  have hnil : endWord [] = [] := rfl
  cases tokens with
  | nil => rw [lexFrom, lexFrom, hnil, List.append_nil]
  | cons token rest =>
    cases token with
    | string content => rw [lexFrom, lexFrom, hnil, List.nil_append]
    | name content => rw [lexFrom, lexFrom, hnil, List.nil_append]
    | char c =>
      have hc := h c rfl
      rw [lexFrom, lexFrom, hc, if_neg Bool.false_ne_true, if_neg Bool.false_ne_true, hnil]
      split <;> rfl

/-- Tokens that no word goes on with are put together on their own. -/
theorem lexFrom_append {tokens : List Token} (h : Detached tokens) (front : List Token)
    (read : List Char) :
    lexFrom read (front ++ tokens) = lexFrom read front ++ lexFrom [] tokens := by
  induction front generalizing read with
  | nil => exact lexFrom_of_detached h read
  | cons token front ih =>
    cases token with
    | string content => rw [List.cons_append, lexFrom, lexFrom, ih, List.append_assoc]; rfl
    | name content => rw [List.cons_append, lexFrom, lexFrom, ih, List.append_assoc]; rfl
    | char c =>
      rw [List.cons_append, lexFrom, lexFrom]
      split
      · exact ih _
      · split
        · rw [ih, List.append_assoc]
        · rw [ih, List.append_assoc]; rfl

/-- A number is made of words of digits, signs and points. -/
def Lexeme.IsNumeric (l : Lexeme) : Prop :=
  (∃ digits, l = .word digits ∧ Number.AllDigits digits) ∨ l = .symbol '-' ∨ l = .symbol '.'

theorem Lexeme.IsNumeric.not_parenthesis {l : Lexeme} (h : l.IsNumeric) :
    l.isParenthesis = false := by
  rcases h with ⟨digits, rfl, -⟩ | rfl | rfl
  · rfl
  · decide
  · decide

theorem lexFrom_numeric {text : List Char} (h : Numeric text) {read : List Char}
    (hread : Number.AllDigits read) :
    ∀ l ∈ lexFrom read (text.map .char), l.IsNumeric := by
  -- what has been read of a word has digits only, and stays so up to the next sign or point
  have hword : ∀ {read : List Char}, Number.AllDigits read →
      ∀ l ∈ endWord read, l.IsNumeric := by
    intro read hread l hl
    cases read with
    | nil => cases hl
    | cons c read =>
      rw [List.mem_singleton.mp hl]
      exact .inl ⟨_, rfl, fun d hd => hread d (List.mem_reverse.mp hd)⟩
  induction text generalizing read with
  | nil => exact hword hread
  | cons c text ih =>
    have hrest : Numeric text := fun d hd => h d (List.mem_cons_of_mem c hd)
    have hnil : Number.AllDigits [] := nofun
    rw [List.map_cons, lexFrom]
    rcases h c List.mem_cons_self with hdigit | rfl | rfl
    · have hc : isWordChar c = true := by simp [isWordChar, Char.isAlphanum, hdigit]
      rw [if_pos hc]
      exact ih hrest (List.forall_mem_cons.mpr ⟨hdigit, hread⟩)
    · exact List.forall_mem_append.mpr ⟨hword hread,
        List.forall_mem_cons.mpr ⟨.inr (.inl rfl), ih hrest hnil⟩⟩
    · exact List.forall_mem_append.mpr ⟨hword hread,
        List.forall_mem_cons.mpr ⟨.inr (.inr rfl), ih hrest hnil⟩⟩

theorem lexFrom_digits {text : List Char} (h : Number.AllDigits text) (read : List Char) :
    lexFrom read (text.map .char) = endWord (text.reverse ++ read) := by
  induction text generalizing read with
  | nil => rfl
  | cons c text ih =>
    have hdigit := h c List.mem_cons_self
    have hc : isWordChar c = true := by simp [isWordChar, Char.isAlphanum, hdigit]
    rw [List.map_cons, lexFrom, if_pos hc, ih fun d hd => h d (List.mem_cons_of_mem c hd)]
    simp

theorem lexFrom_ne_nil {read : List Char} (h : read ≠ []) (tokens : List Token) :
    lexFrom read tokens ≠ [] := by
  have hword : ∀ (c : Char) (read : List Char) (rest : List Lexeme),
      endWord (c :: read) ++ rest ≠ [] := fun _ _ _ => nofun
  induction tokens generalizing read with
  | nil =>
    obtain ⟨c, read, rfl⟩ := List.exists_cons_of_ne_nil h
    exact nofun
  | cons token tokens ih =>
    obtain ⟨d, read, rfl⟩ := List.exists_cons_of_ne_nil h
    cases token with
    | string content => exact hword d read _
    | name content => exact hword d read _
    | char c =>
      rw [lexFrom]
      split
      · exact ih (List.cons_ne_nil _ _)
      · split
        · exact hword d read _
        · exact hword d read _

theorem lexFrom_numeric_ne_nil {text : List Char} (h : Numeric text) (hne : text ≠ []) :
    lexFrom [] (text.map .char) ≠ [] := by
  obtain ⟨c, rest, rfl⟩ := List.exists_cons_of_ne_nil hne
  rw [List.map_cons, lexFrom]
  rcases h c List.mem_cons_self with hdigit | rfl | rfl
  · have hc : isWordChar c = true := by simp [isWordChar, Char.isAlphanum, hdigit]
    rw [if_pos hc]
    exact lexFrom_ne_nil (List.cons_ne_nil c []) _
  · exact nofun
  · exact nofun

/-! ## Groups -/

/-- A lexeme, or what stands in a pair of parentheses. -/
inductive Group where
  | lexeme (l : Lexeme)
  | parens (inner : List Group)

/-- The groups of a sequence of lexemes. What has been read of the group that is open is kept in
reverse, and so are the groups around it, from the inside out. There are none if a parenthesis has
no counterpart. -/
def nest (around : List (List Group)) (read : List Group) : List Lexeme → Option (List Group)
  | [] => if around.isEmpty then some read.reverse else none
  | l :: rest =>
    if l = .symbol '(' then nest (read :: around) [] rest
    else if l = .symbol ')' then
      match around with
      | [] => none
      | before :: around => nest around (.parens read.reverse :: before) rest
    else nest around (.lexeme l :: read) rest

theorem nest_cons {l : Lexeme} (h : l.isParenthesis = false) (around : List (List Group))
    (read : List Group) (rest : List Lexeme) :
    nest around read (l :: rest) = nest around (.lexeme l :: read) rest := by
  simp only [Lexeme.isParenthesis, Bool.or_eq_false_iff, beq_eq_false_iff_ne] at h
  rw [nest.eq_def]
  simp only [h.1, h.2, if_false]

theorem nest_append {ls : List Lexeme} (h : ∀ l ∈ ls, l.isParenthesis = false)
    (around : List (List Group)) (read : List Group) (rest : List Lexeme) :
    nest around read (ls ++ rest) = nest around ((ls.map Group.lexeme).reverse ++ read) rest := by
  induction ls generalizing read with
  | nil => rfl
  | cons l ls ih =>
    rw [List.cons_append, nest_cons (h l List.mem_cons_self),
      ih fun l' hl' => h l' (List.mem_cons_of_mem l hl')]
    simp

/-- The groups of a text that is read behind others. -/
def readFrom (around : List (List Group)) (read : List Group) (text : List Char) :
    Option (List Group) :=
  (scanFrom .outside text).bind fun tokens => nest around read (lexFrom [] tokens)

/-- The groups of a text. -/
def groups? (text : String) : Option (List Group) := readFrom [] [] text.toList

theorem readFrom_open (around : List (List Group)) (read : List Group) (rest : List Char) :
    readFrom around read ('(' :: rest) = readFrom (read :: around) [] rest := by
  unfold readFrom
  rw [scanFrom, if_neg (by decide), if_neg (by decide)]
  cases scanFrom .outside rest <;> rfl

theorem readFrom_close (around : List (List Group)) (before read : List Group)
    (rest : List Char) :
    readFrom (before :: around) read (')' :: rest) =
      readFrom around (.parens read.reverse :: before) rest := by
  unfold readFrom
  rw [scanFrom, if_neg (by decide), if_neg (by decide)]
  cases scanFrom .outside rest <;> rfl

/-! ## Reading part by part -/

/-- Neither a string nor a word goes on with this text. -/
def Bounded (text : List Char) : Prop :=
  ∀ c ∈ text.head?, c ≠ '\'' ∧ isWordChar c = false

instance (text : List Char) : Decidable (Bounded text) := Option.decidableForallMem text.head?

theorem Bounded.append {a b : List Char} (ha : Bounded a) (hb : Bounded b) : Bounded (a ++ b) := by
  cases a with
  | nil => exact hb
  | cons c a => exact ha

theorem Bounded.followed {a : List Char} (ha : Bounded a) (hne : a ≠ []) (b : List Char) :
    Bounded (a ++ b) := by
  obtain ⟨c, a, rfl⟩ := List.exists_cons_of_ne_nil hne
  exact ha

/-- Whatever follows, the text is read as these groups. -/
def Leads (text : List Char) (groups : List Group) : Prop :=
  ∀ around read rest,
    readFrom around read (text ++ rest) = readFrom around (groups.reverse ++ read) rest

/-- The text is read as these groups, as long as nothing follows that goes on with it. -/
def Spells (text : List Char) (groups : List Group) : Prop :=
  ∀ around read rest, Bounded rest →
    readFrom around read (text ++ rest) = readFrom around (groups.reverse ++ read) rest

theorem Leads.spells {text : List Char} {groups : List Group} (h : Leads text groups) :
    Spells text groups := fun around read rest _ => h around read rest

theorem Leads.appendSpells {a b : List Char} {gs hs : List Group} (ha : Leads a gs)
    (hb : Spells b hs) : Spells (a ++ b) (gs ++ hs) := by
  intro around read rest hrest
  rw [List.append_assoc, ha, hb _ _ _ hrest, List.reverse_append, List.append_assoc]

/-- Two texts in a row, the second of which does not go on with the first. -/
theorem Spells.append {a b : List Char} {gs hs : List Group} (ha : Spells a gs) (hb : Spells b hs)
    (hbounded : Bounded b) : Spells (a ++ b) (gs ++ hs) := by
  intro around read rest hrest
  rw [List.append_assoc, ha _ _ _ (hbounded.append hrest), hb _ _ _ hrest, List.reverse_append,
    List.append_assoc]

/-- Two texts with another one between them, which does not go on with the first. -/
theorem Spells.between {a separator b : List Char} {gs between hs : List Group} (ha : Spells a gs)
    (hseparator : Leads separator between) (hbounded : Bounded separator) (hne : separator ≠ [])
    (hb : Spells b hs) : Spells (a ++ (separator ++ b)) (gs ++ (between ++ hs)) :=
  ha.append (hseparator.appendSpells hb) (hbounded.followed hne b)

theorem Spells.nil : Spells [] [] := fun _ _ _ _ => rfl

/-- **A text in parentheses** is one group. -/
theorem Spells.parenthesized {text : List Char} {groups : List Group} (h : Spells text groups) :
    Leads ('(' :: text ++ [')']) [.parens groups] := by
  intro around read rest
  have hclose : Bounded (')' :: rest) := by
    intro c hc
    cases hc
    decide
  have htext := h (read :: around) [] (')' :: rest) hclose
  rw [List.append_nil] at htext
  rw [List.cons_append, List.cons_append, readFrom_open, List.append_assoc, List.singleton_append,
    htext, readFrom_close, List.reverse_reverse]
  rfl

theorem Spells.parenthesizedSql {fs : Fragments} {groups : List Group}
    (h : Spells fs.sql.toList groups) :
    Leads (Fragments.parenthesized fs).sql.toList [.parens groups] := by
  rw [Fragments.sql_parenthesized, String.toList_append, String.toList_append]
  exact h.parenthesized

theorem Spells.intercalate {separator : List Char} {between : List Group} {f : α → List Char}
    {g : α → List Group} (hseparator : Leads separator between) (hbounded : Bounded separator)
    (hne : separator ≠ []) {parts : List α} (hparts : ∀ a ∈ parts, Spells (f a) (g a)) :
    Spells (separator.intercalate (parts.map f)) (between.intercalate (parts.map g)) := by
  induction parts with
  | nil => exact .nil
  | cons a parts ih =>
    have ha := hparts a List.mem_cons_self
    have hrest := ih fun b hb => hparts b (List.mem_cons_of_mem a hb)
    cases parts with
    | nil => simpa [List.intercalate] using ha
    | cons b parts =>
      have h := ha.between hseparator hbounded hne hrest
      simpa [List.intercalate_cons_cons] using h

theorem exists_name_of_scanFrom {text read : List Char} {tokens : List Token}
    (h : scanFrom (.inName read) text = some tokens) :
    ∃ content rest, tokens = .name content :: rest := by
  induction text generalizing read with
  | nil => cases h
  | cons c text ih =>
    rw [scanFrom] at h
    split at h
    · obtain ⟨rest, -, rfl⟩ := Option.map_eq_some_iff.mp h
      exact ⟨_, rest, rfl⟩
    · exact ih h

theorem detached_of_bounded {rest : List Char} (h : Bounded rest) {tokens : List Token}
    (hscan : scanFrom .outside rest = some tokens) : Detached tokens := by
  cases rest with
  | nil =>
    cases hscan
    intro d hd
    cases hd
  | cons c rest =>
    obtain ⟨hquote, hword⟩ := h c rfl
    rw [scanFrom, if_neg hquote] at hscan
    split at hscan
    · -- a name goes on with no word, whatever its first character is
      obtain ⟨content, rest', rfl⟩ := exists_name_of_scanFrom hscan
      intro d hd
      cases hd
    · obtain ⟨rest', -, rfl⟩ := Option.map_eq_some_iff.mp hscan
      intro d hd
      cases hd
      exact hword

/-- A text without parentheses is read as its lexemes. -/
theorem Spells.ofScans {text : List Char} {tokens : List Token} (h : Scans text tokens)
    (hlexemes : ∀ l ∈ lexFrom [] tokens, l.isParenthesis = false) :
    Spells text ((lexFrom [] tokens).map .lexeme) := by
  intro around read rest hrest
  have hhead : rest.head? ≠ some '\'' := fun hquote => (hrest _ hquote).1 rfl
  unfold readFrom
  rw [h rest hhead]
  cases hscan : scanFrom .outside rest with
  | none => rfl
  | some tokens' =>
    rw [Option.map_some, Option.bind_some, Option.bind_some,
      lexFrom_append (detached_of_bounded hrest hscan), nest_append hlexemes]

theorem spells_text {sql : String} (h : Unquoted sql.toList)
    (hlexemes : ∀ l ∈ lexFrom [] (sql.toList.map .char), l.isParenthesis = false) :
    Spells (Fragments.sql [.text sql]).toList
      ((lexFrom [] (sql.toList.map .char)).map .lexeme) := by
  rw [Fragments.sql_cons, Fragments.sql_nil, String.append_empty]
  exact .ofScans h.closes.scans hlexemes

/-- Text outside quotes is read as the lexemes that its characters are put together to, whatever
follows. -/
theorem Leads.ofUnquoted {text : List Char} (h : Unquoted text) (ls : List Lexeme)
    (hlex : ∀ tokens, lexFrom [] (text.map .char ++ tokens) = ls ++ lexFrom [] tokens)
    (hls : ∀ l ∈ ls, l.isParenthesis = false) : Leads text (ls.map .lexeme) := by
  intro around read rest
  unfold readFrom
  rw [h.closes rest]
  cases scanFrom .outside rest with
  | none => rfl
  | some tokens => rw [Option.map_some, Option.bind_some, Option.bind_some, hlex, nest_append hls]

theorem Spells.groups? {text : String} {groups : List Group} (h : Spells text.toList groups) :
    groups? text = some groups := by
  have hend := h [] [] [] nofun
  rw [List.append_nil, List.append_nil] at hend
  rw [Sql.groups?, hend]
  simp [readFrom, lexFrom, endWord, nest]

/-! ## Columns and values -/

theorem spells_name (name : List Char) :
    Spells (Name.quotedChars name) [.lexeme (.name (Name.plain name))] :=
  .ofScans (closes_quotedChars name).scans (by simp [lexFrom, endWord, Lexeme.isParenthesis])

theorem leads_point : Leads ['.'] [.lexeme (.symbol '.')] :=
  .ofUnquoted (by decide) [.symbol '.'] (fun _ => rfl) (by decide)

theorem mem_of_mem_intercalate {separator : List α} {parts : List (List α)} {a : α}
    (h : a ∈ separator.intercalate parts) : a ∈ separator ∨ ∃ part ∈ parts, a ∈ part := by
  induction parts with
  | nil => cases h
  | cons part parts ih =>
    cases parts with
    | nil => exact .inr ⟨part, List.mem_cons_self, by simpa [List.intercalate] using h⟩
    | cons next parts =>
      rw [List.intercalate_cons_cons, List.mem_append, List.mem_append] at h
      rcases h with (h | h) | h
      · exact .inr ⟨part, List.mem_cons_self, h⟩
      · exact .inl h
      · rcases ih h with h | ⟨part', hpart', h⟩
        · exact .inl h
        · exact .inr ⟨part', List.mem_cons_of_mem part hpart', h⟩

/-- The group is a name or a point. -/
def Group.IsQualified (g : Group) : Prop :=
  (∃ content, g = .lexeme (.name content)) ∨ g = .lexeme (.symbol '.')

theorem spells_path (name : String) :
    ∃ gs, Spells (Name.quotedPath name).toList gs ∧ ∀ g ∈ gs, g.IsQualified := by
  have hpath := Spells.intercalate leads_point (by decide) (List.cons_ne_nil _ _)
    fun part (_ : part ∈ Text.pieces '.' name.toList) => spells_name part
  rw [Name.quotedPath, String.toList_ofList]
  refine ⟨_, hpath, fun g hg => ?_⟩
  rcases mem_of_mem_intercalate hg with hg | ⟨part, hpart, hg⟩
  · exact .inr (List.mem_singleton.mp hg)
  · obtain ⟨name', -, rfl⟩ := List.mem_map.mp hpart
    exact .inl ⟨_, List.mem_singleton.mp hg⟩

/-- A column is read as its names and the points between them. -/
theorem spells_column (table : Option String) (name : String) :
    ∃ gs ≠ [], Spells (Fragments.ofColumn table name).sql.toList gs ∧
      ∀ g ∈ gs, g.IsQualified := by
  have hname := spells_name name.toList
  have hqualified : ∀ g ∈ [Group.lexeme (.name (Name.plain name.toList))], g.IsQualified :=
    fun g hg => .inl ⟨_, List.mem_singleton.mp hg⟩
  cases table with
  | none =>
    refine ⟨_, List.cons_ne_nil _ _, ?_, hqualified⟩
    simpa [Fragments.ofColumn, Name.quoted] using hname
  | some table =>
    obtain ⟨gs, hpath, hgs⟩ := spells_path table
    have hcolumn := hpath.between leads_point (by decide) (List.cons_ne_nil _ _) hname
    refine ⟨gs ++ .lexeme (.symbol '.') :: [.lexeme (.name (Name.plain name.toList))],
      List.append_ne_nil_of_right_ne_nil _ (List.cons_ne_nil _ _), ?_, ?_⟩
    · simpa [Fragments.ofColumn, Name.quoted] using hcolumn
    · exact List.forall_mem_append.mpr ⟨hgs, List.forall_mem_cons.mpr ⟨.inr rfl, hqualified⟩⟩

/-- A number without sign and point is read as one word. -/
theorem spells_natural (n : Nat) :
    Spells (Number.ofNat n).toList [.lexeme (.word (Number.digits n))] := by
  have hdigits : Number.AllDigits (Number.digits n) := Number.allDigits_digits n
  have hlex : lexFrom [] ((Number.digits n).map .char) = [.word (Number.digits n)] := by
    rw [lexFrom_digits hdigits, List.append_nil, endWord,
      if_neg (by simpa using Number.digits_ne_nil n), List.reverse_reverse]
  have hunquoted : Unquoted (Number.digits n) := (Inert.ofNumeric (.ofAllDigits hdigits)).unquoted
  have hspells := Spells.ofScans hunquoted.closes.scans (by simp [hlex, Lexeme.isParenthesis])
  rw [hlex] at hspells
  rwa [Number.ofNat, String.toList_ofList]

theorem spells_place (p : Parameter) :
    Spells (Fragments.sql [.place p]).toList [.lexeme (.symbol '?')] := by
  have hplace : Leads Fragment.placeholder.toList [.lexeme (.symbol '?')] :=
    .ofUnquoted (by decide) [.symbol '?'] (fun _ => rfl) (by decide)
  rw [Fragments.sql_cons, Fragments.sql_nil, String.append_empty]
  exact hplace.spells

/-- A value is read as a string, a number, `NULL` or the place of a parameter. -/
theorem spells_value (v : Value) :
    ∃ gs ≠ [], Spells (Fragments.ofValue v).sql.toList gs ∧
      ∀ g ∈ gs, (∃ content, g = .lexeme (.string content)) ∨
        (∃ l : Lexeme, l.IsNumeric ∧ g = .lexeme l) ∨ g = .lexeme (.word "NULL".toList) ∨
        g = .lexeme (.symbol '?') := by
  rw [Fragments.ofValue]
  cases hsql : v.literal? with
  | none =>
    refine ⟨[.lexeme (.symbol '?')], List.cons_ne_nil _ _, ?_, fun g hg => ?_⟩
    · exact spells_place _
    · exact .inr (.inr (.inr (List.mem_singleton.mp hg)))
  | some sql =>
    have htext : (Fragments.sql [.text sql]).toList = sql.toList := by simp
    simp only [htext]
    rcases Value.literal?_forms hsql with ⟨content, -, rfl⟩ | ⟨-, ⟨-, rfl⟩ | ⟨hnumeric, c, hc, -⟩⟩
    · have hspells := Spells.ofScans (scans_ofChars content) (by
        simp [lexFrom, endWord, Lexeme.isParenthesis])
      exact ⟨[.lexeme (.string content)], List.cons_ne_nil _ _, hspells,
        fun g hg => .inl ⟨_, List.mem_singleton.mp hg⟩⟩
    · have hspells := Spells.ofScans
        (Unquoted.closes (show Unquoted "NULL".toList by decide)).scans (by decide)
      exact ⟨[.lexeme (.word "NULL".toList)], List.cons_ne_nil _ _, hspells,
        fun g hg => .inr (.inr (.inl (List.mem_singleton.mp hg)))⟩
    · have hnothing : Number.AllDigits [] := nofun
      have hlexemes := lexFrom_numeric hnumeric hnothing
      have hspells := Spells.ofScans (Inert.ofNumeric hnumeric).unquoted.closes.scans
        fun l hl => (hlexemes l hl).not_parenthesis
      refine ⟨_, ?_, hspells, fun g hg => ?_⟩
      · simpa using lexFrom_numeric_ne_nil hnumeric (List.ne_nil_of_mem hc)
      · obtain ⟨l, hl, rfl⟩ := List.mem_map.mp hg
        exact .inr (.inl ⟨l, hlexemes l hl, rfl⟩)

/-- The lexemes of an operator. -/
def operatorLexemes : BinaryOp → List Lexeme
  | .eq => [.symbol '=']
  | .notEq => [.symbol '<', .symbol '>']
  | .lt => [.symbol '<']
  | .ltEq => [.symbol '<', .symbol '=']
  | .gt => [.symbol '>']
  | .gtEq => [.symbol '>', .symbol '=']
  | .like => [.word "LIKE".toList]
  | .notLike => [.word "NOT".toList, .word "LIKE".toList]
  | .add => [.symbol '+']
  | .sub => [.symbol '-']
  | .mul => [.symbol '*']
  | .div => [.symbol '/']
  | .concat => [.symbol '|', .symbol '|']

theorem leads_operator (op : BinaryOp) :
    Leads (" " ++ op.symbol ++ " ").toList ((operatorLexemes op).map .lexeme) := by
  cases op <;> exact .ofUnquoted (by decide) _ (fun _ => rfl) (by decide)

/-! ## Operators -/

/-- A group, together with what is read in its parentheses. -/
inductive Item (α : Type) where
  | lexeme (l : Lexeme)
  | parens (inner : List Group) (value : Option α)

/-- The group that was read. -/
def Item.group : Item α → Group
  | lexeme l => .lexeme l
  | parens inner _ => .parens inner

mutual

/-- The group with what `read` finds in its parentheses, in which other parentheses have been read
before. -/
def Group.item (read : List (Item α) → Option α) : Group → Item α
  | .lexeme l => .lexeme l
  | .parens inner => .parens inner (read (Group.items read inner))

/-- The groups with what `read` finds in their parentheses. -/
def Group.items (read : List (Item α) → Option α) : List Group → List (Item α)
  | [] => []
  | g :: rest => g.item read :: Group.items read rest

end

namespace Group

theorem items_eq_map (read : List (Item α) → Option α) (gs : List Group) :
    items read gs = gs.map (·.item read) := by
  induction gs with
  | nil => rfl
  | cons g gs ih => rw [items, ih, List.map_cons]

theorem items_append (read : List (Item α) → Option α) (gs hs : List Group) :
    items read (gs ++ hs) = items read gs ++ items read hs := by
  rw [items_eq_map, items_eq_map, items_eq_map, List.map_append]

@[simp] theorem group_item (read : List (Item α) → Option α) (g : Group) :
    (g.item read).group = g := by
  cases g <;> rfl

theorem item_mem_items (read : List (Item α) → Option α) {g : Group} {gs : List Group}
    (h : g ∈ gs) : g.item read ∈ items read gs := by
  rw [items_eq_map]
  exact List.mem_map_of_mem h

@[simp] theorem map_group_items (read : List (Item α) → Option α) (gs : List Group) :
    (items read gs).map Item.group = gs := by
  rw [items_eq_map, List.map_map]
  exact (List.map_congr_left fun g _ => group_item read g).trans (List.map_id gs)

end Group

/-- Operands with the operators between them. -/
structure Chain (κ β : Type) where
  first : β
  rest : List (κ × β)

namespace Chain

/-- One operand alone. -/
def single (b : β) : Chain κ β := ⟨b, []⟩

/-- Two chains with an operator between them. -/
def append (c : Chain κ β) (op : κ) (d : Chain κ β) : Chain κ β :=
  ⟨c.first, c.rest ++ (op, d.first) :: d.rest⟩

/-- The chain with `f` applied to its operands. -/
def map (f : β → γ) (c : Chain κ β) : Chain κ γ :=
  ⟨f c.first, c.rest.map fun link => (link.1, f link.2)⟩

/-- The chain of what `f` finds in the operands, if it finds something in each. -/
def traverse (f : β → Option γ) (c : Chain κ β) : Option (Chain κ γ) := do
  let first ← f c.first
  let rest ← c.rest.mapM fun link => (f link.2).map (link.1, ·)
  return ⟨first, rest⟩

/-- The operands combined from left to right. -/
def fold (combine : κ → β → β → β) (c : Chain κ β) : β :=
  c.rest.foldl (fun b link => combine link.1 b link.2) c.first

theorem traverse_single (f : β → Option γ) (b : β) :
    (single b : Chain κ β).traverse f = (f b).map single := by
  cases h : f b <;> simp [traverse, single, h]

theorem traverse_append (f : β → Option γ) (c : Chain κ β) (op : κ) (d : Chain κ β) :
    (c.append op d).traverse f =
      (c.traverse f).bind fun c' => (d.traverse f).map (c'.append op) := by
  obtain ⟨first, rest⟩ := c
  obtain ⟨first', rest'⟩ := d
  simp only [traverse, append, List.mapM_append, List.mapM_cons]
  cases f first with
  | none => rfl
  | some b =>
    cases rest.mapM fun link => (f link.2).map (link.1, ·) with
    | none => rfl
    | some links =>
      cases f first' with
      | none => rfl
      | some b' => cases rest'.mapM fun link => (f link.2).map (link.1, ·) <;> rfl

theorem map_append (f : β → γ) (c : Chain κ β) (op : κ) (d : Chain κ β) :
    (c.append op d).map f = (c.map f).append op (d.map f) := by
  simp [map, append]

/-- The last operand is combined last. -/
theorem fold_append_single (combine : κ → β → β → β) (c : Chain κ β) (op : κ) (b : β) :
    (c.append op (single b)).fold combine = combine op (c.fold combine) b := by
  simp [fold, append, single]

/-- Where the operators do not matter, two chains are combined one after the other. -/
theorem fold_append {combine : β → β → β}
    (h : ∀ a b c, combine (combine a b) c = combine a (combine b c)) (c : Chain κ β) (op : κ)
    (d : Chain κ β) :
    (c.append op d).fold (fun _ => combine) =
      combine (c.fold fun _ => combine) (d.fold fun _ => combine) := by
  obtain ⟨first, rest⟩ := d
  simp only [fold, append, List.foldl_append, List.foldl_cons]
  -- along the links of the second chain, with all that is behind the first one as its first operand
  induction rest generalizing first with
  | nil => rfl
  | cons link rest ih => rw [List.foldl_cons, List.foldl_cons, h, ih]

theorem fold_map {combine : κ → β → β → β} {combine' : κ → γ → γ → γ} {f : β → γ}
    (h : ∀ op a b, f (combine op a b) = combine' op (f a) (f b)) (c : Chain κ β) :
    (c.map f).fold combine' = f (c.fold combine) := by
  obtain ⟨first, rest⟩ := c
  simp only [fold, map]
  induction rest generalizing first with
  | nil => rfl
  | cons link rest ih => rw [List.map_cons, List.foldl_cons, List.foldl_cons, ← h, ih]

end Chain

/-- What stands between operators, and the operators. -/
def operands (operator? : β → Option κ) : List β → Chain κ (List β)
  | [] => ⟨[], []⟩
  | b :: rest =>
    match operator? b with
    | some op => ⟨[], (op, (operands operator? rest).first) :: (operands operator? rest).rest⟩
    | none => ⟨b :: (operands operator? rest).first, (operands operator? rest).rest⟩

theorem operands_append (operator? : β → Option κ) (before : List β) {b : β} {op : κ}
    (h : operator? b = some op) (behind : List β) :
    operands operator? (before ++ b :: behind) =
      (operands operator? before).append op (operands operator? behind) := by
  induction before with
  | nil =>
    simp only [List.nil_append, operands, h]
    rfl
  | cons a before ih =>
    rw [List.cons_append, operands, operands, ih]
    cases operator? a <;> rfl

theorem operands_of_none {operator? : β → Option κ} {bs : List β}
    (h : ∀ b ∈ bs, operator? b = none) : operands operator? bs = .single bs := by
  induction bs with
  | nil => rfl
  | cons b bs ih =>
    rw [operands, h b List.mem_cons_self, ih fun a ha => h a (List.mem_cons_of_mem b ha)]
    rfl

/-- A sequence has a last operator if it has any. -/
theorem operators_none_or_last (operator? : β → Option κ) (bs : List β) :
    (∀ b ∈ bs, operator? b = none) ∨
    ∃ before b op behind, bs = before ++ b :: behind ∧ operator? b = some op ∧
      ∀ b ∈ behind, operator? b = none := by
  induction bs with
  | nil => exact .inl nofun
  | cons a bs ih =>
    rcases ih with hnone | ⟨before, b, op, behind, rfl, hb, hbehind⟩
    · cases ha : operator? a with
      | none => exact .inl (List.forall_mem_cons.mpr ⟨ha, hnone⟩)
      | some op => exact .inr ⟨[], a, op, bs, rfl, ha, hnone⟩
    · exact .inr ⟨a :: before, b, op, behind, rfl, hb, hbehind⟩

/-- Reads operators of one strength, which bind from left to right; what stands between them is read
by `operand`. -/
def readChain (operator? : Item α → Option κ) (operand : List (Item α) → Option α)
    (combine : κ → α → α → α) (items : List (Item α)) : Option α :=
  ((operands operator? items).traverse operand).map (Chain.fold combine)

theorem readChain_of_none {operator? : Item α → Option κ} {operand : List (Item α) → Option α}
    {combine : κ → α → α → α} {items : List (Item α)} (h : ∀ i ∈ items, operator? i = none) :
    readChain operator? operand combine items = operand items := by
  rw [readChain, operands_of_none h, Chain.traverse_single, Option.map_map]
  exact congrFun Option.map_id (operand items)

/-- The last operator binds what stands in front of it to the operand behind it. -/
theorem readChain_append {operator? : Item α → Option κ} {operand : List (Item α) → Option α}
    {combine : κ → α → α → α} (before : List (Item α)) {item : Item α} {op : κ}
    (h : operator? item = some op) {behind : List (Item α)}
    (hbehind : ∀ i ∈ behind, operator? i = none) :
    readChain operator? operand combine (before ++ item :: behind) =
      (readChain operator? operand combine before).bind fun a =>
        (operand behind).map (combine op a) := by
  unfold readChain
  rw [operands_append operator? before h, operands_of_none hbehind, Chain.traverse_append,
    Chain.traverse_single]
  cases (operands operator? before).traverse operand with
  | none => rfl
  | some c =>
    cases operand behind with
    | none => rfl
    | some a => exact congrArg some (Chain.fold_append_single combine c op a)

/-- What is read is the last operator with what stands in front of it and the operand behind it. -/
theorem exists_of_readChain_append {operator? : Item α → Option κ}
    {operand : List (Item α) → Option α} {combine : κ → α → α → α} {before : List (Item α)}
    {item : Item α} {op : κ} (h : operator? item = some op) {behind : List (Item α)}
    (hbehind : ∀ i ∈ behind, operator? i = none) {t : α}
    (ht : readChain operator? operand combine (before ++ item :: behind) = some t) :
    ∃ a b, readChain operator? operand combine before = some a ∧ operand behind = some b ∧
      t = combine op a b := by
  rw [readChain_append before h hbehind, Option.bind_eq_some_iff] at ht
  obtain ⟨a, ha, ht⟩ := ht
  obtain ⟨b, hb, rfl⟩ := Option.map_eq_some_iff.mp ht
  exact ⟨a, b, ha, hb, rfl⟩

end Anywhere.Sql

namespace Anywhere.Expr

open Sql

/-- The groups that an expression is read as. -/
def groups (e : Expr) : List Group := (groups? e.render.sql).getD []

theorem groups_eq {e : Expr} {gs : List Group} (h : Spells e.fragments.sql.toList gs) :
    e.groups = gs := by
  rw [groups, render_eq_fragments]
  exact congrArg (Option.getD · []) h.groups?

/-- Two expressions with an operator between them. -/
theorem spells_binary {left right : Expr} {gs hs : List Group} (op : BinaryOp)
    (hleft : Spells left.fragments.sql.toList gs) (hright : Spells right.fragments.sql.toList hs) :
    Spells (binary left op right).fragments.sql.toList
      (gs ++ ((operatorLexemes op).map .lexeme ++ hs)) := by
  have hop : Bounded (" " ++ op.symbol ++ " ").toList ∧ (" " ++ op.symbol ++ " ").toList ≠ [] := by
    cases op <;> decide
  have hboth := hleft.between (leads_operator op) hop.1 hop.2 hright
  rw [fragments, Fragments.sql_append, Fragments.sql_cons, Fragment.sql_text,
    String.toList_append, String.toList_append]
  exact hboth

end Anywhere.Expr
