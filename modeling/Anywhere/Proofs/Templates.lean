import Anywhere.Proofs.Grammar
import Anywhere.Proofs.Quotation
import Mathlib.Data.List.SplitBy

/-!
# Templates

Some statements are no trees: they are texts with slots that names, texts and values are put in.
What fills a slot must not change how the rest is read, and to say so one needs a reading in which a
name is a name and a number is a number, whatever they are. Here it is that of `Template.reads`: for
each lexeme its kind, where a number with its sign and its point is a single word.

`Sql.lexFrom` takes numbers apart at the point, because the operators of an expression have to be
found between words. In a statement there are none, so a word may hold any character but the few
that stand between words. Cutting a text into such words does not mind where the text came from, and
two parts of a text are cut on their own unless a word of the first goes on in the second. That, and
the string that would go on with a quote behind it, is all that can go wrong between two slots.
-/

namespace Anywhere

namespace Sql

/-! ## Words -/

/-- A character that stands between words and is read on its own. -/
def isMark (c : Char) : Bool := c == '(' || c == ')' || c == ',' || c == '='

/-- No word goes on with the character. -/
def endsWord (c : Char) : Bool := Text.isBlank c || isMark c

namespace Token

/-- The token is a character of a word. -/
def isWordPart : Token → Bool
  | char c => !endsWord c
  | _ => false

/-- The tokens belong to the same word if they stand beside each other. -/
def joins (a b : Token) : Bool := a.isWordPart && b.isWordPart

/-- The character outside of quotes. -/
def char? : Token → Option Char
  | char c => some c
  | _ => none

end Token

namespace Lexeme

/-- What is read as a run of tokens that belong together. Blanks are passed over. -/
def ofRun? : List Token → Option Lexeme
  | [.string content] => some (.string content)
  | [.name content] => some (.name content)
  | [.char c] =>
    if Text.isBlank c then none else if isMark c then some (.symbol c) else some (.word [c])
  | run => some (.word (run.filterMap Token.char?))

/-- What a reader takes a lexeme for. Keywords are told apart, names and values are not. -/
inductive Kind where
  | word (text : List Char)
  | number
  | string
  | name
  | symbol (c : Char)
deriving DecidableEq, Repr

/-- The word has a digit, and nothing but digits, signs and points. -/
def isNumber (text : List Char) : Bool :=
  text.any Char.isDigit && text.all fun c => c.isDigit || c == '-' || c == '.'

/-- The kind of a lexeme. -/
def kind : Lexeme → Kind
  | word text => if isNumber text then .number else .word text
  | string _ => .string
  | name _ => .name
  | symbol c => .symbol c

end Lexeme

/-- The kinds of what is read as a sequence of tokens. -/
def kinds (tokens : List Token) : List Lexeme.Kind :=
  ((tokens.splitBy Token.joins).filterMap Lexeme.ofRun?).map Lexeme.kind

/-- The kinds of what is read as a text. There are none if it ends inside quotes. -/
def kinds? (text : String) : Option (List Lexeme.Kind) := (scan text).map kinds

/-- The names and strings that are read in a text. There are none if it ends inside quotes. -/
def quotedIn? (text : String) : Option (List Token) := (scan text).map (·.filter Token.isPayload)

theorem kinds_append {a b : List Token}
    (h : ∀ x ∈ a.getLast?, ∀ y ∈ b.head?, x.joins y = false) :
    kinds (a ++ b) = kinds a ++ kinds b := by
  rw [kinds, List.splitBy_append h, List.filterMap_append, List.map_append]
  rfl

/-- Text between two texts in quotes, or at an end of a text. -/
theorem kinds_word {text : List Char} (h : ∀ c ∈ text, endsWord c = false) (hne : text ≠ []) :
    kinds (text.map .char) = [Lexeme.kind (.word text)] := by
  have hjoins : ∀ a ∈ text.map Token.char, ∀ b ∈ text.map Token.char, a.joins b = true := by
    simp only [List.forall_mem_map, Token.joins, Token.isWordPart]
    intro c hc d hd
    rw [h c hc, h d hd]
    rfl
  have hrun : (text.map Token.char).splitBy Token.joins = [text.map .char] :=
    List.splitBy_of_isChain (by simpa using hne)
      (List.pairwise_of_forall_mem_list hjoins).isChain
  have hlexeme : Lexeme.ofRun? (text.map .char) = some (.word text) := by
    match text with
    | [c] =>
      have hc := h c List.mem_cons_self
      rw [endsWord, Bool.or_eq_false_iff] at hc
      simp [Lexeme.ofRun?, hc]
    | c :: d :: text =>
      simp [Lexeme.ofRun?, Token.char?, List.filterMap_map, Function.comp_def]
  rw [kinds, hrun, List.filterMap_cons_some hlexeme]
  rfl

theorem isNumber_of_numeric {text : List Char} (h : Numeric text)
    (hdigit : ∃ c ∈ text, c.isDigit = true) : Lexeme.isNumber text = true := by
  rw [Lexeme.isNumber, Bool.and_eq_true, List.any_eq_true, List.all_eq_true]
  refine ⟨hdigit, fun c hc => ?_⟩
  rcases h c hc with hc | rfl | rfl
  · simp [hc]
  · rfl
  · rfl

theorem endsWord_of_numeric {text : List Char} (h : Numeric text) :
    ∀ c ∈ text, endsWord c = false := by
  have hdigits : ∀ code < 128, (Char.ofNat code).isDigit = true →
      endsWord (Char.ofNat code) = false := by
    decide +kernel
  intro c hc
  rcases h c hc with hdigit | rfl | rfl
  · have hcode := hdigits c.toNat (by have := Number.isDigit_iff_toNat.mp hdigit; omega)
    rw [Char.ofNat_toNat] at hcode
    exact hcode hdigit
  · decide
  · decide

/-- A table name is read as its parts, with a point between any two of them. -/
theorem kinds_pathTokens (name : String) :
    kinds (pathTokens name) =
      [Lexeme.Kind.word ['.']].intercalate
        (.replicate (Text.pieces '.' name.toList).length [.name]) := by
  rw [pathTokens]
  induction Text.pieces '.' name.toList with
  | nil => rfl
  | cons part parts ih =>
    cases parts with
    | nil => rfl
    | cons next parts =>
      rw [List.map_cons, List.map_cons, List.length_cons, List.length_cons, List.replicate_succ,
        List.replicate_succ, List.intercalate_cons_cons, List.intercalate_cons_cons,
        kinds_append (by simp [Token.joins, Token.isWordPart]),
        kinds_append (by simp [Token.joins, Token.isWordPart])]
      rw [List.map_cons, List.length_cons, List.replicate_succ] at ih
      rw [ih]
      rfl

end Sql

namespace Value

/-- What the literal of a value is taken for. -/
def literalKind (v : Value) : Sql.Lexeme.Kind :=
  if v.quotedText?.isSome then .string
  else if v.isNull then .word "NULL".toList
  else .number

end Value

namespace Sql

/-! ## Slots -/

/-- A part of a template. -/
inductive Slot where
  /-- Keywords, column types and what else has no quotes. -/
  | text (words : String)
  /-- A table name, with its parts quoted one by one. -/
  | path (table : String)
  | name (column : String)
  | string (content : String)
  | value (v : Value)

namespace Slot

/-- The text in the slot. -/
@[simp] def sql : Slot → String
  | text words => words
  | path table => Name.quotedPath table
  | name column => Name.quoted column
  | string content => Literal.ofText content
  | value v => v.literal?.getD ""

/-- What the text is scanned as. -/
def tokens : Slot → List Token
  | text words => words.toList.map .char
  | path table => pathTokens table
  | name column => [nameToken column]
  | string content => [.string content.toList]
  | value v =>
    match v.quotedText? with
    | some content => [.string content]
    | none => (v.literal?.getD "").toList.map .char

/-- The texts and names in the slot. -/
@[simp] def payload : Slot → List Token
  | text _ => []
  | path table => nameTokens table
  | name column => [nameToken column]
  | string content => [.string content.toList]
  | value v => v.payload

/-- The slot is filled with what belongs there. -/
def Sound : Slot → Prop
  | text words => Separator words
  | value v => v.literal?.isSome = true
  | _ => True

/-- Nothing that follows goes on with what is in the slot. -/
def closed : Slot → Bool
  | text words => words.toList.getLast?.all endsWord
  | path _ | name _ => true
  | string _ | value _ => false

/-- What is in the slot goes on with nothing in front of it. -/
def apart : Slot → Bool
  | text words => words.toList.head?.all endsWord
  | path _ | name _ => true
  | string _ | value _ => false

/-- The slots may stand beside each other. -/
def Fits (a b : Slot) : Prop := a.closed = true ∨ b.apart = true

/-- What the slot is read as. -/
def kinds (s : Slot) : List Lexeme.Kind := Sql.kinds s.tokens

/-! ### One slot -/

/-- A literal is a string, or a word without quotes. -/
theorem value_forms {v : Value} (h : v.literal?.isSome = true) :
    (∃ content, (value v).sql = Literal.ofChars content ∧ (value v).tokens = [.string content] ∧
      v.payload = [.string content] ∧ v.literalKind = .string) ∨
    (∃ word, (value v).sql.toList = word ∧ (value v).tokens = word.map .char ∧ v.payload = [] ∧
      v.literalKind = Lexeme.kind (.word word) ∧ Inert word ∧ word ≠ [] ∧
      ∀ c ∈ word, endsWord c = false) := by
  obtain ⟨sql, hsql⟩ := Option.isSome_iff_exists.mp h
  have hliteral : v.hasLiteral = true := by rw [← v.isSome_literal?, h]
  rcases Value.literal?_forms hsql with ⟨content, hquoted, rfl⟩ | ⟨hquoted, hform⟩
  · refine .inl ⟨content, ?_⟩
    simp [Slot.sql, tokens, Value.payload, Value.literalKind, hsql, hquoted]
  · refine .inr ⟨sql.toList, by simp [Slot.sql, hsql], by simp [tokens, hsql, hquoted],
      by simp [Value.payload, hquoted, hliteral], ?_⟩
    rcases hform with ⟨rfl, rfl⟩ | ⟨hnumeric, hdigit⟩
    · have hword : "NULL".toList.all (!endsWord ·) = true := by decide
      exact ⟨rfl, by decide, by decide, by simpa using hword⟩
    · have hnull : v.isNull = false := by
        cases v with
        | null =>
          cases hsql
          exact absurd (List.any_eq_true.mpr hdigit) (by decide)
        | _ => rfl
      obtain ⟨c, hc, -⟩ := id hdigit
      refine ⟨?_, .ofNumeric hnumeric, List.ne_nil_of_mem hc, endsWord_of_numeric hnumeric⟩
      simp [Value.literalKind, hquoted, hnull, Lexeme.kind, isNumber_of_numeric hnumeric hdigit]

/-- There is always a first part of a table name. -/
theorem exists_pathTokens_eq (table : String) :
    ∃ content rest, pathTokens table = .name content :: rest := by
  obtain ⟨part, parts, hparts⟩ := List.exists_cons_of_ne_nil
    (Text.pieces_ne_nil '.' table.toList)
  rw [pathTokens, hparts]
  cases parts with
  | nil => exact ⟨_, _, rfl⟩
  | cons next parts =>
    rw [List.map_cons, List.map_cons, List.intercalate_cons_cons]
    exact ⟨_, _, rfl⟩

theorem isWordPart_getLast?_pathTokens (table : String) :
    ∀ x ∈ (pathTokens table).getLast?, x.isWordPart = false := by
  rw [pathTokens]
  induction Text.pieces '.' table.toList with
  | nil => simp
  | cons part parts ih =>
    cases parts with
    | nil => simp [Token.isWordPart]
    | cons next parts =>
      rw [List.map_cons, List.map_cons, List.intercalate_cons_cons,
        List.getLast?_append_of_ne_nil]
      · exact ih
      · cases parts <;> simp

theorem tokens_ne_nil {s : Slot} (h : s.Sound) : s.tokens ≠ [] := by
  cases s with
  | text words => simpa [tokens] using h.nonempty
  | path table =>
    obtain ⟨content, rest, htokens⟩ := exists_pathTokens_eq table
    rw [tokens, htokens]
    exact List.cons_ne_nil _ _
  | name column => exact List.cons_ne_nil _ _
  | string content => exact List.cons_ne_nil _ _
  | value v =>
    rcases value_forms h with ⟨content, -, htokens, -⟩ | ⟨word, -, htokens, -, -, -, hne, -⟩
    · rw [htokens]
      exact List.cons_ne_nil _ _
    · rw [htokens, ne_eq, List.map_eq_nil_iff]
      exact hne

/-- A string is the only thing that goes on with a quote behind it. -/
theorem closes {s : Slot} (h : s.Sound) (hclosed : s.closed = true) :
    Closes s.sql.toList s.tokens := by
  cases s with
  | text words => exact h.inert.unquoted.closes
  | path table => exact closes_quotedPath table
  | name column =>
    rw [sql, Name.quoted, String.toList_ofList]
    exact closes_quotedChars _
  | string content => cases hclosed
  | value v => cases hclosed

theorem scans {s : Slot} (h : s.Sound) : Scans s.sql.toList s.tokens := by
  cases s with
  | text words => exact h.inert.unquoted.closes.scans
  | path table => exact (closes (s := path table) h rfl).scans
  | name column => exact (closes (s := name column) h rfl).scans
  | string content => exact scans_ofChars _
  | value v =>
    rcases value_forms h with ⟨content, hsql, htokens, -⟩ | ⟨word, hsql, htokens, -, -, hinert, -⟩
    · rw [hsql, htokens]
      exact scans_ofChars content
    · rw [hsql, htokens]
      exact hinert.unquoted.closes.scans

/-- No string in front of the slot goes on with it. -/
theorem exists_sql_eq {s : Slot} (h : s.Sound) (hapart : s.apart = true) :
    ∃ c rest, s.sql.toList = c :: rest ∧ c ≠ '\'' := by
  cases s with
  | text words =>
    obtain ⟨c, rest, hwords⟩ := List.exists_cons_of_ne_nil h.nonempty
    exact ⟨c, rest, hwords, (h.inert c (hwords ▸ List.mem_cons_self)).1⟩
  | path table =>
    obtain ⟨part, parts, hparts⟩ := List.exists_cons_of_ne_nil
      (Text.pieces_ne_nil '.' table.toList)
    refine ⟨'"', ?_⟩
    cases parts <;> simp [sql, Name.quotedPath, hparts, Name.quotedChars]
  | name column =>
    rw [sql, Name.quoted, String.toList_ofList]
    exact ⟨'"', _, rfl, by decide⟩
  | string content => cases hapart
  | value v => cases hapart

/-- No word of the slot goes on behind it. -/
theorem isWordPart_getLast? {s : Slot} (hclosed : s.closed = true) :
    ∀ x ∈ s.tokens.getLast?, x.isWordPart = false := by
  cases s with
  | text words =>
    rw [closed, Option.all_eq_true] at hclosed
    simpa [tokens, Token.isWordPart] using hclosed
  | path table => exact isWordPart_getLast?_pathTokens table
  | name column => simp [tokens, nameToken, Token.isWordPart]
  | string content => cases hclosed
  | value v => cases hclosed

/-- No word in front of the slot goes on with it. -/
theorem isWordPart_head? {s : Slot} (hapart : s.apart = true) :
    ∀ y ∈ s.tokens.head?, y.isWordPart = false := by
  cases s with
  | text words =>
    rw [apart, Option.all_eq_true] at hapart
    simpa [tokens, Token.isWordPart] using hapart
  | path table =>
    obtain ⟨content, rest, htokens⟩ := exists_pathTokens_eq table
    simp [tokens, htokens, Token.isWordPart]
  | name column => simp [tokens, nameToken, Token.isWordPart]
  | string content => cases hapart
  | value v => cases hapart

theorem filter_tokens {s : Slot} (h : s.Sound) :
    s.tokens.filter Token.isPayload = s.payload := by
  cases s with
  | text words => exact filter_map_char h.inert
  | path table => exact filter_pathTokens table
  | name column => rfl
  | string content => rfl
  | value v =>
    rw [payload]
    rcases value_forms h with ⟨content, -, htokens, hpayload, -⟩ |
      ⟨word, -, htokens, hpayload, -, hinert, -⟩
    · rw [htokens, hpayload]
      rfl
    · rw [htokens, hpayload]
      exact filter_map_char hinert

/-- **A value is read as one lexeme.** -/
theorem kinds_value {v : Value} (h : v.literal?.isSome = true) :
    (value v).kinds = [v.literalKind] := by
  rw [kinds]
  rcases value_forms h with ⟨content, -, htokens, -, hkind⟩ |
    ⟨word, -, htokens, -, hkind, -, hne, hword⟩
  · rw [htokens, hkind]
    rfl
  · rw [htokens, hkind]
    exact kinds_word hword hne

@[simp] theorem kinds_name (column : String) : (name column).kinds = [.name] := rfl

@[simp] theorem kinds_string (content : String) : (string content).kinds = [.string] := rfl

/-- Of a table name, a reader finds out how many parts it has. -/
theorem kinds_path {table other : String}
    (h : (Text.pieces '.' table.toList).length = (Text.pieces '.' other.toList).length) :
    (path table).kinds = (path other).kinds := by
  rw [kinds, kinds, tokens, tokens, kinds_pathTokens, kinds_pathTokens, h]

end Slot

/-! ## Templates -/

/-- The text of a template. -/
def templateSql (slots : List Slot) : String := String.join (slots.map Slot.sql)

@[simp] theorem templateSql_nil : templateSql [] = "" := rfl

@[simp] theorem templateSql_cons (s : Slot) (slots : List Slot) :
    templateSql (s :: slots) = s.sql ++ templateSql slots := by
  rw [templateSql, List.map_cons, String.join_cons, templateSql]

/-- Everything in the slots is what belongs there, and every two slots in a row fit. -/
structure Readable (slots : List Slot) : Prop where
  sound : ∀ s ∈ slots, s.Sound
  fits : slots.IsChain Slot.Fits

namespace Readable

/-! ### Building templates -/

theorem nil : Readable [] := ⟨List.forall_mem_nil _, .nil⟩

theorem cons {s : Slot} {rest : List Slot} (hs : s.Sound) (hfits : ∀ t ∈ rest.head?, s.Fits t)
    (hrest : Readable rest) : Readable (s :: rest) :=
  ⟨List.forall_mem_cons.mpr ⟨hs, hrest.sound⟩, List.isChain_cons.mpr ⟨hfits, hrest.fits⟩⟩

theorem text {words : String} (h : Separator words) : Readable [.text words] :=
  ⟨List.forall_mem_singleton.mpr h, .singleton _⟩

/-- A table name may stand between any two texts. -/
theorem path {words table : String} {rest : List Slot} (hwords : Separator words)
    (hrest : Readable rest) : Readable (.text words :: .path table :: rest) :=
  cons hwords (fun _ ht => by cases ht; exact .inr rfl) (cons trivial (fun _ _ => .inl rfl) hrest)

/-- So may a name. -/
theorem name {words column : String} {rest : List Slot} (hwords : Separator words)
    (hrest : Readable rest) : Readable (.text words :: .name column :: rest) :=
  cons hwords (fun _ ht => by cases ht; exact .inr rfl) (cons trivial (fun _ _ => .inl rfl) hrest)

/-- Everything else stands between texts that end and begin with a character of no word. -/
theorem filled {words : String} {s : Slot} {rest : List Slot} (hwords : Separator words)
    (hclosed : (Slot.text words).closed = true) (hs : s.Sound)
    (hapart : rest.head?.all Slot.apart = true) (hrest : Readable rest) :
    Readable (.text words :: s :: rest) :=
  cons hwords (fun _ _ => .inl hclosed)
    (cons hs (fun t ht => .inr ((Option.all_eq_true _ _).mp hapart t ht)) hrest)

/-! ### Reading templates -/

theorem tail {s : Slot} {slots : List Slot} (h : Readable (s :: slots)) : Readable slots :=
  ⟨fun t ht => h.sound t (List.mem_cons_of_mem s ht), h.fits.tail⟩

/-- What is in the slots is scanned on its own. -/
theorem scans {slots : List Slot} (h : Readable slots) :
    Scans (templateSql slots).toList (slots.flatMap Slot.tokens) := by
  induction slots with
  | nil => exact Closes.nil.scans
  | cons s rest ih =>
    have hs := h.sound s List.mem_cons_self
    have hrest := ih h.tail
    rw [templateSql_cons, String.toList_append, List.flatMap_cons]
    cases rest with
    | nil => exact (Slot.scans hs).append hrest nofun
    | cons t rest =>
      rcases List.isChain_cons_cons.mp h.fits |>.1 with hclosed | hapart
      · exact (Slot.closes hs hclosed).appendScans hrest
      · have ht := h.sound t (List.mem_cons_of_mem s List.mem_cons_self)
        obtain ⟨c, more, hsql, hc⟩ := Slot.exists_sql_eq ht hapart
        refine (Slot.scans hs).append hrest ?_
        rw [templateSql_cons, String.toList_append, hsql]
        exact fun hquote => hc (Option.some.inj hquote)

/-- What is in the slots is put together to words on its own. -/
theorem kinds {slots : List Slot} (h : Readable slots) :
    Sql.kinds (slots.flatMap Slot.tokens) = slots.flatMap Slot.kinds := by
  induction slots with
  | nil => rfl
  | cons s rest ih =>
    rw [List.flatMap_cons, List.flatMap_cons, ← ih h.tail, Slot.kinds]
    refine kinds_append fun x hx y hy => ?_
    cases rest with
    | nil => cases hy
    | cons t rest =>
      have ht := h.sound t (List.mem_cons_of_mem s List.mem_cons_self)
      rw [List.flatMap_cons, List.head?_append_of_ne_nil _ (Slot.tokens_ne_nil ht)] at hy
      rw [Token.joins, Bool.and_eq_false_iff]
      rcases List.isChain_cons_cons.mp h.fits |>.1 with hclosed | hapart
      · exact .inl (Slot.isWordPart_getLast? hclosed x hx)
      · exact .inr (Slot.isWordPart_head? hapart y hy)

end Readable

/-- **A template is read slot by slot.** -/
theorem Readable.reads {slots : List Slot} (h : Readable slots) :
    kinds? (templateSql slots) = some (slots.flatMap Slot.kinds) ∧
    quotedIn? (templateSql slots) = some (slots.flatMap Slot.payload) := by
  have hpayload : (slots.flatMap Slot.tokens).filter Token.isPayload =
      slots.flatMap Slot.payload := by
    rw [List.filter_flatMap]
    exact List.flatMap_congr fun s hs => Slot.filter_tokens (h.sound s hs)
  rw [kinds?, quotedIn?, h.scans.scan, Option.map_some, Option.map_some, h.kinds, hpayload]
  exact ⟨rfl, rfl⟩

end Sql

end Anywhere
