import Anywhere.Column.TypeName
import Anywhere.Proofs.Numerals

/-!
# The grammar of column type names

A type name without the white space at its ends has this form, where a name consists of letters,
digits, underscores and spaces, and a number stays below 2 ^ 32:

    type   = name [ "(" space number [ space "," space number ] space ")" ]
    name   = 1*( letter / digit / "_" / " " )
    number = 1*( "0" / … / "9" )
    space  = *( " " / tab / carriage return / line feed )

The rules are the inductive types `Arguments` and `Derives`. They say nothing of how a text is read,
and an alternative that was tried in vain leaves no trace in them. What is left over when a text is
none of this is found by its longest name, by numbers in parentheses if there are any, and by the
white space behind them (`Stops`). The result of reading a text is settled by these rules alone
(`TypeName.ofText?_eq_iff_outcome`).

Each function that reads a part is shown to read what the rule for that part derives, and nothing
else. Nowhere do the rules have to say that a run is the longest one, since no part can go on with
what may follow it.
-/

namespace Anywhere.Column

open Anywhere.Number (AllDigits ofDigits spanDigits)
open Anywhere.Text (isBlank stripBlanks)

/-- A run of characters ends where it cannot go on. -/
theorem span_append {p : Char → Bool} {run rest : List Char} (hrun : ∀ c ∈ run, p c = true)
    (hrest : ∀ c ∈ rest.head?, p c = false) :
    (run ++ rest).takeWhile p = run ∧ (run ++ rest).dropWhile p = rest := by
  rw [List.takeWhile_append_of_pos hrun, List.dropWhile_append_of_pos hrun]
  cases rest with
  | nil => simp
  | cons c rest => simp [hrest c rfl]

/-- What is left behind the longest run cannot make it longer. -/
theorem head?_dropWhile {p : Char → Bool} (text : List Char) :
    ∀ c ∈ (text.dropWhile p).head?, p c = false := by
  intro c hc
  obtain ⟨rest, hrest⟩ := List.head?_eq_some_iff.mp hc
  have hstop := List.dropWhile_get_zero_not p text (by simp [hrest])
  simpa [hrest] using hstop

namespace TypeName

/-! ## The rules -/

/-- White space between the parts. -/
def Space (text : List Char) : Prop := ∀ c ∈ text, isSpace c = true

/-- Digits that denote a number of 32 bits. -/
structure Numeral (text : List Char) (n : UInt32) : Prop where
  nonempty : text ≠ []
  digits : AllDigits text
  value : ofDigits text = n.toNat

/-- The numbers in parentheses. -/
inductive Arguments : List Char → UInt32 → Option UInt32 → Prop where
  | width {s₁ width s₂ : List Char} {n : UInt32} :
      Space s₁ → Numeral width n → Space s₂ →
      Arguments ('(' :: (s₁ ++ (width ++ (s₂ ++ [')'])))) n none
  | widthScale {s₁ width s₂ s₃ scale s₄ : List Char} {n m : UInt32} :
      Space s₁ → Numeral width n → Space s₂ → Space s₃ → Numeral scale m → Space s₄ →
      Arguments ('(' :: (s₁ ++ (width ++ (s₂ ++ (',' :: (s₃ ++ (scale ++ (s₄ ++ [')'])))))))) n
        (some m)

/-- A name, which is not empty. -/
structure Name (text : List Char) : Prop where
  nonempty : text ≠ []
  chars : ∀ c ∈ text, isNameChar c = true

/-- The words of a name, which is cut at its spaces, with single spaces in between and in lower
case. -/
def canonical (name : List Char) : String :=
  Text.lowercase (String.ofList
    ([' '].intercalate ((name.splitOn ' ').filter fun word => !word.isEmpty)))

/-- A type name and what it says. -/
inductive Derives : List Char → TypeName → Prop where
  | plain {name : List Char} : Name name → Derives name ⟨canonical name, none, none⟩
  | sized {name arguments : List Char} {n : UInt32} {scale : Option UInt32} :
      Name name → Arguments arguments n scale →
      Derives (name ++ arguments) ⟨canonical name, some n, scale⟩

/-- How a text that begins with a name falls apart if something is left over. -/
structure Stops (name arguments space left : List Char) : Prop where
  name : Name name
  /-- The name is as long as can be. -/
  nameEnds : ∀ c ∈ (arguments ++ (space ++ left)).head?, isNameChar c = false
  /-- There are numbers in parentheses, or else no beginning of what follows is any. -/
  arguments : (∃ n scale, Arguments arguments n scale) ∨
    arguments = [] ∧ ∀ part n scale, part <+: space ++ left → ¬ Arguments part n scale
  space : Space space
  nonempty : left ≠ []
  /-- The white space is as long as can be. -/
  spaceEnds : ∀ c ∈ left.head?, isSpace c = false

/-- The result for a text without white space at its ends. -/
inductive Outcome (text : List Char) : Except Fault TypeName → Prop where
  | accepted {t : TypeName} : Derives text t → Outcome text (.ok t)
  | nameless : (∀ c ∈ text.head?, isNameChar c = false) →
      Outcome text (.error (.parse 0 (.invalidTypeName (String.ofList text))))
  | leftOver {name arguments space left : List Char} :
      text = name ++ (arguments ++ (space ++ left)) → Stops name arguments space left →
      Outcome text (.error (.parse (Text.Utf8.size (name ++ (arguments ++ space)))
        (.trailingContent (String.ofList text) (String.ofList left))))

/-! ## White space -/

theorem isSpace_of_isDigit {c : Char} (h : c.isDigit = true) : isSpace c = false := by
  cases hspace : isSpace c with
  | false => rfl
  | true =>
    simp only [isSpace, Bool.or_eq_true, beq_iff_eq] at hspace
    rcases hspace with ((rfl | rfl) | rfl) | rfl <;> exact absurd h (by decide)

theorem isDigit_of_isSpace {c : Char} (h : isSpace c = true) : c.isDigit = false := by
  cases hdigit : c.isDigit with
  | false => rfl
  | true => exact absurd h (by simp [isSpace_of_isDigit hdigit])

theorem isBlank_of_isSpace {c : Char} (h : isSpace c = true) : isBlank c = true := by
  simp only [isSpace, Bool.or_eq_true, beq_iff_eq] at h
  rcases h with ((rfl | rfl) | rfl) | rfl <;> decide

theorem skip_append {space rest : List Char} (hspace : Space space)
    (hrest : ∀ c ∈ rest.head?, isSpace c = false) : skip (space ++ rest) = rest :=
  (span_append hspace hrest).2

theorem exists_space (text : List Char) : ∃ space, Space space ∧ text = space ++ skip text :=
  ⟨text.takeWhile isSpace, fun _ => List.mem_takeWhile_imp,
    List.takeWhile_append_dropWhile.symm⟩

/-- A text without white space at its end does not end with white space. -/
theorem eq_nil_of_space {text front space : List Char} (h : stripBlanks text = front ++ space)
    (hspace : Space space) : space = [] := by
  by_contra hne
  have hstrip : stripBlanks text ≠ [] := h ▸ List.append_ne_nil_of_right_ne_nil front hne
  have hlast : (stripBlanks text).getLast hstrip = space.getLast hne := by
    simp only [h, List.getLast_append_of_ne_nil _ hne]
  refine List.rdropWhile_last_not isBlank (Text.dropBlanks text) hstrip ?_
  rw [← isBlank_of_isSpace (hspace _ (List.getLast_mem hne)), ← hlast]
  rfl

/-! ## Numbers -/

theorem Numeral.head {text : List Char} {n : UInt32} (h : Numeral text n) (rest : List Char) :
    ∀ c ∈ (text ++ rest).head?, isSpace c = false := by
  intro c hc
  obtain ⟨d, text, rfl⟩ := List.exists_cons_of_ne_nil h.nonempty
  obtain rfl : d = c := Option.some.inj hc
  exact isSpace_of_isDigit (h.digits d List.mem_cons_self)

theorem number?_append {digits rest : List Char} {n : UInt32} (h : Numeral digits n)
    (hrest : ∀ c ∈ rest.head?, c.isDigit = false) : number? (digits ++ rest) = some (n, rest) := by
  obtain ⟨hrun, hleft⟩ := span_append h.digits hrest
  rw [number?, spanDigits, hrun, hleft]
  cases digits with
  | nil => exact absurd rfl h.nonempty
  | cons d digits => simp [h.value, n.toNat_lt_size]

theorem exists_of_number? {text rest : List Char} {n : UInt32} (h : number? text = some (n, rest)) :
    ∃ digits, text = digits ++ rest ∧ Numeral digits n := by
  have hdigits : AllDigits (text.takeWhile Char.isDigit) := fun _ => List.mem_takeWhile_imp
  rw [number?, spanDigits] at h
  cases hrun : text.takeWhile Char.isDigit with
  | nil =>
    rw [hrun] at h
    exact nomatch h
  | cons c run =>
    rw [hrun] at h hdigits
    obtain ⟨hlt, heq⟩ := Option.ite_none_right_eq_some.mp h
    cases heq
    refine ⟨c :: run, ?_, List.cons_ne_nil c run, hdigits, ?_⟩
    · rw [← hrun, List.takeWhile_append_dropWhile]
    · exact (UInt32.toNat_ofNat_of_lt' hlt).symm

theorem scale?_append {s₁ s₂ digits rest : List Char} {n : UInt32} (h₁ : Space s₁) (h₂ : Space s₂)
    (h : Numeral digits n) (hrest : ∀ c ∈ rest.head?, c.isDigit = false) :
    scale? (s₁ ++ (',' :: (s₂ ++ (digits ++ rest)))) = some (n, rest) := by
  have hcomma : skip (s₁ ++ (',' :: (s₂ ++ (digits ++ rest)))) = ',' :: (s₂ ++ (digits ++ rest)) :=
    skip_append h₁ fun c hc => by rw [← Option.some.inj hc]; decide
  simp only [scale?, hcomma, skip_append h₂ (h.head rest)]
  exact number?_append h hrest

theorem exists_of_scale? {text rest : List Char} {n : UInt32} (h : scale? text = some (n, rest)) :
    ∃ s₁ s₂ digits, text = s₁ ++ (',' :: (s₂ ++ (digits ++ rest))) ∧ Space s₁ ∧ Space s₂ ∧
      Numeral digits n := by
  unfold scale? at h
  split at h
  · next inner hcomma =>
    obtain ⟨s₁, h₁, htext⟩ := exists_space text
    obtain ⟨s₂, h₂, hinner⟩ := exists_space inner
    obtain ⟨digits, hdigits, hnumeral⟩ := exists_of_number? h
    exact ⟨s₁, s₂, digits, by rw [htext, hcomma, hinner, hdigits], h₁, h₂, hnumeral⟩
  · exact nomatch h

/-! ## Numbers in parentheses -/

/-- White space in front of something else than a digit cannot make a number longer. -/
theorem head?_space {space rest : List Char} (h : Space space)
    (hrest : ∀ c ∈ rest.head?, c.isDigit = false) :
    ∀ c ∈ (space ++ rest).head?, c.isDigit = false := by
  cases space with
  | nil => exact hrest
  | cons c space =>
    intro d hd
    rw [← Option.some.inj hd]
    exact isDigit_of_isSpace (h c List.mem_cons_self)

/-- **Numbers in parentheses are read,** whatever follows them. -/
theorem arguments?_append {arguments : List Char} {n : UInt32} {scale : Option UInt32}
    (h : Arguments arguments n scale) (rest : List Char) :
    arguments? (arguments ++ rest) = some ((n, scale), rest) := by
  have hclose : ∀ c ∈ (')' :: rest).head?, isSpace c = false ∧ c.isDigit = false := by
    intro c hc
    rw [← Option.some.inj hc]
    decide
  cases h with
  | @width s₁ width s₂ n h₁ hwidth h₂ =>
    have hscale : scale? (s₂ ++ (')' :: rest)) = none := by
      simp [scale?, skip_append h₂ fun c hc => (hclose c hc).1]
    have hnumber := number?_append hwidth (head?_space h₂ fun c hc => (hclose c hc).2)
    simp [arguments?, skip_append h₁ (hwidth.head _), hnumber, hscale,
      skip_append h₂ fun c hc => (hclose c hc).1]
  | @widthScale s₁ width s₂ s₃ scale s₄ n m h₁ hwidth h₂ h₃ hscale h₄ =>
    have hcomma : ∀ c ∈ (',' :: (s₃ ++ (scale ++ (s₄ ++ (')' :: rest))))).head?,
        c.isDigit = false := by
      intro c hc
      rw [← Option.some.inj hc]
      decide
    have hread := scale?_append h₂ h₃ hscale (head?_space h₄ fun c hc => (hclose c hc).2)
    have hnumber := number?_append hwidth (head?_space h₂ hcomma)
    simp [arguments?, skip_append h₁ (hwidth.head _), hnumber, hread,
      skip_append h₄ fun c hc => (hclose c hc).1]

/-- **Nothing else is read.** -/
theorem exists_of_arguments? {text rest : List Char} {n : UInt32} {scale : Option UInt32}
    (h : arguments? text = some ((n, scale), rest)) :
    ∃ arguments, text = arguments ++ rest ∧ Arguments arguments n scale := by
  unfold arguments? at h
  split at h
  · next inner =>
    obtain ⟨⟨width, left⟩, hnumber, h⟩ := Option.bind_eq_some_iff.mp h
    obtain ⟨s₁, h₁, hinner⟩ := exists_space inner
    obtain ⟨digits, hdigits, hwidth⟩ := exists_of_number? hnumber
    cases hscale : scale? left with
    | none =>
      simp only [hscale] at h
      split at h
      · next close hclose =>
        cases h
        obtain ⟨s₂, h₂, hleft⟩ := exists_space left
        refine ⟨_, ?_, .width h₁ hwidth h₂⟩
        rw [hinner, hdigits, hleft, hclose]
        simp
      · exact nomatch h
    | some read =>
      obtain ⟨m, behind⟩ := read
      simp only [hscale] at h
      split at h
      · next close hclose =>
        cases h
        obtain ⟨s₂, s₃, places, hleft, h₂, h₃, hplaces⟩ := exists_of_scale? hscale
        obtain ⟨s₄, h₄, hbehind⟩ := exists_space behind
        refine ⟨_, ?_, .widthScale h₁ hwidth h₂ h₃ hplaces h₄⟩
        rw [hinner, hdigits, hleft, hbehind, hclose]
        simp
      · exact nomatch h
  · exact nomatch h

theorem arguments?_eq_none {text : List Char}
    (h : ∀ part n scale, part <+: text → ¬ Arguments part n scale) : arguments? text = none := by
  cases hread : arguments? text with
  | none => rfl
  | some read =>
    obtain ⟨⟨n, scale⟩, rest⟩ := read
    obtain ⟨arguments, htext, harguments⟩ := exists_of_arguments? hread
    exact absurd harguments (h _ _ _ ⟨rest, htext.symm⟩)

/-- Numbers in parentheses cannot be part of a name. -/
theorem Arguments.head {arguments : List Char} {n : UInt32} {scale : Option UInt32}
    (h : Arguments arguments n scale) (rest : List Char) :
    ∀ c ∈ (arguments ++ rest).head?, isNameChar c = false := by
  have hopen : isNameChar '(' = false := by decide +kernel
  intro c hc
  cases h <;> exact Option.some.inj hc ▸ hopen

/-! ## Names -/

/-- White space beyond ASCII. -/
def blankRanges : Text.Ranges := [
  (0x85, 0x85), (0xA0, 0xA0), (0x1680, 0x1680), (0x2000, 0x200A), (0x2028, 0x2029),
  (0x202F, 0x202F), (0x205F, 0x205F), (0x3000, 0x3000)]

theorem holds_blankRanges {c : Char} (hcode : 128 ≤ c.toNat) (h : isBlank c = true) :
    blankRanges.holds c = true := by
  simp only [isBlank, Bool.or_eq_true, Bool.and_eq_true, decide_eq_true_eq, beq_iff_eq] at h
  simp only [Text.Ranges.holds, blankRanges, List.any_cons, List.any_nil, Bool.or_false,
    Bool.or_eq_true, Bool.and_eq_true, decide_eq_true_eq]
  omega

/-- No code point lies in a range of the one list and in a range of the other. -/
def disjoint (a b : Text.Ranges) : Bool :=
  a.all fun r => b.all fun s => Nat.blt r.2 s.1 || Nat.blt s.2 r.1

theorem holds_eq_false_of_disjoint {a b : Text.Ranges} {c : Char} (h : disjoint a b = true)
    (ha : a.holds c = true) : b.holds c = false := by
  obtain ⟨r, hr, hin⟩ := List.any_eq_true.mp ha
  refine List.any_eq_false.mpr fun s hs hin' => ?_
  have hapart := List.all_eq_true.mp (List.all_eq_true.mp h r hr) s hs
  simp only [Bool.or_eq_true, Nat.blt_eq, Bool.and_eq_true, decide_eq_true_eq] at hapart hin hin'
  omega

/-- A space is the only white space in a name. -/
theorem eq_space_of_isNameChar {c : Char} (h : isNameChar c = true) (hblank : isBlank c = true) :
    c = ' ' := by
  by_cases hcode : c.toNat < 128
  · have hascii : ∀ code < 128, isNameChar (Char.ofNat code) = true →
        isBlank (Char.ofNat code) = true → Char.ofNat code = ' ' := by decide
    have hspace := hascii c.toNat hcode
    rw [Char.ofNat_toNat] at hspace
    exact hspace h hblank
  · have hdisjoint : disjoint blankRanges Text.alphanumericRanges = true := by decide +kernel
    have halpha : Text.isAlphanumeric c = false := by
      rw [Text.isAlphanumeric, if_neg hcode]
      exact holds_eq_false_of_disjoint hdisjoint (holds_blankRanges (Nat.le_of_not_lt hcode) hblank)
    simp only [isNameChar, halpha, Bool.false_or, Bool.or_eq_true, beq_iff_eq] at h
    rcases h with rfl | rfl <;> exact absurd (by decide) hcode

theorem isBlank_of_isNameChar {c : Char} (h : isNameChar c = true) : isBlank c = (c == ' ') := by
  cases hblank : isBlank c with
  | true =>
    rw [eq_space_of_isNameChar h hblank]
    rfl
  | false =>
    refine (beq_eq_false_iff_ne.mpr ?_).symm
    rintro rfl
    exact absurd hblank (by decide)

theorem modifyHead_nil_append (pieces : List (List Char)) :
    pieces.modifyHead ([] ++ ·) = pieces := by
  cases pieces <;> rfl

/-- The words of a text whose only white space are spaces are its pieces between them. -/
theorem wordsFrom_eq {current text : List Char} (h : ∀ c ∈ text, isBlank c = (c == ' ')) :
    Text.wordsFrom current text =
      ((text.splitOn ' ').modifyHead (current.reverse ++ ·)).filter fun word => !word.isEmpty := by
  induction text generalizing current with
  | nil => cases current <;> simp [Text.wordsFrom]
  | cons c rest ih =>
    rw [List.forall_mem_cons] at h
    rw [Text.wordsFrom, h.1, List.splitOn_cons_eq_if_modifyHead]
    split
    · have hrest : Text.wordsFrom [] rest = _ := ih h.2
      rw [List.reverse_nil, modifyHead_nil_append] at hrest
      cases current <;> simp [hrest]
    · rw [ih h.2, List.modifyHead_modifyHead]
      congr 2
      funext word
      simp

theorem joinWords_eq {name : List Char} (h : Name name) : joinWords name = canonical name := by
  have hblank : ∀ c ∈ name, isBlank c = (c == ' ') :=
    fun c hc => isBlank_of_isNameChar (h.chars c hc)
  rw [joinWords, Text.words, wordsFrom_eq hblank, List.reverse_nil, modifyHead_nil_append,
    canonical]

/-! ## Type names -/

/-- What is read of a name and what follows it. -/
theorem ofText?_eq {text : String} {name rest : List Char}
    (htext : stripBlanks text.toList = name ++ rest) (hname : Name name)
    (hends : ∀ c ∈ rest.head?, isNameChar c = false) :
    ofText? text =
      match skip ((arguments? rest).elim rest (·.2)) with
      | [] => .ok ⟨canonical name, (arguments? rest).map (·.1.1), (arguments? rest).bind (·.1.2)⟩
      | left => .error (.parse (Text.Utf8.size (name ++ rest) - Text.Utf8.size left)
          (.trailingContent (String.ofList (name ++ rest)) (String.ofList left))) := by
  obtain ⟨hrun, hrest⟩ := span_append hname.chars hends
  rw [← joinWords_eq hname]
  simp only [ofText?, htext, hrun, hrest]
  cases name with
  | nil => exact absurd rfl hname.nonempty
  | cons c name => cases arguments? rest <;> rfl

/-- What the rules derive is what is read. -/
theorem ofText?_of_outcome {text : String} {result : Except Fault TypeName}
    (h : Outcome (stripBlanks text.toList) result) : ofText? text = result := by
  generalize htext : stripBlanks text.toList = trimmed at h
  cases h with
  | accepted hderives =>
    cases hderives with
    | plain hname =>
      rw [← List.append_nil trimmed] at htext
      rw [ofText?_eq htext hname nofun]
      rfl
    | sized hname harguments =>
      have hends := harguments.head []
      have hread := arguments?_append harguments []
      rw [List.append_nil] at hends hread
      rw [ofText?_eq htext hname hends, hread]
      rfl
  | nameless hhead =>
    have hnone : trimmed.takeWhile isNameChar = [] := by
      cases trimmed with
      | nil => rfl
      | cons c rest => exact List.takeWhile_cons_of_neg (by simp [hhead c rfl])
    simp only [ofText?, htext, hnone]
  | @leftOver name arguments space left hsplit hstops =>
    have hleft : skip (space ++ left) = left := skip_append hstops.space hstops.spaceEnds
    have hread : skip ((arguments? (arguments ++ (space ++ left))).elim
        (arguments ++ (space ++ left)) (·.2)) = left := by
      rcases hstops.arguments with ⟨n, scale, harguments⟩ | ⟨rfl, hnone⟩
      · rw [arguments?_append harguments]
        exact hleft
      · rw [List.nil_append, arguments?_eq_none hnone]
        exact hleft
    have hsize : Text.Utf8.size (name ++ (arguments ++ (space ++ left))) - Text.Utf8.size left =
        Text.Utf8.size (name ++ (arguments ++ space)) := by
      simp only [Text.Utf8.size_append]
      omega
    rw [ofText?_eq (htext.trans hsplit) hstops.name hstops.nameEnds, hread, hsplit, ← hsize]
    cases left with
    | nil => exact absurd rfl hstops.nonempty
    | cons c left => rfl

/-- What follows a name has numbers in front or not, and then white space. -/
theorem exists_parts (rest : List Char) :
    ∃ arguments space left, rest = arguments ++ (space ++ left) ∧
      ((∃ n scale, Arguments arguments n scale) ∨
        arguments = [] ∧ ∀ part n scale, part <+: space ++ left → ¬ Arguments part n scale) ∧
      Space space ∧ ∀ c ∈ left.head?, isSpace c = false := by
  by_cases hsome : ∃ part n scale, part <+: rest ∧ Arguments part n scale
  · obtain ⟨part, n, scale, ⟨behind, rfl⟩, harguments⟩ := hsome
    obtain ⟨space, hspace, hbehind⟩ := exists_space behind
    exact ⟨part, space, skip behind, by rw [← hbehind], .inl ⟨n, scale, harguments⟩, hspace,
      head?_dropWhile behind⟩
  · obtain ⟨space, hspace, hrest⟩ := exists_space rest
    refine ⟨[], space, skip rest, hrest, .inr ⟨rfl, fun part n scale hpart harguments => ?_⟩,
      hspace, head?_dropWhile rest⟩
    exact hsome ⟨part, n, scale, hrest ▸ hpart, harguments⟩

/-- **The rules leave no text out** that does not end with white space. -/
theorem exists_outcome {text : List Char}
    (h : ∀ front space, text = front ++ space → Space space → space = []) :
    ∃ result, Outcome text result := by
  have hsplit := (List.takeWhile_append_dropWhile (p := isNameChar) (l := text)).symm
  have hends := head?_dropWhile (p := isNameChar) text
  by_cases hnil : text.takeWhile isNameChar = []
  · rw [hnil, List.nil_append] at hsplit
    rw [← hsplit] at hends
    exact ⟨_, .nameless hends⟩
  · have hname : Name (text.takeWhile isNameChar) := ⟨hnil, fun _ => List.mem_takeWhile_imp⟩
    obtain ⟨arguments, space, left, hrest, harguments, hspace, hspaceEnds⟩ :=
      exists_parts (text.dropWhile isNameChar)
    rw [hrest] at hsplit hends
    by_cases hleft : left = []
    · rw [hleft, List.append_nil] at hsplit
      have hnone : space = [] :=
        h (text.takeWhile isNameChar ++ arguments) space (by rwa [List.append_assoc]) hspace
      rw [hnone, List.append_nil] at hsplit
      rcases harguments with ⟨n, scale, harguments⟩ | ⟨hempty, -⟩
      · have hderives := Derives.sized hname harguments
        rw [← hsplit] at hderives
        exact ⟨_, .accepted hderives⟩
      · have hderives := Derives.plain hname
        rw [hempty, List.append_nil] at hsplit
        rw [← hsplit] at hderives
        exact ⟨_, .accepted hderives⟩
    · exact ⟨_, .leftOver hsplit ⟨hname, hends, harguments, hspace, hleft, hspaceEnds⟩⟩

/-- **A type name is read as the grammar says.** -/
theorem ofText?_eq_iff_outcome (text : String) (result : Except Fault TypeName) :
    ofText? text = result ↔ Outcome (stripBlanks text.toList) result := by
  refine ⟨?_, ofText?_of_outcome⟩
  rintro rfl
  have hend : ∀ front space, stripBlanks text.toList = front ++ space → Space space → space = [] :=
    fun _ _ => eq_nil_of_space
  obtain ⟨result, hresult⟩ := exists_outcome hend
  rwa [ofText?_of_outcome hresult]

end TypeName

end Anywhere.Column
