import Anywhere.Proofs.ConnectionText

/-!
# The first segment that is no parameter

What a connection string amounts to can be said without reading it from left to right. It is cut at
the separators, each segment is cut at its first equals sign, and every segment that is not empty
has to be *sound*: there is an equals sign with a name in front of it that leaves ink.

If all of them are, the parameters are the segments with the white space at the ends of their names
and values dropped. If not, the first one that is unsound is complained of, at the number of bytes
in front of it (`ConnectionString.ofText?_segments`). What comes behind it is of no concern.

The argument follows the reading, which takes one separator or one segment at a time. Segments with
their positions are taken apart in the same way, by the three equations for `segmentsFrom`.
-/

namespace Anywhere.ConnectionString

open Text

/-! ## Segments with positions -/

/-- A text without separators that is part of a longer text. -/
structure Segment where
  /-- The number of bytes of UTF-8 in front of it. -/
  position : Nat
  text : List Char
deriving DecidableEq, Repr

namespace Segment

/-- What stands in front of the first equals sign. -/
def name (s : Segment) : List Char := s.text.takeWhile (· != '=')

/-- What stands behind the first equals sign. -/
def value (s : Segment) : List Char := (s.text.dropWhile (· != '=')).tail

/-- The parameter that the segment is, if it is one. -/
def parameter (s : Segment) : String × String :=
  (String.ofList (stripBlanks s.name), String.ofList (stripBlanks s.value))

/-- The segment is a parameter. -/
structure Sound (s : Segment) : Prop where
  equals : '=' ∈ s.text
  named : s.name ≠ []
  /-- The name is not only white space. -/
  inked : ∃ c ∈ s.name, isBlank c = false

instance (s : Segment) : Decidable s.Sound :=
  decidable_of_iff (s.text.contains '=' = true ∧ s.name.isEmpty = false ∧
      s.name.any (!isBlank ·) = true)
    ⟨fun ⟨hequals, hnamed, hinked⟩ => ⟨List.contains_iff_mem.mp hequals,
        List.isEmpty_eq_false_iff.mp hnamed, by simpa using hinked⟩,
      fun h => ⟨List.contains_iff_mem.mpr h.equals, List.isEmpty_eq_false_iff.mpr h.named,
        by simpa using h.inked⟩⟩

/-- What is said of a segment that is no parameter. -/
def complaint (s : Segment) : String :=
  if '=' ∈ s.text ∧ s.name ≠ [] then "empty connection parameter name"
  else "expected key=value, found '" ++ String.ofList s.text ++ "'"

/-- Where a segment stands in a text: what is in front of it has as many bytes as its position says
and ends with a separator, if there is anything, and what is behind it begins with one. -/
def StandsIn (s : Segment) (text : List Char) : Prop :=
  ';' ∉ s.text ∧ ∃ front back, text = front ++ s.text ++ back ∧ Utf8.size front = s.position ∧
    (∀ c ∈ front.getLast?, c = ';') ∧ ∀ c ∈ back.head?, c = ';'

end Segment

/-- Texts with one separator between each two of them, where the first has the given position. -/
def locate (position : Nat) : List (List Char) → List Segment
  | [] => []
  | text :: rest => ⟨position, text⟩ :: locate (position + Utf8.size text + 1) rest

/-- The segments of a text whose first byte has the given position, without the empty ones. -/
def segmentsFrom (position : Nat) (text : List Char) : List Segment :=
  (locate position (text.splitOn ';')).filter fun s => !s.text.isEmpty

/-- The segments of a text, without the empty ones. -/
def segments (text : String) : List Segment := segmentsFrom 0 text.toList

theorem not_mem_of_mem_splitOn {separator : Char} {text piece : List Char}
    (h : piece ∈ text.splitOn separator) : separator ∉ piece := by
  induction text generalizing piece with
  | nil =>
    rw [List.splitOn_nil, List.mem_singleton] at h
    rw [h]
    exact List.not_mem_nil
  | cons c rest ih =>
    rw [List.splitOn_cons_eq_if_modifyHead] at h
    obtain ⟨first, more, hrest⟩ := List.exists_cons_of_ne_nil (List.splitOn_ne_nil separator rest)
    rw [hrest] at h ih
    split at h
    · rcases List.mem_cons.mp h with rfl | h
      · exact List.not_mem_nil
      · exact ih h
    · next hc =>
      rcases List.mem_cons.mp h with rfl | h
      · have hne : separator ≠ c := fun heq => hc (by rw [heq, beq_self_eq_true])
        rw [List.mem_cons, not_or]
        exact ⟨hne, ih List.mem_cons_self⟩
      · exact ih (List.mem_cons_of_mem first h)

/-- **Positions are offsets.** Texts are found where they are located. -/
theorem standsIn_of_mem_locate {front : List Char} {texts : List (List Char)} {s : Segment}
    (hfront : ∀ c ∈ front.getLast?, c = ';') (htexts : ∀ text ∈ texts, ';' ∉ text)
    (h : s ∈ locate (Utf8.size front) texts) :
    s.StandsIn (front ++ [';'].intercalate texts) := by
  induction texts generalizing front with
  | nil => exact nomatch h
  | cons text rest ih =>
    rw [List.forall_mem_cons] at htexts
    have hsplit : ∃ back, [';'].intercalate (text :: rest) = text ++ back ∧
        ∀ c ∈ back.head?, c = ';' := by
      cases rest with
      | nil => exact ⟨[], by simp, nofun⟩
      | cons next rest =>
        refine ⟨';' :: [';'].intercalate (next :: rest), by simp [List.intercalate_cons_cons], ?_⟩
        exact fun c hc => (Option.some.inj hc).symm
    obtain ⟨back, hback, hhead⟩ := hsplit
    rcases List.mem_cons.mp h with rfl | h
    · exact ⟨htexts.1, front, back, by rw [hback, List.append_assoc], rfl, hfront, hhead⟩
    · have hseparator : Utf8.size [';'] = 1 := by decide
      have hsize : Utf8.size front + Utf8.size text + 1 = Utf8.size (front ++ (text ++ [';'])) := by
        rw [Utf8.size_append, Utf8.size_append, hseparator, Nat.add_assoc]
      rw [hsize] at h
      have hstands := ih (by simp) htexts.2 h
      cases rest with
      | nil => exact nomatch h
      | cons next rest =>
        rw [List.intercalate_cons_cons]
        simpa using hstands

theorem standsIn_of_mem_segments {text : String} {s : Segment} (h : s ∈ segments text) :
    s.StandsIn text.toList := by
  have hlocated : s ∈ locate (Utf8.size []) (text.toList.splitOn ';') :=
    (List.mem_filter.mp h).1
  have hstands := standsIn_of_mem_locate (by simp) (fun _ => not_mem_of_mem_splitOn) hlocated
  rwa [List.intercalate_splitOn] at hstands

/-! ## One segment at a time -/

@[simp] theorem segmentsFrom_nil (position : Nat) : segmentsFrom position [] = [] := rfl

@[simp] theorem segmentsFrom_separator (position : Nat) (rest : List Char) :
    segmentsFrom position (';' :: rest) = segmentsFrom (position + 1) rest := by
  rw [segmentsFrom, List.splitOn_cons_eq_if_modifyHead, if_pos (beq_self_eq_true _)]
  rfl

/-- A text that does not begin with a separator begins with a segment. -/
theorem segmentsFrom_cons {c : Char} (hc : c ≠ ';') (position : Nat) (rest : List Char) :
    segmentsFrom position (c :: rest) = ⟨position, segment (c :: rest)⟩ ::
      segmentsFrom (position + Utf8.size (segment (c :: rest))) (rest.dropWhile isValueChar) := by
  have hvalue : isValueChar c = true := by simpa [isValueChar] using hc
  have hfirst : segment (c :: rest) = c :: segment rest := List.takeWhile_cons_of_pos hvalue
  rw [segmentsFrom, splitOn_eq_cons, List.dropWhile_cons_of_pos hvalue, hfirst]
  cases hrest : rest.dropWhile isValueChar with
  | nil => rfl
  | cons d more =>
    rw [eq_separator_of_dropWhile hrest, segmentsFrom_separator]
    rfl

/-- What is read as an entry is what stands around the first equals sign. -/
theorem pair?_text {s : Segment} (h : ';' ∉ s.text) :
    pair? s.text = if '=' ∈ s.text ∧ s.name ≠ [] then some (s.name, s.value) else none := by
  obtain ⟨position, text⟩ := s
  have hvalue : ∀ c ∈ text, c ≠ ';' := fun c hc heq => h (heq ▸ hc)
  by_cases hequals : '=' ∈ text
  · obtain ⟨name, rest, rfl, hname⟩ := List.eq_append_cons_of_mem hequals
    have hbefore : ∀ c ∈ name, (c != '=') = true := by
      intro c hc
      rw [bne_iff_ne]
      exact fun heq => hname (heq ▸ hc)
    have hfirst : Segment.name ⟨position, name ++ '=' :: rest⟩ = name := by
      simp [Segment.name, List.takeWhile_append_of_pos hbefore]
    have hsecond : Segment.value ⟨position, name ++ '=' :: rest⟩ = rest := by
      simp [Segment.value, List.dropWhile_append_of_pos hbefore]
    rw [hfirst, hsecond]
    cases name with
    | nil => simp [pair?, isNameChar]
    | cons first name =>
      have hchars : ∀ c ∈ first :: name, isNameChar c = true := by
        intro c hc
        rw [isNameChar, hbefore c hc, Bool.true_and, bne_iff_ne]
        exact hvalue c (List.mem_append_left _ hc)
      have hrest : segment rest = rest := by
        refine List.takeWhile_eq_self_iff.mpr fun c hc => ?_
        rw [isValueChar, bne_iff_ne]
        exact hvalue c (List.mem_append_right _ (List.mem_cons_of_mem _ hc))
      rw [pair?_append (List.cons_ne_nil first name) hchars, hrest, if_pos]
      exact ⟨hequals, List.cons_ne_nil first name⟩
  · -- all of it is read as a name, and nothing follows
    have hchars : ∀ c ∈ text, isNameChar c = true := by
      intro c hc
      rw [isNameChar, Bool.and_eq_true, bne_iff_ne, bne_iff_ne]
      exact ⟨fun heq => hequals (heq ▸ hc), hvalue c hc⟩
    rw [if_neg fun hpair => hequals hpair.1, pair?, List.dropWhile_eq_nil_iff.mpr hchars]
    cases text.takeWhile isNameChar <;> rfl

/-- The segment at the front of a text whose first byte has the given position. -/
def firstSegment (position : Nat) (text : List Char) : Segment := ⟨position, segment text⟩

theorem pair?_firstSegment (position : Nat) (text : List Char) :
    pair? text =
      if '=' ∈ (firstSegment position text).text ∧ (firstSegment position text).name ≠ [] then
        some ((firstSegment position text).name, (firstSegment position text).value)
      else none := by
  have hseparator : ';' ∉ (firstSegment position text).text :=
    fun h => absurd (List.mem_takeWhile_imp h) (by decide)
  rw [← pair?_segment]
  exact pair?_text hseparator

/-! ## All segments -/

/-- What reading segments in a row comes to: all of them are parameters, or the first one that is
none is complained of. -/
def Settles (segments : List Segment) (result : Except Fault (List (String × String))) : Prop :=
  match segments.find? fun s => ¬ s.Sound with
  | none => result = .ok (segments.map Segment.parameter)
  | some bad =>
    ∃ cause, result = .error (.parse bad.position cause) ∧ cause.message = bad.complaint

namespace Settles

theorem unsound {s : Segment} (h : ¬ s.Sound) {cause : ParseFault}
    (hcause : cause.message = s.complaint) (rest : List Segment) :
    Settles (s :: rest) (.error (.parse s.position cause)) := by
  rw [Settles, List.find?_cons_of_pos (by simpa using h)]
  exact ⟨cause, rfl, hcause⟩

theorem sound {s : Segment} (h : s.Sound) {rest : List Segment}
    {result : Except Fault (List (String × String))} (hrest : Settles rest result) :
    Settles (s :: rest) (result.map (s.parameter :: ·)) := by
  rw [Settles, List.find?_cons_of_neg (by simpa using h)]
  rw [Settles] at hrest
  split at hrest
  · rw [hrest]
    rfl
  · obtain ⟨cause, hresult, hcause⟩ := hrest
    exact ⟨cause, by rw [hresult]; rfl, hcause⟩

end Settles

/-- Something is left of a text when white space is dropped exactly if it leaves ink. -/
theorem stripBlanks_ne_nil_iff {text : List Char} :
    stripBlanks text ≠ [] ↔ ∃ c ∈ text, isBlank c = false := by
  have hback : stripBlanks text = [] ↔ ∀ c ∈ dropBlanks text, isBlank c = true :=
    List.rdropWhile_eq_nil_iff
  rw [ne_eq, hback, not_forall]
  constructor
  · rintro ⟨c, hc⟩
    rw [Classical.not_imp, Bool.not_eq_true] at hc
    exact ⟨c, (List.dropWhile_suffix isBlank).subset hc.1, hc.2⟩
  · rintro ⟨c, hc, hink⟩
    rw [← List.takeWhile_append_dropWhile (p := isBlank) (l := text), List.mem_append] at hc
    rcases hc with hc | hc
    · rw [List.mem_takeWhile_imp hc] at hink
      exact nomatch hink
    · exact ⟨c, fun h => by rw [h hc] at hink; exact nomatch hink⟩

theorem readFrom_settles (position : Nat) (text : List Char) :
    Settles (segmentsFrom position text) (readFrom position text) := by
  fun_induction readFrom position text with
  | case1 position =>
    rw [segmentsFrom_nil]
    exact rfl
  | case2 position rest ih =>
    rw [segmentsFrom_separator]
    exact ih
  | case3 position c rest hc hpair =>
    rw [pair?_firstSegment position, ite_eq_right_iff] at hpair
    rw [segmentsFrom_cons hc]
    refine Settles.unsound (fun h => Option.some_ne_none _ (hpair ⟨h.equals, h.named⟩)) ?_ _
    exact (if_neg fun h => Option.some_ne_none _ (hpair h)).symm
  | case4 position c rest hc name value hpair hblank =>
    rw [pair?_firstSegment position, Option.ite_none_right_eq_some] at hpair
    obtain ⟨hequals, heq⟩ := hpair
    cases heq
    rw [segmentsFrom_cons hc]
    refine Settles.unsound (fun h => stripBlanks_ne_nil_iff.mpr h.inked hblank) ?_ _
    exact (if_pos hequals).symm
  | case5 position c rest hc name value hpair next hname ih =>
    rw [pair?_firstSegment position, Option.ite_none_right_eq_some] at hpair
    obtain ⟨hequals, heq⟩ := hpair
    cases heq
    have hsound : (firstSegment position (c :: rest)).Sound :=
      ⟨hequals.1, hequals.2, stripBlanks_ne_nil_iff.mp hname⟩
    rw [segmentsFrom_cons hc]
    exact ih.sound hsound

/-- **A connection string is read, or its first bad segment is found.** The segments that are not
empty are the parameters, in their order, if each has an equals sign and a name in front of it that
leaves ink. Otherwise the first segment that lacks one of these is complained of at the number of
bytes in front of it. -/
theorem ofText?_segments (text : String) :
    (match (segments text).find? fun s => ¬ s.Sound with
      | none => ofText? text = .ok ⟨(segments text).map Segment.parameter⟩
      | some bad =>
        ∃ cause, ofText? text = .error (.parse bad.position cause) ∧
          cause.message = bad.complaint) ∧
      ∀ s ∈ segments text, s.StandsIn text.toList := by
  have hsettles := readFrom_settles 0 text.toList
  rw [Settles, ← segments] at hsettles
  refine ⟨?_, fun _ => standsIn_of_mem_segments⟩
  rw [ofText?]
  split at hsettles
  · rw [hsettles]
    rfl
  · obtain ⟨cause, hresult, hcause⟩ := hsettles
    exact ⟨cause, by rw [hresult]; rfl, hcause⟩

example : segments "é=1;; =2" = [⟨0, "é=1".toList⟩, ⟨6, " =2".toList⟩] := by decide

end Anywhere.ConnectionString
