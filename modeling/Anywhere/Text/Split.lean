/-!
# Finding and splitting

A text occurs in another one if it stands somewhere in it without interruption. A text is cut into
pieces at every occurrence of a separator; the pieces with separators between them are the text
again.
-/

namespace Anywhere.Text

/-- `part` occurs in a text. -/
def occursIn (part : List Char) : List Char → Bool
  | [] => part.isEmpty
  | c :: rest => part.isPrefixOf (c :: rest) || occursIn part rest

/-- A character put in front of the first of several pieces. -/
def growFirst (c : Char) : List (List Char) → List (List Char)
  | [] => [[c]]
  | piece :: rest => (c :: piece) :: rest

/-- The pieces of a text between the separators. -/
def pieces (separator : Char) : List Char → List (List Char)
  | [] => [[]]
  | c :: rest =>
    if c = separator then [] :: pieces separator rest else growFirst c (pieces separator rest)

theorem pieces_ne_nil (separator : Char) (text : List Char) : pieces separator text ≠ [] := by
  cases text with
  | nil => simp [pieces]
  | cons c rest =>
    unfold pieces
    split
    · simp
    · cases pieces separator rest <;> simp [growFirst]

/-- Nothing is lost. -/
theorem intercalate_pieces (separator : Char) (text : List Char) :
    [separator].intercalate (pieces separator text) = text := by
  induction text with
  | nil => rfl
  | cons c rest ih =>
    obtain ⟨piece, more, h⟩ := List.exists_cons_of_ne_nil (pieces_ne_nil separator rest)
    rw [h] at ih
    unfold pieces
    split
    · rename_i hc
      rw [h, List.intercalate_cons_cons, ih, hc]
      rfl
    · rw [h]
      cases more <;> simp_all [growFirst, List.intercalate]

end Anywhere.Text
