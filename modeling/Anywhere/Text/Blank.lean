/-!
# White space

Which characters count as white space (the Unicode property `White_Space`), and the three things
the adapter does with them: drop them at the ends of a text, drop them in front of it, and split a
text into its words. Everything is defined on lists of characters; the `String` versions only
convert.
-/

namespace Anywhere.Text

/-- The Unicode property `White_Space`. -/
def isBlank (c : Char) : Bool :=
  let code := c.toNat
  (0x9 ≤ code && code ≤ 0xD) || code == 0x20 || code == 0x85 || code == 0xA0 || code == 0x1680 ||
    (0x2000 ≤ code && code ≤ 0x200A) || code == 0x2028 || code == 0x2029 || code == 0x202F ||
    code == 0x205F || code == 0x3000

/-- A text without the white space in front of it. -/
def dropBlanks (text : List Char) : List Char := text.dropWhile isBlank

/-- A text without the white space behind it. -/
def dropBlanksRight (text : List Char) : List Char := (text.reverse.dropWhile isBlank).reverse

/-- A text without the white space at its ends. -/
def stripBlanks (text : List Char) : List Char := dropBlanksRight (dropBlanks text)

/-- A text without the white space in front of it. -/
def trimStart (text : String) : String := String.ofList (dropBlanks text.toList)

/-- A text without the white space at its ends. -/
def trim (text : String) : String := String.ofList (stripBlanks text.toList)

/-- The maximal runs of `text` free of white space, `current` being the run that is open on the
left of it, in reverse. -/
def wordsFrom (current : List Char) : List Char → List (List Char)
  | [] => if current.isEmpty then [] else [current.reverse]
  | c :: rest =>
    if isBlank c then
      if current.isEmpty then wordsFrom [] rest else current.reverse :: wordsFrom [] rest
    else wordsFrom (c :: current) rest

/-- The maximal runs of a text free of white space. -/
def words (text : List Char) : List (List Char) := wordsFrom [] text

/-- The white space of ASCII is white space here too. -/
theorem isBlank_of_isWhitespace {c : Char} (h : c.isWhitespace = true) : isBlank c = true := by
  simp only [Char.isWhitespace, Bool.or_eq_true, decide_eq_true_eq] at h
  rcases h with ((rfl | rfl) | rfl) | rfl <;> decide

@[simp] theorem dropBlanks_nil : dropBlanks [] = [] := rfl

@[simp] theorem stripBlanks_nil : stripBlanks [] = [] := rfl

@[simp] theorem words_nil : words [] = [] := rfl

end Anywhere.Text
