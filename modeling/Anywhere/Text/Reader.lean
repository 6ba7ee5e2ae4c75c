import Anywhere.Text.Blank

/-!
# Readers

A reader takes what it reads from the front of a text and leaves the rest, or it fails and takes
nothing. An alternative is tried at the place where the first reader failed, and a repetition ends
where its reader fails or takes nothing, so that every reader ends.
-/

namespace Anywhere.Text

/-- Reads from the front of a text and leaves the rest. -/
abbrev Reader := StateT (List Char) Option

namespace Reader

/-- The character `c`. -/
def char (c : Char) : Reader Unit := fun
  | [] => none
  | d :: rest => if d == c then some ((), rest) else none

/-- One character of a class. -/
def one (p : Char → Bool) : Reader Char := fun
  | [] => none
  | c :: rest => if p c then some (c, rest) else none

/-- The characters of `word`, one after the other. -/
def word (word : List Char) : Reader Unit := word.forM char

/-- The longest run of characters of a class, which may be empty. -/
def run (p : Char → Bool) : Reader (List Char) := fun text =>
  some (text.takeWhile p, text.dropWhile p)

/-- The longest run of characters of a class, which must not be empty. -/
def someRun (p : Char → Bool) : Reader (List Char) := do
  return (← one p) :: (← run p)

/-- White space, if there is any. -/
def blanks : Reader Unit := modify dropBlanks

/-- Succeeds at the end of the text. -/
def atEnd : Reader Unit := fun
  | [] => some ((), [])
  | _ => none

/-- Succeeds in front of what `r` reads, and leaves it. -/
def ahead (r : Reader α) : Reader Unit := fun text => (r text).map fun _ => ((), text)

/-- Reads as often as something is read. -/
def many (r : Reader α) (text : List Char) : Option (List α × List Char) :=
  match r text with
  | none => some ([], text)
  | some (a, rest) =>
    if rest.length < text.length then (many r rest).map fun (items, rest) => (a :: items, rest)
    else some ([], text)
termination_by text.length

/-- Reads as often as something is read, with a separator in between. -/
def separated (item : Reader α) (separator : Reader β) : Reader (List α) :=
  (do return (← item) :: (← many (separator *> item))) <|> pure []

/-- The result for a text that is read to its end. -/
def whole (r : Reader α) (text : List Char) : Option α :=
  match r text with
  | some (a, []) => some a
  | _ => none

@[simp] theorem run_apply (p : Char → Bool) (text : List Char) :
    run p text = some (text.takeWhile p, text.dropWhile p) := rfl

@[simp] theorem char_cons_self (c : Char) (rest : List Char) :
    char c (c :: rest) = some ((), rest) := by
  simp [char]

end Reader

end Anywhere.Text
