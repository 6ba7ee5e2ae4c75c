import Anywhere.Text.CaseTable

/-!
# Letter case

Two notions of case live side by side. Keywords, connection parameters and column names are
compared without regard to the case of ASCII letters only. Function names and column type names
are mapped by the full rules of Unicode, in which one letter may become several and a capital
sigma has a second lower case form at the end of a word.
-/

namespace Anywhere.Text

/-! ## ASCII case -/

/-- Two texts are the same up to the case of ASCII letters. -/
def eqIgnoringCase (a b : String) : Bool :=
  a.toList.map Char.toLower == b.toList.map Char.toLower

/-- A text with its ASCII letters in lower case. -/
def asciiLowercase (text : String) : String := String.ofList (text.toList.map Char.toLower)

/-! ## Unicode case -/

/-- The other form of a code point in one of the runs, or the code point itself. -/
def caseImage (runs : List CaseRun) (code : Nat) : Nat :=
  (runs.findSome? (·.image? code)).getD code

/-- What is left of a text behind its case-ignorable characters begins with a cased one. -/
def startsCased (text : List Char) : Bool :=
  match text.dropWhile caseIgnorableRanges.holds with
  | [] => false
  | c :: _ => casedRanges.holds c

/-- A sigma between `before` (reversed) and `after` ends a word: a cased letter stands before it
and none behind it, case-ignorable characters apart. -/
def sigmaIsFinal (before after : List Char) : Bool := startsCased before && !startsCased after

/-- The lower case form of one character that stands between `before` (reversed) and `after`. -/
def lowercaseChar (before : List Char) (c : Char) (after : List Char) : List Char :=
  if c.toNat < 128 then [c.toLower]
  else if c == 'Σ' then [if sigmaIsFinal before after then 'ς' else 'σ']
  else if c == 'İ' then ['i', '\u0307']
  else [Char.ofNat (caseImage lowercaseRuns c.toNat)]

/-- The lower case form of a text, `before` being what stands on its left, reversed. -/
def lowercaseFrom (before : List Char) : List Char → List Char
  | [] => []
  | c :: after => lowercaseChar before c after ++ lowercaseFrom (c :: before) after

/-- The lower case form of a text. -/
def lowercase (text : String) : String := String.ofList (lowercaseFrom [] text.toList)

/-- The upper case form of one character. -/
def uppercaseChar (c : Char) : List Char :=
  if c.toNat < 128 then [c.toUpper]
  else match uppercaseExpansions.lookup c.toNat with
    | some codes => codes.map Char.ofNat
    | none => [Char.ofNat (caseImage uppercaseRuns c.toNat)]

/-- The upper case form of a text. -/
def uppercase (text : String) : String := String.ofList (text.toList.flatMap uppercaseChar)

@[simp] theorem eqIgnoringCase_self (text : String) : eqIgnoringCase text text = true := by
  simp [eqIgnoringCase]

theorem eqIgnoringCase_iff {a b : String} :
    eqIgnoringCase a b = true ↔ a.toList.map Char.toLower = b.toList.map Char.toLower := by
  simp [eqIgnoringCase]

end Anywhere.Text
