import Anywhere.Calendar.Date
import Anywhere.Text.Hex
import Anywhere.Text.Reader
import Anywhere.Toml.Basic

/-!
# Strings, numbers, dates and times in TOML

Strings come in four kinds: with or without escapes, on one line or on many. A line break in a
string counts as a line feed, whatever it is written as. The digits of a number may be grouped by
underscores between them, and a number must fit: integers into 64 bits with a sign, and a float
must not be too large.
-/

namespace Anywhere.Toml

open Text

namespace Reader

open Text.Reader

/-! ## Characters -/

/-- White space within a line. -/
def isSpace (c : Char) : Bool := c == ' ' || c == '\t'

/-- A character that may stand in a comment. -/
def isPrintable (c : Char) : Bool := c == '\t' || (0x20 ≤ c.toNat && c.toNat ≠ 0x7F)

/-- A character of a string with escapes that stands for itself. -/
def isPlain (c : Char) : Bool := isPrintable c && c != '"' && c != '\\'

/-- A character of a string without escapes. -/
def isLiteral (c : Char) : Bool := isPrintable c && c != '\''

/-- A hexadecimal digit. -/
def isHexDigit (c : Char) : Bool := (Hex.digit? c).isSome

/-- A line break. -/
def lineBreak : Reader Unit := char '\n' <|> (char '\r' *> char '\n')

/-! ## Strings -/

/-- The character with the code that `count` hexadecimal digits denote. -/
def codePoint (count : Nat) : Reader Char := fun text =>
  let run := (text.take count).takeWhile isHexDigit
  let code := run.foldl (fun code c => 16 * code + (Hex.digit? c).getD 0) 0
  if run.length = count ∧ code.isValidChar then some (Char.ofNat code, text.drop count) else none

/-- An escape. -/
def escape : Reader Char := do
  char '\\'
  match ← one fun _ => true with
  | 'b' => return '\x08'
  | 't' => return '\t'
  | 'n' => return '\n'
  | 'f' => return '\x0C'
  | 'r' => return '\r'
  | '"' => return '"'
  | '\\' => return '\\'
  | 'u' => codePoint 4
  | 'U' => codePoint 8
  | _ => failure

/-- A string with escapes on one line. -/
def basicString : Reader (List Char) := do
  char '"'
  let pieces ← many (someRun isPlain <|> List.singleton <$> escape)
  char '"'
  return pieces.flatten

/-- A string without escapes on one line. -/
def literalString : Reader (List Char) := char '\'' *> run isLiteral <* char '\''

/-- A string on one line. -/
def lineString : Reader (List Char) := basicString <|> literalString

/-- One or two quotes in front of what `next` reads. -/
def quotes (quote : Char) (next : Reader Unit) : Reader (List Char) :=
  let double := [quote, quote]
  (word double *> ahead next *> pure double) <|> (char quote *> ahead next *> pure [quote])

/-- A string on many lines, made of pieces and of quotes between them; the line break behind the
opening quotes is not part of it, and up to two quotes in front of the closing ones are. -/
def longString (quote : Char) (piece : Reader (List Char)) : Reader (List Char) := do
  let delimiter := List.replicate 3 quote
  word delimiter
  let _ ← optional lineBreak
  let pieces ← many (piece <|> quotes quote ((fun _ => ()) <$> one (· != quote)))
  let ending ← optional (quotes quote (word delimiter))
  word delimiter
  return pieces.flatten ++ ending.getD []

/-- A backslash that ends a line takes the white space behind it out of the string. -/
def continuation : Reader Unit := do
  char '\\'
  let _ ← run isSpace
  lineBreak
  let _ ← many (((fun _ => ()) <$> someRun isSpace) <|> lineBreak)

/-- A piece of a string with escapes on many lines. -/
def basicPiece : Reader (List Char) :=
  someRun isPlain <|> (continuation *> pure []) <|> List.singleton <$> escape <|>
    (lineBreak *> pure ['\n'])

/-- A piece of a string without escapes on many lines. -/
def literalPiece : Reader (List Char) := someRun isLiteral <|> (lineBreak *> pure ['\n'])

/-- A string. -/
def string : Reader (List Char) :=
  longString '"' basicPiece <|> basicString <|> longString '\'' literalPiece <|> literalString

/-! ## Numbers -/

/-- Digits, with single underscores between them. -/
def grouped (isDigit : Char → Bool) : Reader (List Char) := do
  return (← one isDigit) :: (← many (one isDigit <|> (char '_' *> one isDigit)))

/-- The digits of a whole number without needless zeros. -/
def whole : Reader (List Char) :=
  (ahead (one fun c => c.isDigit && c != '0') *> grouped Char.isDigit) <|>
    List.singleton <$> one Char.isDigit

/-- A sign, if there is one; true for a minus. -/
def sign : Reader Bool :=
  (char '-' *> pure true) <|> (char '+' *> pure false) <|> pure false

/-- The digits behind a point. -/
def decimals : Reader (List Char) := char '.' *> grouped Char.isDigit

/-- An exponent. -/
def exponent : Reader Int := do
  let _ ← one fun c => c == 'e' || c == 'E'
  let negative ← sign
  let magnitude : Int := Number.ofDigits (← grouped Char.isDigit)
  return if negative then -magnitude else magnitude

/-- A number with decimals, an exponent or both. One that is larger than every double is refused. -/
def finite : Reader Number.Double := do
  let negative ← sign
  let whole ← whole
  let decimals ← optional decimals
  let exponent ← if decimals.isSome then optional exponent else some <$> exponent
  let decimals := decimals.getD []
  let x := Number.Double.ofScientific negative (Number.ofDigits (whole ++ decimals))
    (exponent.getD 0 - decimals.length)
  if x = .infinity false then failure
  return x

/-- An infinity, or the value that is no number. -/
def special : Reader Number.Double := do
  let negative ← sign
  (word "inf".toList *> pure (.infinity negative)) <|> (word "nan".toList *> pure .nan)

/-- An integer of 64 bits with a sign. -/
def fitting (value : Int) : Reader Int :=
  if -0x8000000000000000 ≤ value ∧ value < 0x8000000000000000 then pure value else failure

/-- A whole number in the given base, marked by a letter. -/
def inBase (letter : Char) (base : Nat) : Reader Int := do
  char '0'
  char letter
  let isDigit (c : Char) : Bool := (Hex.digit? c).any (· < base)
  let run ← grouped isDigit
  fitting (run.foldl (fun value c => base * value + (Hex.digit? c).getD 0) 0 : Nat)

/-- An integer. -/
def integer : Reader Int :=
  inBase 'x' 16 <|> inBase 'o' 8 <|> inBase 'b' 2 <|> do
    let negative ← sign
    let magnitude : Int := Number.ofDigits (← whole)
    fitting (if negative then -magnitude else magnitude)

/-! ## Dates and times -/

/-- A number with exactly `count` digits between the bounds. -/
def fixed (count low high : Nat) : Reader Nat := fun text =>
  let run := text.take count
  let value := Number.ofDigits run
  if run.length = count ∧ run.all Char.isDigit ∧ low ≤ value ∧ value ≤ high then
    some (value, text.drop count)
  else none

/-- A date. -/
def date : Reader Unit := do
  let year ← fixed 4 0 9999
  char '-'
  let month ← fixed 2 1 12
  char '-'
  let _ ← fixed 2 1 (Calendar.daysInMonth year month)

/-- A time of day, with its seconds. -/
def time : Reader Unit := do
  let _ ← fixed 2 0 23
  char ':'
  let _ ← fixed 2 0 59
  char ':'
  let _ ← fixed 2 0 60
  let _ ← optional (char '.' *> someRun Char.isDigit)

/-- A distance from universal time. -/
def offset : Reader Unit :=
  ((fun _ => ()) <$> one fun c => c == 'Z' || c == 'z') <|> do
    let _ ← one fun c => c == '+' || c == '-'
    let _ ← fixed 2 0 23
    char ':'
    let _ ← fixed 2 0 59

/-- A time behind a date. -/
def timeOfDate : Reader Unit := do
  let _ ← one fun c => c == 'T' || c == 't' || c == ' '
  time
  let _ ← optional offset

/-- A date, a time or both. -/
def moment : Reader (List Char) := fun text =>
  let read : Reader Unit := (date *> (timeOfDate <|> pure ())) <|> time
  (read text).map fun (_, rest) => (text.take (text.length - rest.length), rest)

/-! ## All of them -/

/-- A value other than an array or a table. -/
def scalar : Reader Toml :=
  (fun text => Toml.string (String.ofList text)) <$> string <|>
    (fun text => Toml.moment (String.ofList text)) <$> moment <|>
    Toml.float <$> finite <|> Toml.float <$> special <|> Toml.integer <$> integer <|>
    (word "true".toList *> pure (Toml.bool true)) <|>
    (word "false".toList *> pure (Toml.bool false))

end Reader

end Anywhere.Toml
