import Anywhere.Json.Basic
import Anywhere.Text.Hex

/-!
# The tokens of a JSON text

A text is cut into tokens in one pass. What the pass is in the middle of is a `Pending`: nothing, a
word (a keyword or a number, which ends where a blank, a quote or a punctuation mark begins), or a
string.
-/

namespace Anywhere.Json

open Anywhere.Number (ofDigits)
open Anywhere.Text (Hex.digit?)

/-- A piece of a JSON text. -/
inductive Token where
  | openArray
  | closeArray
  | openObject
  | closeObject
  | comma
  | colon
  | null
  | bool (value : Bool)
  | number (numeral : Numeral)
  | string (text : Option String)

namespace Token

/-- White space between tokens. -/
def isSpace (c : Char) : Bool := c == ' ' || c == '\n' || c == '\t' || c == '\r'

/-- The token that a punctuation mark is. -/
def ofMark? : Char → Option Token
  | '[' => some openArray
  | ']' => some closeArray
  | '\x7b' => some openObject
  | '\x7d' => some closeObject
  | ',' => some comma
  | ':' => some colon
  | _ => none

/-! ## Numbers -/

/-- One or more digits at the front of a text, and the rest. -/
def run? (text : List Char) : Option (List Char × List Char) :=
  match Number.spanDigits text with
  | ([], _) => none
  | (run, rest) => some (run, rest)

/-- The exponent that a text consists of; a text that is empty has none. -/
def exponent? : List Char → Option (Option Int)
  | [] => some none
  | mark :: rest =>
    if mark == 'e' || mark == 'E' then
      let (negative, text) := match rest with
        | '-' :: text => (true, text)
        | '+' :: text => (false, text)
        | text => (false, text)
      match run? text with
      | some (run, []) =>
        let magnitude : Int := ofDigits run
        some (some (if negative then -magnitude else magnitude))
      | _ => none
    else none

/-- The numeral that a text without its sign is. The integer part has no needless zeros. -/
def unsigned? (negative : Bool) (text : List Char) : Option Numeral := do
  let (whole, rest) ← run? text
  if whole.length > 1 && whole.head? == some '0' then none
  match rest with
  | '.' :: rest =>
    let (decimals, rest) ← run? rest
    return ⟨negative, ofDigits (whole ++ decimals), decimals.length, ← exponent? rest⟩
  | rest => return ⟨negative, ofDigits whole, 0, ← exponent? rest⟩

/-- The numeral that a text is. -/
def numeral? : List Char → Option Numeral
  | '-' :: rest => unsigned? true rest
  | text => unsigned? false text

/-- The token that a word is. -/
def ofWord? (word : List Char) : Option Token :=
  if word == "null".toList then some null
  else if word == "true".toList then some (bool true)
  else if word == "false".toList then some (bool false)
  else (numeral? word).map number

/-! ## Strings -/

/-- The character that a one-letter escape stands for. -/
def escape? : Char → Option Char
  | '"' => some '"'
  | '\\' => some '\\'
  | '/' => some '/'
  | 'b' => some '\x08'
  | 'f' => some '\x0C'
  | 'n' => some '\n'
  | 'r' => some '\r'
  | 't' => some '\t'
  | _ => none

/-- The code unit that four hexadecimal digits denote. -/
def codeUnit? (a b c d : Char) : Option Nat := do
  let high := (← Hex.digit? a) * 16 + (← Hex.digit? b)
  return (high * 16 + (← Hex.digit? c)) * 16 + (← Hex.digit? d)

/-- The first half of a surrogate pair. -/
def isHighSurrogate (unit : Nat) : Bool := 0xD800 ≤ unit && unit < 0xDC00

/-- The second half of a surrogate pair. -/
def isLowSurrogate (unit : Nat) : Bool := 0xDC00 ≤ unit && unit < 0xE000

/-- The character of a surrogate pair. -/
def joinSurrogates (high low : Nat) : Char :=
  Char.ofNat (0x10000 + (high - 0xD800) * 1024 + (low - 0xDC00))

/-- What a code unit adds to a reversed text: its character, or nothing at all to a text that
cannot be one. -/
def addUnit (text : Option (List Char)) (unit : Nat) : Option (List Char) :=
  if isHighSurrogate unit || isLowSurrogate unit then none else text.map (Char.ofNat unit :: ·)

/-! ## The pass over the text -/

/-- What the pass is in the middle of; characters are collected in reverse. -/
inductive Pending where
  | nothing
  | word (letters : List Char)
  | string (text : Option (List Char))

/-- Begins with the character `c`, which stands between tokens. -/
def start (tokens : List Token) (c : Char) : List Token × Pending :=
  if isSpace c then (tokens, .nothing)
  else if c == '"' then (tokens, .string (some []))
  else match ofMark? c with
    | some token => (token :: tokens, .nothing)
    | none => (tokens, .word [c])

/-- The tokens of a text behind `tokens`, which are in reverse. -/
def scan (tokens : List Token) : Pending → List Char → Option (List Token)
  | .nothing, [] => some tokens.reverse
  | .word letters, [] => do return ((← ofWord? letters.reverse) :: tokens).reverse
  | .string _, [] => none
  | .nothing, c :: rest =>
    let (tokens, pending) := start tokens c
    scan tokens pending rest
  | .word letters, c :: rest =>
    if isSpace c || c == '"' || (ofMark? c).isSome then
      match ofWord? letters.reverse with
      | none => none
      | some token =>
        let (tokens, pending) := start (token :: tokens) c
        scan tokens pending rest
    else scan tokens (.word (c :: letters)) rest
  | .string text, '"' :: rest =>
    scan (.string (text.map fun letters => String.ofList letters.reverse) :: tokens) .nothing rest
  | .string text, '\\' :: 'u' :: a :: b :: c :: d :: rest =>
    match codeUnit? a b c d with
    | none => none
    | some unit =>
      if isHighSurrogate unit then
        match rest with
        | '\\' :: 'u' :: e :: f :: g :: h :: rest =>
          match codeUnit? e f g h with
          | none => none
          | some low =>
            if isLowSurrogate low then
              scan tokens (.string (text.map (joinSurrogates unit low :: ·))) rest
            else scan tokens (.string none) rest
        | rest => scan tokens (.string none) rest
      else scan tokens (.string (addUnit text unit)) rest
  | .string text, '\\' :: c :: rest =>
    match escape? c with
    | none => none
    | some letter => scan tokens (.string (text.map (letter :: ·))) rest
  | .string text, c :: rest =>
    if c.toNat < 0x20 || c == '\\' then none else scan tokens (.string (text.map (c :: ·))) rest

/-- The tokens of a text. -/
def ofText? (text : String) : Option (List Token) := scan [] .nothing text.toList

end Token

end Anywhere.Json
