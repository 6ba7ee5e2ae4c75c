import Anywhere.Json.Token

/-!
# Documents from tokens

The tokens are read from left to right. The containers that are open form a stack, each with the
items that it has so far; a state machine says what may come next. A container that is nested deeper
than 127 has to be well-formed but its contents are not kept.
-/

namespace Anywhere.Json

/-- A container that is open, its contents in reverse. -/
inductive Frame where
  | array (items : List Json)
  | object (members : List (Option String × Json)) (key : Option String)

/-- What has to come next. -/
inductive Expected where
  /-- A value. -/
  | value
  /-- A value, or the end of the array that was just opened. -/
  | firstItem
  /-- A key, or the end of the object that was just opened. -/
  | firstKey
  /-- A key. -/
  | key
  /-- The colon behind a key. -/
  | colon
  /-- A comma, or the end of the container. -/
  | separator
  /-- Nothing: the document is complete. -/
  | nothing (document : Json)

/-- The containers that are open, the innermost first, and what has to come next. -/
structure Progress where
  open' : List Frame
  expected : Expected

namespace Progress

/-- The contents of containers are kept down to this depth. -/
def maxDepth : Nat := 127

/-- Puts a complete value into the innermost container. -/
def place (value : Json) : List Frame → Progress
  | [] => ⟨[], .nothing value⟩
  | .array items :: frames => ⟨.array (value :: items) :: frames, .separator⟩
  | .object members key :: frames => ⟨.object ((key, value) :: members) none :: frames, .separator⟩

/-- Puts a container that ends into the one around it. Where it is nested too deep, a string without
a text takes its place: no reader takes one, so it can only be passed over. -/
def placeContainer (value : Json) (frames : List Frame) : Progress :=
  place (if frames.length < maxDepth then value else .string none) frames

/-- Takes the token that a value begins with. -/
def beginValue (frames : List Frame) : Token → Option Progress
  | .null => some (place .null frames)
  | .bool value => some (place (.bool value) frames)
  | .number numeral => some (place (.number numeral) frames)
  | .string text => some (place (.string text) frames)
  | .openArray => some ⟨.array [] :: frames, .firstItem⟩
  | .openObject => some ⟨.object [] none :: frames, .firstKey⟩
  | _ => none

/-- Closes the innermost container. -/
def close (frames : List Frame) : Token → Option Progress
  | .closeArray => match frames with
    | .array items :: frames => some (placeContainer (.array items.reverse) frames)
    | _ => none
  | .closeObject => match frames with
    | .object members _ :: frames => some (placeContainer (.object members.reverse) frames)
    | _ => none
  | _ => none

/-- Takes the key of a member. -/
def beginMember (frames : List Frame) : Token → Option Progress
  | .string key => match frames with
    | .object members _ :: frames => some ⟨.object members key :: frames, .colon⟩
    | _ => none
  | _ => none

/-- Takes one token. -/
def step (p : Progress) (token : Token) : Option Progress :=
  match p.expected, token with
  | .nothing _, _ => none
  | .value, token => beginValue p.open' token
  | .firstItem, token => (close p.open' token).or (beginValue p.open' token)
  | .firstKey, token => (close p.open' token).or (beginMember p.open' token)
  | .key, token => beginMember p.open' token
  | .colon, .colon => some ⟨p.open', .value⟩
  | .colon, _ => none
  | .separator, .comma => match p.open' with
    | .object .. :: _ => some ⟨p.open', .key⟩
    | _ => some ⟨p.open', .value⟩
  | .separator, token => close p.open' token

end Progress

/-- The document that tokens make up. -/
def ofTokens? (tokens : List Token) : Option Json :=
  match tokens.foldlM Progress.step ⟨[], .value⟩ with
  | some ⟨_, .nothing document⟩ => some document
  | _ => none

/-- The document that a text is. -/
def ofText? (text : String) : Option Json := (Token.ofText? text).bind ofTokens?

end Anywhere.Json
