/-!
# UTF-8

Encoding is the one of the standard library. Decoding accepts every byte string: wherever the
bytes do not continue to a well-formed sequence, the longest prefix that still could have is
replaced by one U+FFFD and decoding goes on behind it.
-/

namespace Anywhere.Text.Utf8

/-- The bytes of a list of characters. -/
def encode (text : List Char) : List UInt8 := text.flatMap String.utf8EncodeChar

/-- The number of bytes of a list of characters. -/
def size (text : List Char) : Nat := (encode text).length

/-- Stands for bytes that are no character. -/
def replacement : Char := '\uFFFD'

/-- What the first byte of a sequence announces. -/
inductive Lead where
  /-- The byte is an ASCII character. -/
  | single
  /-- One byte follows. -/
  | two
  /-- Two bytes follow, the first of them between the bounds. -/
  | three (low high : UInt8)
  /-- Three bytes follow, the first of them between the bounds. -/
  | four (low high : UInt8)
  /-- No sequence begins with this byte. -/
  | invalid

/-- What a sequence needs behind its first byte. The bounds on the second byte exclude overlong
forms, surrogates and what lies above U+10FFFF. -/
def Lead.ofByte (b : UInt8) : Lead :=
  if b < 0x80 then .single
  else if b < 0xC2 then .invalid
  else if b < 0xE0 then .two
  else if b == 0xE0 then .three 0xA0 0xBF
  else if b == 0xED then .three 0x80 0x9F
  else if b < 0xF0 then .three 0x80 0xBF
  else if b == 0xF0 then .four 0x90 0xBF
  else if b < 0xF4 then .four 0x80 0xBF
  else if b == 0xF4 then .four 0x80 0x8F
  else .invalid

/-- The byte lies between the bounds. -/
def within (low high b : UInt8) : Bool := low ≤ b && b ≤ high

/-- A byte that continues a sequence. -/
def isContinuation (b : UInt8) : Bool := within 0x80 0xBF b

/-- The payload of a continuation byte behind the code accumulated so far. -/
def extend (code : Nat) (b : UInt8) : Nat := code * 64 + b.toNat % 64

/-- The characters of a byte string, ill-formed parts replaced. -/
def decode : List UInt8 → List Char
  | [] => []
  | b :: rest =>
    match Lead.ofByte b, rest with
    | .single, rest => Char.ofNat b.toNat :: decode rest
    | .two, b₁ :: rest =>
      if isContinuation b₁ then Char.ofNat (extend (b.toNat % 32) b₁) :: decode rest
      else replacement :: decode (b₁ :: rest)
    | .three low high, b₁ :: b₂ :: rest =>
      if within low high b₁ then
        if isContinuation b₂ then Char.ofNat (extend (extend (b.toNat % 16) b₁) b₂) :: decode rest
        else replacement :: decode (b₂ :: rest)
      else replacement :: decode (b₁ :: b₂ :: rest)
    | .three low high, [b₁] =>
      if within low high b₁ then [replacement] else replacement :: decode [b₁]
    | .four low high, b₁ :: b₂ :: b₃ :: rest =>
      if within low high b₁ then
        if isContinuation b₂ then
          if isContinuation b₃ then
            Char.ofNat (extend (extend (extend (b.toNat % 8) b₁) b₂) b₃) :: decode rest
          else replacement :: decode (b₃ :: rest)
        else replacement :: decode (b₂ :: b₃ :: rest)
      else replacement :: decode (b₁ :: b₂ :: b₃ :: rest)
    | .four low high, [b₁, b₂] =>
      if within low high b₁ then
        if isContinuation b₂ then [replacement] else replacement :: decode [b₂]
      else replacement :: decode [b₁, b₂]
    | .four low high, [b₁] =>
      if within low high b₁ then [replacement] else replacement :: decode [b₁]
    | _, rest => replacement :: decode rest

@[simp] theorem encode_nil : encode [] = [] := rfl

@[simp] theorem encode_cons (c : Char) (text : List Char) :
    encode (c :: text) = String.utf8EncodeChar c ++ encode text := rfl

theorem encode_append (a b : List Char) : encode (a ++ b) = encode a ++ encode b := by
  simp [encode]

@[simp] theorem size_nil : size [] = 0 := rfl

@[simp] theorem size_append (a b : List Char) : size (a ++ b) = size a + size b := by
  simp [size, encode_append]

@[simp] theorem decode_nil : decode [] = [] := rfl

end Anywhere.Text.Utf8
