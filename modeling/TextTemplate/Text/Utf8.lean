/-!
# Reading bytes as text

Bytes are read as UTF-8. Each maximal run of bytes that begins a character without finishing it,
and each byte that cannot begin one, is read as the replacement character.
-/

set_option autoImplicit false

namespace TextTemplate.Text

/-- The character that stands for bytes that are no text. -/
def replacement : Char := '\ufffd'

/-- Whether a byte continues a character. -/
def isContinuation (b : UInt8) : Bool := 0x80 ≤ b && b ≤ 0xBF

/-- The bounds of the second byte after a first byte that begins a character of three bytes:
they keep out overlong forms and surrogates. -/
def secondOfThree (first second : UInt8) : Bool :=
  (if first == 0xE0 then 0xA0 else 0x80) ≤ second && second ≤ (if first == 0xED then 0x9F else 0xBF)

/-- The bounds of the second byte after a first byte that begins a character of four bytes:
they keep out overlong forms and what lies beyond the last code point. -/
def secondOfFour (first second : UInt8) : Bool :=
  (if first == 0xF0 then 0x90 else 0x80) ≤ second && second ≤ (if first == 0xF4 then 0x8F else 0xBF)

/-- The payload bits of a continuation byte. -/
def payload (b : UInt8) : Nat := b.toNat % 64

/-- The character begun by the byte `a`, and how many of the bytes after it belong to it. -/
def leading (a : UInt8) (rest : List UInt8) : Char × Nat :=
  if a < 0x80 then (Char.ofNat a.toNat, 0)
  else if 0xC2 ≤ a && a ≤ 0xDF then
    match rest with
    | b :: _ =>
      if isContinuation b then (Char.ofNat (a.toNat % 32 * 64 + payload b), 1)
      else (replacement, 0)
    | [] => (replacement, 0)
  else if 0xE0 ≤ a && a ≤ 0xEF then
    match rest with
    | b :: c :: _ =>
      if !secondOfThree a b then (replacement, 0)
      else if isContinuation c then
        (Char.ofNat (a.toNat % 16 * 4096 + payload b * 64 + payload c), 2)
      else (replacement, 1)
    | [b] => (replacement, if secondOfThree a b then 1 else 0)
    | [] => (replacement, 0)
  else if 0xF0 ≤ a && a ≤ 0xF4 then
    match rest with
    | b :: c :: d :: _ =>
      if !secondOfFour a b then (replacement, 0)
      else if !isContinuation c then (replacement, 1)
      else if isContinuation d then
        (Char.ofNat
          (a.toNat % 8 * 262144 + payload b * 4096 + payload c * 64 + payload d), 3)
      else (replacement, 2)
    | [b, c] =>
      (replacement, if !secondOfFour a b then 0 else if isContinuation c then 2 else 1)
    | [b] => (replacement, if secondOfFour a b then 1 else 0)
    | [] => (replacement, 0)
  else (replacement, 0)

/-- Reads bytes as characters after skipping the first `skip` of them. -/
def decodeFrom : Nat → List UInt8 → List Char
  | _, [] => []
  | skip + 1, _ :: rest => decodeFrom skip rest
  | 0, a :: rest => (leading a rest).1 :: decodeFrom (leading a rest).2 rest

/-- Reads bytes as text; bytes that are valid UTF-8 are taken as they are. -/
def decodeText (bytes : ByteArray) : String :=
  match String.fromUTF8? bytes with
  | some s => s
  | none => String.ofList (decodeFrom 0 bytes.toList)

end TextTemplate.Text
