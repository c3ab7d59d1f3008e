import PageCheck.Unicode.CodePoints

/-!
# Percent encoding

A character that may not stand for itself is written as the bytes of its UTF-8 form, each as a
percent sign and two hexadecimal digits. Reading such a text yields bytes again; a percent sign
without two digits after it stands for itself.
-/

namespace PageCheck.Url

/-- An upper-case hexadecimal digit. -/
def upperDigit (n : Nat) : Char := if n < 10 then Char.ofNat (48 + n) else Char.ofNat (55 + n)

/-- A byte as a percent sign and two digits. -/
def percentByte (byte : UInt8) : List Char :=
  ['%', upperDigit (byte.toNat / 16), upperDigit (byte.toNat % 16)]

/-- The encoded form of a character. -/
def percentChar (c : Char) : List Char := (String.utf8EncodeChar c).flatMap percentByte

/-- Encode the characters that a part of a URL may not hold. Characters outside ASCII and control
characters are always among them. -/
def percentEncode (reserved : List Char) (text : List Char) : List Char :=
  text.flatMap fun c =>
    if c.toNat < 0x20 || 0x7F ≤ c.toNat || reserved.contains c then percentChar c else [c]

/-- The bytes that a text stands for. -/
def percentDecode : List Char → List UInt8
  | '%' :: a :: b :: rest =>
    match Unicode.hexDigit? a, Unicode.hexDigit? b with
    | some high, some low => UInt8.ofNat (high * 16 + low) :: percentDecode rest
    | _, _ => 0x25 :: percentDecode (a :: b :: rest)
  | c :: rest => String.utf8EncodeChar c ++ percentDecode rest
  | [] => []

/-- The text that bytes stand for; none if they are no UTF-8. -/
def utf8Text? (bytes : List UInt8) : Option (List Char) :=
  (String.fromUTF8? ⟨bytes.toArray⟩).map String.toList

end PageCheck.Url
