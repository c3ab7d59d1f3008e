import Mathlib.Data.List.Flatten
import PageCheck.Url.Percent

/-!
# Percent encoding and decoding

Decoding undoes encoding: what is decoded from an encoded text is what is decoded from the text
itself. So a text is found again exactly if decoding leaves it as it is, and no decoding yields more
bytes than the text has.
-/

namespace PageCheck.Url

open Unicode (hexDigit?)

/-- The bytes of a text. -/
def utf8 (text : List Char) : List UInt8 := text.flatMap String.utf8EncodeChar

@[simp] theorem utf8_nil : utf8 [] = [] := rfl

@[simp] theorem utf8_cons (c : Char) (text : List Char) :
    utf8 (c :: text) = String.utf8EncodeChar c ++ utf8 text := List.flatMap_cons

/-- Every character has a byte. -/
theorem length_utf8EncodeChar_pos (c : Char) : 0 < (String.utf8EncodeChar c).length := by
  rw [String.length_utf8EncodeChar]
  exact c.utf8Size_pos

/-- Bytes stand for a text exactly if they are its bytes. -/
theorem utf8Text?_eq_some_iff {bytes : List UInt8} {text : List Char} :
    utf8Text? bytes = some text ↔ bytes = utf8 text := by
  have harray : ⟨bytes.toArray⟩ = bytes.toByteArray :=
    congrArg ByteArray.mk List.data_toByteArray.symm
  rw [utf8Text?, String.fromUTF8?, harray]
  constructor
  · intro htext
    split at htext
    next hvalid =>
      have hencoded := String.utf8Encode_toList (b := String.fromUTF8 bytes.toByteArray hvalid)
      rw [Option.some.inj htext] at hencoded
      exact (List.toByteArray_inj.mp hencoded).symm
    · cases htext
  · rintro rfl
    have hvalid : (utf8 text).toByteArray.IsValidUTF8 := .intro text rfl
    have hstring : String.fromUTF8 (utf8 text).toByteArray hvalid = String.ofList text :=
      String.toByteArray_inj.mp String.toByteArray_ofList.symm
    rw [dif_pos hvalid, Option.map_some, hstring, String.toList_ofList]

/-- Texts with the same bytes are the same. -/
theorem utf8_injective {first second : List Char} (same : utf8 first = utf8 second) :
    first = second := by
  have hfirst := utf8Text?_eq_some_iff.mpr same
  have hsecond := utf8Text?_eq_some_iff.mpr (rfl : utf8 second = utf8 second)
  have hself := utf8Text?_eq_some_iff.mpr (rfl : utf8 first = utf8 first)
  exact Option.some.inj (hself.symm.trans hfirst)

/-- Both kinds of digits are read back. -/
theorem hexDigit?_upperDigit : ∀ n < 16, hexDigit? (upperDigit n) = some n := by decide

/-- A hexadecimal digit is a visible character of ASCII. -/
theorem toNat_of_hexDigit? {c : Char} (digit : (hexDigit? c).isSome) :
    0x20 ≤ c.toNat ∧ c.toNat < 0x7F := by
  have hle : ∀ first last : Char, first ≤ c ∧ c ≤ last →
      first.toNat ≤ c.toNat ∧ c.toNat ≤ last.toNat := fun _ _ h => h
  rw [hexDigit?] at digit
  split at digit
  next h =>
    have hrange := hle '0' '9' h
    simp only [Char.reduceToNat] at hrange
    omega
  split at digit
  next h =>
    have hrange := hle 'a' 'f' h
    simp only [Char.reduceToNat] at hrange
    omega
  split at digit
  next h =>
    have hrange := hle 'A' 'F' h
    simp only [Char.reduceToNat] at hrange
    omega
  · cases digit

/-- A byte that was encoded is decoded again. -/
theorem percentDecode_percentByte (byte : UInt8) (rest : List Char) :
    percentDecode (percentByte byte ++ rest) = byte :: percentDecode rest := by
  have hbyte := byte.toNat_lt
  have hhigh := hexDigit?_upperDigit (byte.toNat / 16) (by omega)
  have hlow := hexDigit?_upperDigit (byte.toNat % 16) (by omega)
  have hvalue : byte.toNat / 16 * 16 + byte.toNat % 16 = byte.toNat := by omega
  rw [percentByte, List.cons_append, List.cons_append, List.cons_append, List.nil_append,
    percentDecode]
  simp only [hhigh, hlow, hvalue, UInt8.ofNat_toNat]

/-- A character that was encoded is decoded again. -/
theorem percentDecode_percentChar (c : Char) (rest : List Char) :
    percentDecode (percentChar c ++ rest) = String.utf8EncodeChar c ++ percentDecode rest := by
  rw [percentChar]
  induction String.utf8EncodeChar c with
  | nil => rfl
  | cons byte bytes ih =>
    rw [List.flatMap_cons, List.append_assoc, percentDecode_percentByte, ih, List.cons_append]

/-- Two hexadecimal digits come first in a text. -/
def StartsWithDigits (text : List Char) : Prop :=
  ∃ a b rest, text = a :: b :: rest ∧ (hexDigit? a).isSome ∧ (hexDigit? b).isSome

/-- A percent sign without two digits after it stands for itself. -/
theorem percentDecode_percent {text : List Char} (bare : ¬ StartsWithDigits text) :
    percentDecode ('%' :: text) = 0x25 :: percentDecode text := by
  rw [percentDecode.eq_def]
  split
  next a b rest heq =>
    cases heq
    split
    next high low hhigh hlow => exact absurd ⟨a, b, rest, rfl, by simp [hhigh], by simp [hlow]⟩ bare
    · rfl
  next c rest _ heq =>
    cases heq
    rfl
  next heq => cases heq

/-- A percent sign and the digits after it stand for a byte. -/
theorem percentDecode_escape {a b : Char} {high low : Nat} (first : hexDigit? a = some high)
    (second : hexDigit? b = some low) (rest : List Char) :
    percentDecode ('%' :: a :: b :: rest) =
      UInt8.ofNat (high * 16 + low) :: percentDecode rest := by
  rw [percentDecode]
  simp only [first, second]

/-- Every other character stands for itself. -/
theorem percentDecode_cons {c : Char} (other : c ≠ '%') (rest : List Char) :
    percentDecode (c :: rest) = String.utf8EncodeChar c ++ percentDecode rest := by
  rw [percentDecode]
  rintro a b more hc -
  exact other hc

/-- The characters that take part in escapes are not among those that a part may not hold. -/
def SparesEscapes (reserved : List Char) : Prop :=
  ∀ c ∈ reserved, c ≠ '%' ∧ hexDigit? c = none

section

variable {reserved : List Char}

/-- A character is encoded or stands for itself. -/
theorem percentEncode_cons (reserved : List Char) (c : Char) (rest : List Char) :
    percentEncode reserved (c :: rest) = percentChar c ++ percentEncode reserved rest ∨
      percentEncode reserved (c :: rest) = c :: percentEncode reserved rest := by
  rw [percentEncode, List.flatMap_cons]
  split
  · exact .inl rfl
  · exact .inr rfl

/-- A character that takes part in escapes stands for itself. -/
theorem percentEncode_spared (spares : SparesEscapes reserved) {c : Char}
    (takesPart : c = '%' ∨ (hexDigit? c).isSome) (rest : List Char) :
    percentEncode reserved (c :: rest) = c :: percentEncode reserved rest := by
  have hreserved : c ∉ reserved := by
    intro hc
    obtain ⟨hpercent, hdigit⟩ := spares c hc
    rcases takesPart with h | h
    · exact hpercent h
    · rw [hdigit] at h
      cases h
  have hrange : 0x20 ≤ c.toNat ∧ c.toNat < 0x7F := by
    rcases takesPart with rfl | h
    · decide
    · exact toNat_of_hexDigit? h
  have hkept : ¬ (c.toNat < 0x20 ∨ 0x7F ≤ c.toNat ∨ reserved.contains c = true) := by
    rintro (h | h | h)
    · omega
    · omega
    · exact hreserved (List.contains_iff_mem.mp h)
  rw [percentEncode, List.flatMap_cons, if_neg (by simpa [or_assoc] using hkept)]
  rfl

/-- An encoded text begins with two digits only if the text does, since an encoded character begins
with a percent sign. -/
theorem startsWithDigits_percentEncode {text : List Char}
    (starts : StartsWithDigits (percentEncode reserved text)) : StartsWithDigits text := by
  have hpercent : ∀ (c : Char) (rest : List Char),
      ∃ more, percentChar c ++ rest = '%' :: more := by
    intro c rest
    have hbytes := length_utf8EncodeChar_pos c
    rw [percentChar]
    cases hutf : String.utf8EncodeChar c with
    | nil => simp [hutf] at hbytes
    | cons byte bytes => exact ⟨_, rfl⟩
  have hfirst : ∀ (rest : List Char) (a : Char) (more : List Char), (hexDigit? a).isSome →
      percentEncode reserved rest = a :: more →
      ∃ after, rest = a :: after ∧ more = percentEncode reserved after := by
    intro rest a more ha heq
    cases rest with
    | nil => cases heq
    | cons c after =>
      rcases percentEncode_cons reserved c after with h | h
      · obtain ⟨tail, htail⟩ := hpercent c (percentEncode reserved after)
        rw [h, htail] at heq
        cases heq
        cases ha
      · rw [h] at heq
        cases heq
        exact ⟨after, rfl, rfl⟩
  obtain ⟨a, b, rest, heq, ha, hb⟩ := starts
  obtain ⟨after, rfl, hafter⟩ := hfirst text a (b :: rest) ha heq
  obtain ⟨more, rfl, -⟩ := hfirst after b rest hb hafter.symm
  exact ⟨a, b, more, rfl, ha, hb⟩

/-- What is decoded from an encoded text is what is decoded from the text. -/
theorem percentDecode_percentEncode (spares : SparesEscapes reserved) (text : List Char) :
    percentDecode (percentEncode reserved text) = percentDecode text := by
  fun_induction percentDecode text with
  | case1 a b rest high low hlow hhigh ih =>
    rw [percentEncode_spared spares (.inl rfl),
      percentEncode_spared spares (.inr (by simp [hhigh])),
      percentEncode_spared spares (.inr (by simp [hlow])), percentDecode_escape hhigh hlow, ih]
  | case2 a b rest hdigits ih =>
    have hbare : ¬ StartsWithDigits (percentEncode reserved (a :: b :: rest)) := by
      intro hstarts
      obtain ⟨a', b', rest', heq, ha, hb⟩ := startsWithDigits_percentEncode hstarts
      cases heq
      obtain ⟨high, hhigh⟩ := Option.isSome_iff_exists.mp ha
      obtain ⟨low, hlow⟩ := Option.isSome_iff_exists.mp hb
      exact hdigits high low hhigh hlow
    rw [percentEncode_spared spares (.inl rfl), percentDecode_percent hbare, ih]
  | case3 c rest hshort ih =>
    by_cases hpercent : c = '%'
    · subst hpercent
      have hbare : ¬ StartsWithDigits (percentEncode reserved rest) := by
        intro hstarts
        obtain ⟨a, b, more, heq, -, -⟩ := startsWithDigits_percentEncode hstarts
        exact hshort a b more rfl heq
      rw [percentEncode_spared spares (.inl rfl), percentDecode_percent hbare, ih]
      rfl
    · rcases percentEncode_cons reserved c rest with h | h
      · rw [h, percentDecode_percentChar, ih]
      · rw [h, percentDecode_cons hpercent, ih]
  | case4 => rfl

/-- A character of an encoded text takes part in an escape, or stands in the text and may stand in
the part. -/
theorem mem_percentEncode {text : List Char} {c : Char} (hc : c ∈ percentEncode reserved text) :
    c = '%' ∨ (hexDigit? c).isSome ∨ (c ∈ text ∧ c ∉ reserved) := by
  rw [percentEncode] at hc
  obtain ⟨each, heach, hc⟩ := List.mem_flatMap.mp hc
  split at hc
  · obtain ⟨byte, -, hbyte⟩ := List.mem_flatMap.mp hc
    have hhigh := hexDigit?_upperDigit (byte.toNat / 16) (by have := byte.toNat_lt; omega)
    have hlow := hexDigit?_upperDigit (byte.toNat % 16) (by omega)
    simp only [percentByte, List.mem_cons, List.not_mem_nil, or_false] at hbyte
    rcases hbyte with rfl | rfl | rfl
    · exact .inl rfl
    · exact .inr (.inl (by rw [hhigh]; rfl))
    · exact .inr (.inl (by rw [hlow]; rfl))
  next hkept =>
    obtain rfl := List.mem_singleton.mp hc
    refine .inr (.inr ⟨heach, fun hreserved => hkept ?_⟩)
    simp [hreserved]

end

/-- Decoding yields no more bytes than the text has. -/
theorem length_percentDecode (text : List Char) :
    (percentDecode text).length ≤ (utf8 text).length := by
  fun_induction percentDecode text with
  | case1 a b rest high low _ _ ih =>
    have hpercent := length_utf8EncodeChar_pos '%'
    simp only [utf8_cons, List.length_append, List.length_cons]
    omega
  | case2 a b rest _ ih =>
    have hpercent := length_utf8EncodeChar_pos '%'
    rw [utf8_cons, List.length_append, List.length_cons]
    omega
  | case3 c rest _ ih =>
    rw [utf8_cons, List.length_append, List.length_append]
    omega
  | case4 => exact Nat.le_refl _

/-- A text that lacks characters of another one has fewer bytes, unless it is that one. -/
theorem eq_of_sublist {part text : List Char} (sublist : part.Sublist text)
    (long : (utf8 text).length ≤ (utf8 part).length) : part = text := by
  induction sublist with
  | slnil => rfl
  | @cons part text c sublist ih =>
    have hle : (utf8 part).length ≤ (utf8 text).length := (sublist.flatMap _).length_le
    have hpos := length_utf8EncodeChar_pos c
    rw [utf8_cons, List.length_append] at long
    omega
  | @cons_cons part text c sublist ih =>
    rw [utf8_cons, utf8_cons, List.length_append, List.length_append] at long
    rw [ih (by omega)]

end PageCheck.Url
