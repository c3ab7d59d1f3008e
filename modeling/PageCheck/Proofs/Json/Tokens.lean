import PageCheck.Json.Draft
import PageCheck.Json.Writer

/-!
# Reading strings and numbers back

What the writer makes of a string or of an integer within the exact range is read as that string or
integer, whatever follows it in the text. A number has no end of its own, so what follows it must
not look like more of it.
-/

namespace PageCheck.Json

open Decimal (Double wordLimit)

/-! ### Strings -/

/-- A hexadecimal digit is read as it is written. -/
theorem hexDigit?_hexDigit {n : Nat} (small : n < 16) :
    Unicode.hexDigit? (hexDigit n) = some n := by
  have hall : ∀ m < 16, Unicode.hexDigit? (hexDigit m) = some m := by decide
  exact hall n small

/-- A hexadecimal digit takes one byte. -/
theorem utf8Size_hexDigit {n : Nat} (small : n < 16) : (hexDigit n).utf8Size = 1 := by
  have hall : ∀ m < 16, (hexDigit m).utf8Size = 1 := by decide
  exact hall n small

/-- The numbered escape of a control character is read as the character. -/
theorem readString_control {c : Char} (control : c.toNat < 32) (rest : List Char) :
    readString .plain ('\\' :: 'u' :: '0' :: '0' :: hexDigit (c.toNat / 16) ::
      hexDigit (c.toNat % 16) :: rest) = pushChar c (readString .plain rest) := by
  have hhigh : c.toNat / 16 < 16 := by omega
  have hlow : c.toNat % 16 < 16 := by omega
  have hlong : tooShortForHex ('0' :: '0' :: hexDigit (c.toNat / 16) :: hexDigit (c.toNat % 16) ::
      rest) = false := by
    have hzero : '0'.utf8Size = 1 := rfl
    simp [tooShortForHex, utf8Size_hexDigit hhigh, utf8Size_hexDigit hlow, hzero]
  have hzero : Unicode.hexDigit? '0' = some 0 := rfl
  have hvalue : c.toNat / 16 * 16 + c.toNat % 16 = c.toNat := by omega
  have hlone : isLowSurrogate c.toNat = false := by
    simp [isLowSurrogate]
    omega
  have hpair : isHighSurrogate c.toNat = false := by
    simp [isHighSurrogate]
    omega
  simp [readString, shortEscape?, hlong, hzero, hexDigit?_hexDigit hhigh, hexDigit?_hexDigit hlow,
    hvalue, hlone, hpair]

/-- A written character is read as itself. -/
theorem readString_escapeChar (c : Char) (rest : List Char) :
    readString .plain (escapeChar c ++ rest) = pushChar c (readString .plain rest) := by
  by_cases hquote : c = '"'
  · subst hquote
    rfl
  by_cases hbackslash : c = '\\'
  · subst hbackslash
    rfl
  by_cases hline : c = '\n'
  · subst hline
    rfl
  by_cases hreturn : c = '\r'
  · subst hreturn
    rfl
  by_cases htab : c = '\t'
  · subst htab
    rfl
  simp only [escapeChar, if_neg hquote, if_neg hbackslash, if_neg hline, if_neg hreturn,
    if_neg htab]
  by_cases hback : c.toNat = 8
  · have hc : c = Char.ofNat 8 := by rw [← hback, Char.ofNat_toNat]
    subst hc
    rfl
  by_cases hfeed : c.toNat = 12
  · have hc : c = Char.ofNat 12 := by rw [← hfeed, Char.ofNat_toNat]
    subst hc
    rfl
  rw [if_neg hback, if_neg hfeed]
  by_cases hcontrol : c.toNat < 32
  · rw [if_pos hcontrol]
    exact readString_control hcontrol rest
  · rw [if_neg hcontrol]
    simp [readString, hquote, hbackslash, hcontrol]

/-- A written string is read as the string. -/
theorem readString_flatMap (chars rest : List Char) :
    readString .plain (chars.flatMap escapeChar ++ '"' :: rest) = .ok (chars, rest) := by
  induction chars with
  | nil => rfl
  | cons c more ih =>
    rw [List.flatMap_cons, List.append_assoc, readString_escapeChar, ih]
    rfl

/-! ### Numbers -/

/-- A text before which a number ends. -/
def Stops (rest : List Char) : Prop :=
  ∀ c tail, rest = c :: tail → c.isDigit = false ∧ c ≠ '.' ∧ c ≠ 'e' ∧ c ≠ 'E'

/-- A number ends where the text does. -/
theorem stops_nil : Stops [] := by
  intro c tail h
  cases h

/-- A written natural number is its digits. -/
theorem toList_toString_natCast (n : Nat) : (toString (n : Int)).toList = Nat.toDigits 10 n :=
  Nat.toList_repr

/-- A written negative number is a minus sign and the digits of its size. -/
theorem toList_toString_negSucc (n : Nat) :
    (toString (Int.negSucc n)).toList = '-' :: Nat.toDigits 10 (n + 1) := by
  have htext : toString (Int.negSucc n) = "-" ++ (n + 1).repr := rfl
  rw [htext, String.toList_append, Nat.toList_repr]
  rfl

/-- A digit is none of the characters that are not. -/
theorem digit_ne {c d : Char} (digit : c.isDigit = true) (other : d.isDigit = false) : c ≠ d := by
  rintro rfl
  rw [digit] at other
  cases other

/-- A written natural number begins with a digit. -/
theorem toDigits_head (n : Nat) : ∃ d more, Nat.toDigits 10 n = d :: more ∧ d.isDigit = true := by
  cases hdigits : Nat.toDigits 10 n with
  | nil => exact absurd hdigits Nat.toDigits_ne_nil
  | cons d more =>
    have hmem : d ∈ Nat.toDigits 10 n := hdigits ▸ List.mem_cons_self
    exact ⟨d, more, rfl, Nat.isDigit_of_mem_toDigits (by decide) (by decide) hmem⟩

/-- A number of more than one digit does not begin with a zero. -/
theorem head_toDigits_ne_zero {n : Nat} (positive : 0 < n) (tail : List Char) :
    Nat.toDigits 10 n ≠ '0' :: tail := by
  induction n using Nat.strongRecOn generalizing tail with
  | ind n ih =>
    rw [Nat.toDigits_eq_if (by decide)]
    split
    · next hsmall =>
      have hall : ∀ m < 10, 0 < m → Nat.digitChar m ≠ '0' := by decide
      intro h
      exact hall n hsmall positive (List.cons.inj h).1
    · next hlarge =>
      have hless := ih (n / 10) (by omega) (by omega)
      cases hdigits : Nat.toDigits 10 (n / 10) with
      | nil => exact absurd hdigits Nat.toDigits_ne_nil
      | cons d more =>
        intro h
        rw [List.cons_append, List.cons.injEq] at h
        exact hless more (by rw [hdigits, h.1])

/-- Digits do not lower the number that they are added to. -/
theorem le_ofDigitChars (digits : List Char) (value : Nat) :
    value ≤ Nat.ofDigitChars 10 digits value := by
  induction digits generalizing value with
  | nil => exact Nat.le_refl value
  | cons d rest ih =>
    have h := ih (10 * value + (d.toNat - '0'.toNat))
    have hcons : Nat.ofDigitChars 10 (d :: rest) value =
        Nat.ofDigitChars 10 rest (10 * value + (d.toNat - '0'.toNat)) := rfl
    omega

/-- Digits of a number below the limit are all taken. -/
theorem foldl_takeWhole (digits : List Char) (value : Nat)
    (small : Nat.ofDigitChars 10 digits value < wordLimit) :
    digits.foldl Significand.takeWhole ⟨value, 0, false⟩ =
      ⟨Nat.ofDigitChars 10 digits value, 0, false⟩ := by
  induction digits generalizing value with
  | nil => rfl
  | cons d rest ih =>
    have hcons : Nat.ofDigitChars 10 (d :: rest) value =
        Nat.ofDigitChars 10 rest (10 * value + (d.toNat - '0'.toNat)) := rfl
    rw [hcons] at small ⊢
    have hle := le_ofDigitChars rest (10 * value + (d.toNat - '0'.toNat))
    have hnext : value * 10 + (d.toNat - 48) = 10 * value + (d.toNat - '0'.toNat) := by
      rw [Nat.mul_comm]
      rfl
    have htake : Significand.takeWhole ⟨value, 0, false⟩ d =
        ⟨10 * value + (d.toNat - '0'.toNat), 0, false⟩ := by
      have hfits : ¬ wordLimit ≤ 10 * value + (d.toNat - '0'.toNat) := by omega
      simp only [Significand.takeWhole, hnext, Bool.false_or, decide_eq_true_eq, if_neg hfits]
    rw [List.foldl_cons, htake, ih _ small]

/-- Before a text at which a number ends, digits are told apart from what follows them. -/
theorem span_digits (digits : List Char) (all : ∀ c ∈ digits, c.isDigit = true)
    {rest : List Char} (stops : Stops rest) :
    (digits ++ rest).takeWhile Char.isDigit = digits ∧
      (digits ++ rest).dropWhile Char.isDigit = rest := by
  rw [List.takeWhile_append_of_pos all, List.dropWhile_append_of_pos all]
  cases rest with
  | nil => simp
  | cons c tail => simp [(stops c tail rfl).1]

/-- The digits before the point are read as they are written. -/
theorem readWhole_toDigits (n : Nat) {rest : List Char} (stops : Stops rest) :
    readWhole (Nat.toDigits 10 n ++ rest) = .ok (Nat.toDigits 10 n, rest) := by
  obtain ⟨htake, hdrop⟩ := span_digits (Nat.toDigits 10 n)
    (fun c hc => Nat.isDigit_of_mem_toDigits (by decide) (by decide) hc) stops
  by_cases hzero : n = 0
  · subst hzero
    cases rest with
    | nil => rfl
    | cons c tail =>
      have hc := (stops c tail rfl).1
      simp [readWhole, Nat.toDigits_of_lt_base, Nat.digitChar, hc]
  · obtain ⟨d, more, hdigits, hisDigit⟩ := toDigits_head n
    have hd : d ≠ '0' := by
      rintro rfl
      exact head_toDigits_ne_zero (Nat.pos_of_ne_zero hzero) more hdigits
    rw [hdigits, List.cons_append] at htake hdrop ⊢
    rw [readWhole.eq_def]
    dsimp only
    rw [if_neg hd, if_pos hisDigit, htake, hdrop]

/-- A number that stops has no fraction. -/
theorem readFraction_of_stops {rest : List Char} (stops : Stops rest) :
    readFraction rest = .ok (none, rest) := by
  cases rest with
  | nil => rfl
  | cons c tail =>
    obtain ⟨-, hpoint, -, -⟩ := stops c tail rfl
    rw [readFraction]
    intro rest h
    exact hpoint (List.cons.inj h).1

/-- A number that stops has no exponent. -/
theorem readExponent_of_stops {rest : List Char} (stops : Stops rest) :
    readExponent rest = .ok (none, rest) := by
  cases rest with
  | nil => rfl
  | cons c tail =>
    obtain ⟨-, -, hlower, hupper⟩ := stops c tail rfl
    simp [readExponent, hlower, hupper]

/-- A written natural number is read as itself. -/
theorem readNumber_toDigits {n : Nat} (small : n < wordLimit) {rest : List Char}
    (stops : Stops rest) :
    readNumber false (Nat.toDigits 10 n ++ rest) = .ok (.integer n, rest) := by
  have hvalue : Nat.ofDigitChars 10 (Nat.toDigits 10 n) 0 = n :=
    Nat.ofDigitChars_toDigits (by decide) (by decide)
  have hfold := foldl_takeWhole (Nat.toDigits 10 n) 0 (by rwa [hvalue])
  rw [hvalue] at hfold
  simp [readNumber, readWhole_toDigits n stops, readFraction_of_stops stops,
    readExponent_of_stops stops, assembleNumber, hfold, bind, Except.bind, pure, Except.pure]

/-- A written negative number is read as itself. -/
theorem readNumber_toDigits_negative {n : Nat} (positive : 0 < n) (small : n ≤ Nat.pow 2 63)
    {rest : List Char} (stops : Stops rest) :
    readNumber true (Nat.toDigits 10 n ++ rest) = .ok (.integer (-(n : Int)), rest) := by
  have hvalue : Nat.ofDigitChars 10 (Nat.toDigits 10 n) 0 = n :=
    Nat.ofDigitChars_toDigits (by decide) (by decide)
  have hlimit : n < wordLimit := Nat.lt_of_le_of_lt small (by decide)
  have hfold := foldl_takeWhole (Nat.toDigits 10 n) 0 (by rwa [hvalue])
  rw [hvalue] at hfold
  have hexact : ¬ (n = 0 ∨ Nat.pow 2 63 < n) := by omega
  simp [readNumber, readWhole_toDigits n stops, readFraction_of_stops stops,
    readExponent_of_stops stops, assembleNumber, hfold, hexact, bind, Except.bind, pure,
    Except.pure]

/-- Written minus zero is read as itself. -/
theorem readNumber_minusZero {rest : List Char} (stops : Stops rest) :
    readNumber true ('0' :: '.' :: '0' :: rest) = .ok (.double (Double.zero true), rest) := by
  obtain ⟨htake, hdrop⟩ := span_digits ['0'] (List.forall_mem_singleton.mpr rfl) stops
  rw [List.cons_append, List.nil_append] at htake hdrop
  have hvalue : assembleNumber true ['0'] (some ['0']) none =
      .ok (.double (Double.zero true)) := rfl
  simp [readNumber, readWhole, readFraction, htake, hdrop, readExponent_of_stops stops, hvalue,
    bind, Except.bind, pure, Except.pure]

end PageCheck.Json
