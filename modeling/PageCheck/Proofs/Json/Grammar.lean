import PageCheck.Proofs.Json.Spelling
import PageCheck.Proofs.Json.Tokens

/-!
# The grammar of JSON texts

Numbers with a fraction and an exponent where they have one, strings of plain characters and
escapes, arrays and objects with blanks between their parts, and documents, which are one value with
blanks around it. The grammar says nothing on values, on the range of numbers or on nesting. Every
written number belongs to it. For doubles that takes an argument, since the digits before the point
must not begin with a zero: only a plain zero has none but such digits, and it is never filled up.
-/

namespace PageCheck.Json

open Decimal (Double Scientific)

/-! ### Numbers -/

/-- One digit or more. -/
structure Digits (chars : List Char) : Prop where
  /-- There is one. -/
  nonempty : chars ≠ []
  /-- There is nothing else. -/
  digits : ∀ c ∈ chars, c.isDigit = true

/-- What stands before the point of a number: a zero, or digits that do not begin with one. -/
inductive IsWhole : List Char → Prop
  | zero : IsWhole ['0']
  | digits {chars : List Char} (hdigits : Digits chars) (head : ∀ tail, chars ≠ '0' :: tail) :
      IsWhole chars

/-- The fraction of a number, if it has one. -/
inductive IsFraction : List Char → Prop
  | none : IsFraction []
  | point {chars : List Char} (hdigits : Digits chars) : IsFraction ('.' :: chars)

/-- The exponent of a number, if it has one. -/
inductive IsExponent : List Char → Prop
  | none : IsExponent []
  | unsigned {e : Char} {chars : List Char} (letter : e = 'e' ∨ e = 'E') (hdigits : Digits chars) :
      IsExponent (e :: chars)
  | signed {e sign : Char} {chars : List Char} (letter : e = 'e' ∨ e = 'E')
      (hsign : sign = '+' ∨ sign = '-') (hdigits : Digits chars) : IsExponent (e :: sign :: chars)

/-- The texts of numbers without a sign. -/
inductive IsUnsigned : List Char → Prop
  | parts {whole fraction exponent : List Char} (hwhole : IsWhole whole)
      (hfraction : IsFraction fraction) (hexponent : IsExponent exponent) :
      IsUnsigned (whole ++ (fraction ++ exponent))

/-- The texts of numbers. -/
inductive IsNumber : List Char → Prop
  | positive {chars : List Char} (size : IsUnsigned chars) : IsNumber chars
  | negative {chars : List Char} (size : IsUnsigned chars) : IsNumber ('-' :: chars)

/-! ### Strings -/

/-- One character of a string, or the escape of one. -/
inductive IsPart : List Char → Prop
  | plain {c : Char} (visible : 32 ≤ c.toNat) (noQuote : c ≠ '"') (noEscape : c ≠ '\\') :
      IsPart [c]
  | short {c : Char} (letter : c ∈ ['"', '\\', '/', 'b', 'f', 'n', 'r', 't']) : IsPart ['\\', c]
  | code {digits : List Char} (count : digits.length = 4)
      (hexadecimal : ∀ c ∈ digits, (Unicode.hexDigit? c).isSome = true) :
      IsPart ('\\' :: 'u' :: digits)

/-- The texts of strings. -/
inductive IsString : List Char → Prop
  | quoted {parts : List (List Char)} (hparts : ∀ part ∈ parts, IsPart part) :
      IsString ('"' :: parts.flatten ++ ['"'])

/-! ### Values -/

/-- Parts with commas between them and a closing character after them, blanks around each. Before
the first part there is no comma. -/
inductive Sequence (part : List Char → Prop) (closing : Char) : Bool → List Char → Prop
  | close {first : Bool} {blanks : List Char} (hblanks : Blanks blanks) :
      Sequence part closing first (blanks ++ [closing])
  | first {blanks text more : List Char} (hblanks : Blanks blanks) (hpart : part text)
      (others : Sequence part closing false more) :
      Sequence part closing true (blanks ++ (text ++ more))
  | next {before after text more : List Char} (hbefore : Blanks before) (hafter : Blanks after)
      (hpart : part text) (others : Sequence part closing false more) :
      Sequence part closing false (before ++ ',' :: (after ++ (text ++ more)))

/-- A key, a colon and a value, blanks around the colon. -/
inductive Member (value : List Char → Prop) : List Char → Prop
  | colon {key before after text : List Char} (hkey : IsString key) (hbefore : Blanks before)
      (hafter : Blanks after) (hvalue : value text) :
      Member value (key ++ (before ++ ':' :: (after ++ text)))

/-- The texts of values, from the first character to the last one. -/
inductive IsValue : List Char → Prop
  | null : IsValue ['n', 'u', 'l', 'l']
  | holds : IsValue ['t', 'r', 'u', 'e']
  | fails : IsValue ['f', 'a', 'l', 's', 'e']
  | number {text : List Char} (hnumber : IsNumber text) : IsValue text
  | string {text : List Char} (hstring : IsString text) : IsValue text
  | array {text : List Char} (items : Sequence IsValue ']' true text) : IsValue ('[' :: text)
  | object {text : List Char} (members : Sequence (Member IsValue) '}' true text) :
      IsValue ('{' :: text)

/-- One value, with blanks around it and nothing else. -/
inductive Document : List Char → Prop
  | blanks {before text after : List Char} (hbefore : Blanks before) (hvalue : IsValue text)
      (hafter : Blanks after) : Document (before ++ (text ++ after))

/-! ### Written numbers -/

/-- A written natural number is digits. -/
theorem digits_toDigits (n : Nat) : Digits (Nat.toDigits 10 n) :=
  ⟨Nat.toDigits_ne_nil, fun _ hc => Nat.isDigit_of_mem_toDigits (by decide) (by decide) hc⟩

/-- So is a zero alone. -/
theorem digits_zero : Digits ['0'] := digits_toDigits 0

/-- Zeros are digits. -/
theorem isDigit_of_mem_zeros {count : Nat} {c : Char} (mem : c ∈ Double.zeros count) :
    c.isDigit = true := by
  rw [List.eq_of_mem_replicate mem]
  rfl

/-- Zeros before digits make digits. -/
theorem Digits.zeros_append {chars : List Char} (hdigits : Digits chars) (count : Nat) :
    Digits (Double.zeros count ++ chars) :=
  ⟨List.append_ne_nil_of_right_ne_nil _ hdigits.nonempty, fun c hc =>
    (List.mem_append.mp hc).elim isDigit_of_mem_zeros (hdigits.digits c)⟩

/-- So do zeros after them. -/
theorem Digits.append_zeros {chars : List Char} (hdigits : Digits chars) (count : Nat) :
    Digits (chars ++ Double.zeros count) :=
  ⟨List.append_ne_nil_of_left_ne_nil hdigits.nonempty _, fun c hc =>
    (List.mem_append.mp hc).elim (hdigits.digits c) isDigit_of_mem_zeros⟩

/-- Some of the characters of digits are digits. -/
theorem Digits.of_sublist {chars part : List Char} (hdigits : Digits chars)
    (sublist : part.Sublist chars) (nonempty : part ≠ []) : Digits part :=
  ⟨nonempty, fun c hc => hdigits.digits c (sublist.mem hc)⟩

/-- Digits that begin with anything but a zero are a whole number. -/
theorem isWhole_cons {d : Char} {more : List Char} (hdigits : Digits (d :: more)) (hd : d ≠ '0') :
    IsWhole (d :: more) :=
  .digits hdigits fun _ heq => hd (List.cons.inj heq).1

/-- A written natural number is a whole number. -/
theorem isWhole_toDigits (n : Nat) : IsWhole (Nat.toDigits 10 n) := by
  rcases Nat.eq_zero_or_pos n with rfl | hpos
  · exact .zero
  · exact .digits (digits_toDigits n) fun tail => head_toDigits_ne_zero hpos tail

/-- So it is a number. -/
theorem isUnsigned_toDigits (n : Nat) : IsUnsigned (Nat.toDigits 10 n) := by
  have hparts := IsUnsigned.parts (isWhole_toDigits n) .none .none
  rwa [List.append_nil, List.append_nil] at hparts

/-- A written integer is a number. -/
theorem isNumber_integer (n : Int) : IsNumber (toString n).toList := by
  cases n with
  | ofNat n => exact toList_toString_natCast n ▸ .positive (isUnsigned_toDigits n)
  | negSucc n => exact toList_toString_negSucc n ▸ .negative (isUnsigned_toDigits (n + 1))

/-- Moving zeros into the power leaves a positive number positive. -/
theorem stripZeros_ne_zero (fuel : Nat) {s : Scientific} (positive : s.digits ≠ 0) :
    (Double.Scientific.stripZeros fuel s).digits ≠ 0 := by
  induction fuel generalizing s with
  | zero => exact positive
  | succ fuel ih =>
    rw [Double.Scientific.stripZeros]
    split
    next hzeros =>
      have hmod : s.digits % 10 = 0 := by
        simp only [Bool.and_eq_true, beq_iff_eq] at hzeros
        exact hzeros.2
      have hless : s.digits / 10 ≠ 0 := by omega
      exact ih hless
    next => exact positive

/-- A number without digits has no zeros to move. -/
theorem stripZeros_of_zero (fuel : Nat) {s : Scientific} (zero : s.digits = 0) :
    Double.Scientific.stripZeros fuel s = s := by
  cases fuel with
  | zero => rfl
  | succ fuel => simp [Double.Scientific.stripZeros, zero]

/-- What is found on a grid is positive. -/
theorem onGrid_ne_zero {i : Double.Interval} {power : Int} {s : Scientific}
    (found : i.onGrid power = some s) : s.digits ≠ 0 := by
  rw [Double.Interval.onGrid] at found
  split at found
  extract_lets below twice preferAbove first second at found
  split at found
  next hfirst =>
    cases found
    simp only [Bool.and_eq_true, bne_iff_ne] at hfirst
    exact hfirst.1
  next =>
    split at found
    next hsecond =>
      cases found
      simp only [Bool.and_eq_true, bne_iff_ne] at hsecond
      exact hsecond.1
    next => cases found

/-- A search that finds no positive number ends with a plain zero. -/
theorem search_eq_zero {i : Double.Interval} {exponent : Int} {fuel digits : Nat}
    (zero : (i.search exponent fuel digits).digits = 0) :
    i.search exponent fuel digits = ⟨0, 0⟩ := by
  induction fuel generalizing digits with
  | zero => rfl
  | succ fuel ih =>
    rw [Double.Interval.search] at zero ⊢
    split at zero
    next found hfound => exact absurd zero (onGrid_ne_zero hfound)
    next hnone => exact ih zero

/-- Only a plain zero has no digits. -/
theorem shortest_power_of_zero {x : Double} (zero : x.shortest.digits = 0) :
    x.shortest.power = 0 := by
  rw [Double.shortest] at zero ⊢
  split
  next => rfl
  next hzero =>
    rw [if_neg hzero] at zero
    dsimp only at zero ⊢
    by_cases hfound : (x.interval.search
        (Double.floorLog10 x.interval.exact x.interval.den) 17 1).digits = 0
    · rw [stripZeros_of_zero 20 hfound, search_eq_zero hfound]
    · exact absurd zero (stripZeros_ne_zero 20 hfound)

/-- A whole number and digits behind a point are a number. -/
theorem isUnsigned_point {whole fraction : List Char} (hwhole : IsWhole whole)
    (hfraction : Digits fraction) : IsUnsigned (whole ++ '.' :: fraction) := by
  have hparts := IsUnsigned.parts hwhole (.point hfraction) .none
  rwa [List.append_nil] at hparts

/-- The positional form of digits is a number. A zero has nothing to be filled up with zeros. -/
theorem isUnsigned_positional {n : Nat} {point : Int} (bare : n = 0 → point ≤ 1) :
    IsUnsigned (Double.positional (Nat.toDigits 10 n) point) := by
  have hdigits := digits_toDigits n
  rw [Double.positional]
  split
  next => exact isUnsigned_point .zero (hdigits.zeros_append _)
  next hpositive =>
    rcases Nat.eq_zero_or_pos n with rfl | hpos
    · obtain rfl : point = 1 := by
        have := bare rfl
        omega
      exact isUnsigned_point .zero digits_zero
    · -- the first digit is no zero, and it stands first in the whole part either way
      obtain ⟨d, more, heq, hdigit⟩ := toDigits_head n
      have hd : d ≠ '0' := by
        rintro rfl
        exact head_toDigits_ne_zero hpos more heq
      rw [heq] at hdigits ⊢
      split
      next => exact isUnsigned_point (isWhole_cons (hdigits.append_zeros _) hd) digits_zero
      next hinside =>
        obtain ⟨q, hq⟩ : ∃ q, point.toNat = q + 1 := ⟨point.toNat - 1, by omega⟩
        have hbehind : more.drop q ≠ [] := by
          rw [Ne, List.drop_eq_nil_iff]
          rw [List.length_cons] at hinside
          omega
        have hwhole : Digits (d :: more.take q) :=
          hdigits.of_sublist ((List.take_sublist q more).cons_cons d) (List.cons_ne_nil d _)
        have hfraction : Digits (more.drop q) :=
          hdigits.of_sublist ((List.drop_sublist q more).cons d) hbehind
        rw [hq, List.take_succ_cons, List.drop_succ_cons, List.append_assoc]
        exact isUnsigned_point (isWhole_cons hwhole hd) hfraction

/-- The scientific form of digits is a number. -/
theorem isUnsigned_scientificForm (n : Nat) (exponent : Int) :
    IsUnsigned (Double.scientificForm (Nat.toDigits 10 n) exponent) := by
  have hdigits := digits_toDigits n
  obtain ⟨d, more, heq, hdigit⟩ := toDigits_head n
  rw [heq] at hdigits ⊢
  have hwhole : IsWhole [d] := by
    by_cases hd : d = '0'
    · exact hd ▸ .zero
    · exact isWhole_cons ⟨List.cons_ne_nil d [], by simpa using hdigit⟩ hd
  have hexponent : IsExponent ('e' :: (if exponent < 0 then '-' else '+') ::
      Nat.toDigits 10 exponent.natAbs) := by
    refine .signed (.inl rfl) ?_ (digits_toDigits _)
    split
    · exact .inr rfl
    · exact .inl rfl
  cases more with
  | nil => exact .parts hwhole .none hexponent
  | cons next rest =>
    have hfraction : Digits (next :: rest) :=
      hdigits.of_sublist (List.sublist_cons_self d _) (List.cons_ne_nil next rest)
    have hparts := IsUnsigned.parts hwhole (.point hfraction) hexponent
    simpa [Double.scientificForm, Double.decimalDigits] using hparts

/-- A sign can stand before a number or be left out. -/
theorem isNumber_sign (negative : Bool) {chars : List Char} (size : IsUnsigned chars) :
    IsNumber ((if negative then ['-'] else []) ++ chars) := by
  cases negative with
  | false => exact .positive size
  | true => exact .negative size

/-- A written double is a number. -/
theorem isNumber_double (x : Double) : IsNumber x.toChars := by
  rw [Double.toChars]
  split
  next => exact isNumber_sign _ (isUnsigned_point .zero digits_zero)
  next =>
    dsimp only
    split
    next =>
      refine isNumber_sign _ (isUnsigned_positional fun hzero => ?_)
      have hpower := shortest_power_of_zero hzero
      rw [hzero, hpower]
      decide
    next => exact isNumber_sign _ (isUnsigned_scientificForm _ _)

/-- A written number is a number. -/
theorem isNumber_writeNumber (n : Number) : IsNumber (writeNumber n) := by
  cases n with
  | integer n => exact isNumber_integer n
  | double x => exact isNumber_double x

end PageCheck.Json
