import PageCheck.Unicode.CodePoints

/-!
# Punycode

The form in which a label with characters outside ASCII is written in ASCII: its ASCII characters,
then the others in increasing order, each as the distance from the state before, in a number system
whose thresholds follow the size of the numbers seen.
-/

namespace PageCheck.Url.Punycode

/-- The character of a digit below 36. -/
def digitChar (digit : Nat) : Char :=
  if digit < 26 then Char.ofNat (97 + digit) else Char.ofNat (22 + digit)

/-- The digit of a character, of either case. -/
def digitValue? (c : Char) : Option Nat :=
  if 'a' ≤ c ∧ c ≤ 'z' then some (c.toNat - 97)
  else if 'A' ≤ c ∧ c ≤ 'Z' then some (c.toNat - 65)
  else if '0' ≤ c ∧ c ≤ '9' then some (c.toNat - 22)
  else none

/-- The threshold of a position: between 1 and 26. -/
def threshold (position bias : Nat) : Nat := min 26 (max 1 (position - bias))

theorem one_le_threshold (position bias : Nat) : 1 ≤ threshold position bias := by
  unfold threshold
  omega

/-- Divide by 35 until at most 455 is left, counting 36 for each division. -/
def settle (delta steps : Nat) : Nat × Nat :=
  if 455 < delta then settle (delta / 35) (steps + 36) else (delta, steps)
termination_by delta
decreasing_by exact Nat.div_lt_self (by omega) (by omega)

/-- The bias after a distance. -/
def adapt (delta count : Nat) (first : Bool) : Nat :=
  let scaled := if first then delta / 700 else delta / 2
  let (rest, steps) := settle (scaled + scaled / count) 0
  steps + 36 * rest / (rest + 38)

/-- The digits of a number, the least significant one first. -/
def encodeNumber (bias position number : Nat) : List Char :=
  let t := threshold position bias
  if number < t then [digitChar number]
  else digitChar (t + (number - t) % (36 - t)) ::
    encodeNumber bias (position + 36) ((number - t) / (36 - t))
termination_by number
decreasing_by
  have := one_le_threshold position bias
  have := Nat.div_le_self (number - threshold position bias) (36 - threshold position bias)
  omega

/-- Where encoding stands. -/
structure Encoding where
  /-- The digits so far. -/
  written : List Char
  /-- The distance since the last character. -/
  delta : Nat
  /-- The bias. -/
  bias : Nat
  /-- How many characters are accounted for. -/
  handled : Nat

/-- Pass over one character of the label while the characters of one code point are written. -/
def Encoding.pass (basicCount codePoint : Nat) (state : Encoding) (c : Char) : Encoding :=
  if c.toNat < codePoint then { state with delta := state.delta + 1 }
  else if c.toNat = codePoint then
    ⟨state.written ++ encodeNumber state.bias 36 state.delta, 0,
      adapt state.delta (state.handled + 1) (state.handled == basicCount), state.handled + 1⟩
  else state

/-- Write the code points in increasing order, starting from the one after `current`. -/
def encodeFrom (label : List Char) (basicCount : Nat) :
    List Nat → Nat → Encoding → Encoding
  | [], _, state => state
  | codePoint :: rest, current, state =>
    let start := { state with delta := state.delta + (codePoint - current) * (state.handled + 1) }
    let passed := label.foldl (Encoding.pass basicCount codePoint) start
    encodeFrom label basicCount rest (codePoint + 1) { passed with delta := passed.delta + 1 }

/-- The ASCII form of a label, without the marker in front. -/
def encode (label : List Char) : List Char :=
  let basic := label.filter fun c => c.toNat < 0x80
  let others := ((label.filter fun c => 0x80 ≤ c.toNat).map Char.toNat).mergeSort.eraseDups
  let encoded := (encodeFrom label basic.length others 0x80 ⟨[], 0, 72, basic.length⟩).written
  if basic.isEmpty then encoded else basic ++ '-' :: encoded

/-- Read one number: what it adds to `sum`, and the rest, which is shorter. -/
def decodeNumber? (bias : Nat) : Nat → Nat → Nat → List Char → Option (Nat × List Char)
  | _, _, _, [] => none
  | position, weight, sum, c :: rest =>
    match digitValue? c with
    | none => none
    | some digit =>
      let t := threshold position bias
      if digit < t then some (sum + digit * weight, rest)
      else decodeNumber? bias (position + 36) (weight * (36 - t)) (sum + digit * weight) rest

theorem length_decodeNumber? {bias : Nat} (text : List Char) :
    ∀ {position weight sum : Nat} {value : Nat} {rest : List Char},
      decodeNumber? bias position weight sum text = some (value, rest) →
        rest.length < text.length := by
  induction text with
  | nil => intro _ _ _ _ _ h; simp [decodeNumber?] at h
  | cons c tail ih =>
    intro position weight sum value rest h
    rw [decodeNumber?] at h
    split at h
    · simp at h
    · dsimp only at h
      split at h
      · simp only [Option.some.injEq, Prod.mk.injEq] at h
        simp [← h.2]
      · have := ih h
        simp only [List.length_cons]
        omega

/-- Insert the characters that the digits write into the label. -/
def decodeFrom (bias codePoint position : Nat) (label digits : List Char) : Option (List Char) :=
  match digits with
  | [] => some label
  | c :: tail =>
    match h : decodeNumber? bias 36 1 position (c :: tail) with
    | none => none
    | some (value, rest) =>
      have : rest.length < (c :: tail).length := length_decodeNumber? _ h
      let count := label.length + 1
      let next := codePoint + value / count
      if next.isValidChar then
        decodeFrom (adapt (value - position) count (position == 0)) next (value % count + 1)
          (label.insertIdx (value % count) (Char.ofNat next)) rest
      else none
termination_by digits.length
decreasing_by exact this

/-- The label of an ASCII form, given without the marker in front. The last hyphen ends the ASCII
characters of the label, of which there must then be at least one. -/
def decode? (text : List Char) : Option (List Char) :=
  let digits := (text.reverse.takeWhile (· != '-')).reverse
  match text.take (text.length - digits.length - 1) with
  | [] => decodeFrom 72 0x80 0 [] text
  | basic => decodeFrom 72 0x80 0 basic digits

end PageCheck.Url.Punycode
