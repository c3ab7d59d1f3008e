/-!
# Sets of code points

A set of code points is an array of closed ranges in increasing order, read from a short text
such as `41-5A B5 100-136/2`: hexadecimal bounds, a lone number for a single code point, and a
step after a slash for every second (third, ...) code point of a range. Membership is a binary
search on the ranges.
-/

namespace PageCheck.Unicode

/-- The value of a hexadecimal digit of either case. -/
def hexDigit? (c : Char) : Option Nat :=
  if '0' ≤ c ∧ c ≤ '9' then some (c.toNat - 48)
  else if 'a' ≤ c ∧ c ≤ 'f' then some (c.toNat - 87)
  else if 'A' ≤ c ∧ c ≤ 'F' then some (c.toNat - 55)
  else none

/-- The number that hexadecimal digits write; other characters are skipped. -/
def hexValue (digits : List Char) : Nat :=
  digits.foldl (fun value c => value * 16 + (hexDigit? c).getD 0) 0

/-- The pieces of a text between occurrences of a separator, at least one. -/
def splitOnChar (separator : Char) : List Char → List (List Char)
  | [] => [[]]
  | c :: rest =>
    match splitOnChar separator rest with
    | [] => [[c]]
    | piece :: pieces =>
      if c = separator then [] :: piece :: pieces else (c :: piece) :: pieces

/-- A range of code points with a step, as one word of a table writes it. -/
structure Stride where
  /-- The first code point. -/
  first : Nat
  /-- The last code point. -/
  last : Nat
  /-- The distance between neighbours, at least one. -/
  step : Nat
deriving Repr, DecidableEq

/-- Read one word of a table: `41`, `41-5A` or `100-136/2`. -/
def Stride.ofWord (word : List Char) : Stride :=
  match splitOnChar '/' word with
  | [] => ⟨0, 0, 1⟩
  | range :: step =>
    let step := match step with | [] => 1 | digits :: _ => max 1 (hexValue digits)
    match splitOnChar '-' range with
    | [] => ⟨0, 0, step⟩
    | [single] => ⟨hexValue single, hexValue single, step⟩
    | first :: last :: _ => ⟨hexValue first, hexValue last, step⟩

/-- Whether a code point lies on a stride. -/
def Stride.contains (stride : Stride) (n : Nat) : Bool :=
  stride.first ≤ n && n ≤ stride.last && (n - stride.first) % stride.step == 0

/-- The words of a table, separated by blanks. -/
def words (text : String) : List (List Char) :=
  (splitOnChar ' ' text.toList).filter fun word => !word.isEmpty

/-- A set of code points as strides in increasing order. -/
structure CodePoints where
  /-- The strides, none of which overlaps the next. -/
  strides : Array Stride
deriving Repr

namespace CodePoints

/-- Read a table of code points. -/
def ofText (text : String) : CodePoints :=
  ⟨((words text).map Stride.ofWord).toArray⟩

/-- Binary search for the last stride that starts at or before `n`, within `fuel` halvings. -/
def locate (strides : Array Stride) (n : Nat) : Nat → Nat → Nat → Option Stride
  | 0, _, _ => none
  | fuel + 1, low, high =>
    if low < high then
      let middle := (low + high) / 2
      match strides[middle]? with
      | none => none
      | some stride =>
        if n < stride.first then locate strides n fuel low middle
        else if stride.last < n then locate strides n fuel (middle + 1) high
        else some stride
    else none

/-- Whether a code point belongs to the set. -/
def containsNat (set : CodePoints) (n : Nat) : Bool :=
  match locate set.strides n (set.strides.size + 1) 0 set.strides.size with
  | none => false
  | some stride => stride.contains n

/-- Whether a character belongs to the set. -/
def contains (set : CodePoints) (c : Char) : Bool := set.containsNat c.toNat

/-- The closed ranges of the set, strides with a step written out one by one. -/
def ranges (set : CodePoints) : List (Nat × Nat) :=
  set.strides.toList.flatMap fun stride =>
    if stride.step = 1 then [(stride.first, stride.last)]
    else (List.range ((stride.last - stride.first) / stride.step + 1)).map fun i =>
      (stride.first + i * stride.step, stride.first + i * stride.step)

end CodePoints

/-- A set of code points that goes by some names. Its table is read when it is asked for. -/
structure NamedTable where
  /-- The names, the long one first. -/
  names : List String
  /-- The table. -/
  table : String

end PageCheck.Unicode
