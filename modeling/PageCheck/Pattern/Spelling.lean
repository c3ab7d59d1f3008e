import PageCheck.Pattern.CharSet

/-!
# Spelling characters in bytes

A character is spelled in one to four bytes. The characters of a range are spelled by lists of
ranges of bytes: every choice of one byte from each range of such a list spells one of them, and
each of them is spelled by exactly one list.
-/

namespace PageCheck.Pattern

/-- The bytes that spell a code point. -/
def spelling (n : Nat) : List Nat :=
  if n < 0x80 then [n]
  else if n < 0x800 then [0xC0 + n / 0x40, 0x80 + n % 0x40]
  else if n < 0x10000 then [0xE0 + n / 0x1000, 0x80 + n / 0x40 % 0x40, 0x80 + n % 0x40]
  else [0xF0 + n / 0x40000, 0x80 + n / 0x1000 % 0x40, 0x80 + n / 0x40 % 0x40, 0x80 + n % 0x40]

/-- A range of bytes for each byte of a spelling. -/
abbrev ByteRanges := List (Nat × Nat)

/-- Cut a range of code points at a border. -/
def cutAt (border : Nat) (range : Nat × Nat) : List (Nat × Nat) :=
  if range.1 < border ∧ border ≤ range.2 then [(range.1, border - 1), (border, range.2)]
  else [range]

/-- Cut a range of code points where a run of `unit` of them is not met whole. -/
def cutByUnit (unit : Nat) (range : Nat × Nat) : List (Nat × Nat) :=
  let (low, high) := range
  if low / unit = high / unit then [(low, high)]
  else
    let head := if low % unit = 0 then [] else [(low, (low / unit + 1) * unit - 1)]
    let start := if low % unit = 0 then low else (low / unit + 1) * unit
    let tail := if high % unit = unit - 1 then [] else [(high / unit * unit, high)]
    let stop := if high % unit = unit - 1 then high else high / unit * unit - 1
    head ++ (if start ≤ stop then [(start, stop)] else []) ++ tail

/-- Cut a range of code points that are spelled in equally many bytes into ranges whose spellings
are lists of ranges of bytes. -/
def cutByBytes (range : Nat × Nat) : List (Nat × Nat) :=
  if range.2 < 0x80 then [range]
  else ((cutByUnit 0x40 range).flatMap (cutByUnit 0x1000)).flatMap (cutByUnit 0x40000)

/-- The spellings of the characters of a range in increasing order. The halves of surrogate pairs
are no characters and have none. -/
def spellings (range : Nat × Nat) : List ByteRanges :=
  let characters := ((cutAt 0xD800 range).flatMap (cutAt 0xE000)).filter fun (low, high) =>
    !(0xD800 ≤ low && high ≤ 0xDFFF)
  let evenly := ((characters.flatMap (cutAt 0x80)).flatMap (cutAt 0x800)).flatMap (cutAt 0x10000)
  (evenly.flatMap cutByBytes).map fun (low, high) => (spelling low).zip (spelling high)

/-- The spellings of the characters of a set in increasing order. -/
def CharSet.spellings (set : CharSet) : List ByteRanges := set.ranges.flatMap Pattern.spellings

/-- Whether all characters of a set are ASCII. -/
def CharSet.isAscii (set : CharSet) : Bool := set.ranges.all fun (_, high) => high < 0x80

/-- The number of bytes of the shortest spelling of a character of a set, if there is one. -/
def CharSet.leastBytes? (set : CharSet) : Option Nat :=
  set.ranges.head?.map fun (low, _) => (spelling low).length

end PageCheck.Pattern
