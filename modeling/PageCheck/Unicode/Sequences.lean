import PageCheck.Unicode.CodePoints

/-!
# Mappings to sequences

A mapping of code points to sequences of code points, read from a text of words. A word
`C0>41+300,41+301` lists the images of successive code points, the members of an image joined by a
plus sign; a word `1D400-1D419>61` maps a range to the range of the same length that starts after
the arrow. Code points in no word have no image.
-/

namespace PageCheck.Unicode

/-- What one word of a mapping says. -/
structure Passage where
  /-- The first code point that is mapped. -/
  first : Nat
  /-- The last code point that is mapped. -/
  last : Nat
  /-- The images in order, or one image that grows with the code point. -/
  images : Array (List Nat)
deriving Repr

/-- Read one word of a mapping. -/
def Passage.ofWord (word : List Char) : Passage :=
  match splitOnChar '>' word with
  | source :: target :: _ =>
    let images := (splitOnChar ',' target).map fun image => (splitOnChar '+' image).map hexValue
    match splitOnChar '-' source with
    | first :: last :: _ => ⟨hexValue first, hexValue last, images.toArray⟩
    | first :: [] => ⟨hexValue first, hexValue first + (images.length - 1), images.toArray⟩
    | [] => ⟨0, 0, #[]⟩
  | _ => ⟨0, 0, #[]⟩

/-- The image of a code point between the bounds of a word. -/
def Passage.image (passage : Passage) (n : Nat) : List Nat :=
  let offset := n - passage.first
  if passage.images.size = 1 then (passage.images[0]?.getD []).map (· + offset)
  else passage.images[offset]?.getD []

/-- A mapping as words in increasing order. -/
structure Sequences where
  /-- The words, none of which overlaps the next. -/
  passages : Array Passage
deriving Repr

namespace Sequences

/-- Read a mapping. -/
def ofText (text : String) : Sequences := ⟨((words text).map Passage.ofWord).toArray⟩

/-- Binary search for the word whose bounds hold a code point, within `fuel` halvings. -/
def locate (passages : Array Passage) (n : Nat) : Nat → Nat → Nat → Option Passage
  | 0, _, _ => none
  | fuel + 1, low, high =>
    if low < high then
      let middle := (low + high) / 2
      match passages[middle]? with
      | none => none
      | some passage =>
        if n < passage.first then locate passages n fuel low middle
        else if passage.last < n then locate passages n fuel (middle + 1) high
        else some passage
    else none

/-- The image of a character, if it has one. -/
def image? (map : Sequences) (c : Char) : Option (List Char) :=
  (locate map.passages c.toNat (map.passages.size + 1) 0 map.passages.size).map fun passage =>
    (passage.image c.toNat).map Char.ofNat

/-- All code points with their images. -/
def pairs (map : Sequences) : List (Nat × List Nat) :=
  map.passages.toList.flatMap fun passage =>
    (List.range (passage.last + 1 - passage.first)).map fun i =>
      (passage.first + i, passage.image (passage.first + i))

end Sequences

end PageCheck.Unicode
