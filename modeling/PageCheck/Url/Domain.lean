import PageCheck.Unicode.Shaping
import PageCheck.Url.Mapping
import PageCheck.Url.Punycode

/-!
# Domain names

A domain name is mapped and normalized as a whole, cut into labels at its full stops, and written in
ASCII label by label. Empty labels are accepted, and so are labels of any length that Punycode
takes. A name is refused if a label is no valid text, if a character may not stand in a URL's host,
or if the writing directions of a label get mixed up in a name that goes from right to left
somewhere.
-/

namespace PageCheck.Url

open Unicode

/-- ASCII characters that may not stand in a host name. -/
def forbiddenInDomain (c : Char) : Bool :=
  c.toNat ≤ 0x20 || c.toNat == 0x7F || "%#/:<>?@[\\]^|".toList.contains c

/-- What marks the ASCII form of a label. -/
def asciiMarker : List Char := ['x', 'n', '-', '-']

/-- Whether a text is ASCII. -/
def isAscii (text : List Char) : Bool := text.all fun c => c.toNat < 0x80

/-- Whether every joiner of a label stands where it makes a difference: after a virama, or, if it
keeps letters apart, between letters that would join. The text before the current character is given
in reverse. -/
def joinersFit (before : List Char) : List Char → Bool
  | [] => true
  | c :: rest =>
    let afterVirama := match before with
      | d :: _ => combiningClass d == 9
      | [] => false
    let fits :=
      if c = '\u200d' then afterVirama
      else if c = '\u200c' then afterVirama ||
        (match before.dropWhile isTransparent, rest.dropWhile isTransparent with
          | d :: _, e :: _ => joinsNext d && joinsPrevious e
          | _, _ => false)
      else true
    fits && joinersFit (c :: before) rest

/-- Whether a label is a valid text: normalized, mapped to itself, without a mark in front, without
characters that a host may not hold, and with its joiners in place. -/
def isValidLabel (label : List Char) : Bool :=
  normalize label == label &&
    label.all (fun c => mapped? c == some [c] && !forbiddenInDomain c) &&
    (match label with
      | c :: _ => !GeneralCategory.anyContains GeneralCategory.marks c
      | [] => true) &&
    joinersFit [] label

/-- Whether a label has a character that makes its name one of mixed directions. -/
def turnsRight (label : List Char) : Bool :=
  label.any fun c => [Direction.right, .arabicLetter, .arabicNumber].contains (direction c)

/-- Whether the directions within a label of such a name are in order. -/
def directionsFit (label : List Char) : Bool :=
  let directions := label.map direction
  let final := directions.reverse.dropWhile (· == .nonspacingMark)
  let neutral := [Direction.europeanNumber, .europeanSeparator, .commonSeparator,
    .europeanTerminator, .otherNeutral, .boundaryNeutral, .nonspacingMark]
  match directions, final with
  | first :: _, last :: _ =>
    if first = .left then
      directions.all (Direction.left :: neutral).contains && [.left, .europeanNumber].contains last
    else if first = .right || first = .arabicLetter then
      directions.all (Direction.right :: .arabicLetter :: .arabicNumber :: neutral).contains &&
        [.right, .arabicLetter, .europeanNumber, .arabicNumber].contains last &&
        !(directions.contains .europeanNumber && directions.contains .arabicNumber)
    else false
  | _ :: _, [] => false
  | [], _ => true

/-- A label in ASCII together with its text, if it is valid. -/
def label? (label : List Char) : Option (List Char × List Char) := do
  let (ascii, text) ←
    if asciiMarker.isPrefixOf label then do
      let coded := label.drop asciiMarker.length
      guard (isAscii coded && coded.length ≤ 2000)
      let text ← Punycode.decode? coded
      guard (!isAscii text)
      pure (label, text)
    else if isAscii label then pure (label, label)
    else do
      guard (label.length ≤ 1000)
      pure (asciiMarker ++ Punycode.encode label, label)
  guard (isValidLabel text)
  return (ascii, text)

/-- A domain name in ASCII, if it is valid. -/
def domainToAscii? (name : List Char) : Option (List Char) := do
  let mapped ← name.mapM mapped?
  let labels ← (splitOnChar '.' (normalize mapped.flatten)).mapM label?
  guard (!labels.any (fun label => turnsRight label.2) ||
    labels.all fun label => directionsFit label.2)
  return ['.'].intercalate (labels.map (·.1))

end PageCheck.Url
