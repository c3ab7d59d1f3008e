import PageCheck.Unicode.Casing

/-!
# Characters in prose

White space as texts are trimmed and paths are checked by it, and the quoted form in which messages
show a text: quotation marks around it, the usual escapes, and a numbered escape for every
character that leaves no ink of its own.
-/

namespace PageCheck.Unicode

/-- Whether a character is white space. -/
def isBlank (c : Char) : Bool :=
  let n := c.toNat
  (9 ≤ n && n ≤ 13) || n == 0x20 || n == 0x85 || n == 0xA0 || n == 0x1680 ||
    (0x2000 ≤ n && n ≤ 0x200A) || n == 0x2028 || n == 0x2029 || n == 0x202F || n == 0x205F ||
    n == 0x3000

/-- A run of characters without the blanks at either end. -/
def trimChars (chars : List Char) : List Char :=
  ((chars.dropWhile isBlank).reverse.dropWhile isBlank).reverse

/-- A text without the blanks at either end. -/
def trim (text : String) : String := String.ofList (trimChars text.toList)

/-- Spacing marks, joiners and tags that extend the character before them. -/
def otherExtenders : CodePoints := CodePoints.ofText (" ".intercalate [
  "9BE 9D7 B3E B57 BBE BD7 CC0 CC2 CC7-CC8 CCA-CCB CD5-CD6 D3E D57 DCF DDF 1715 1734 1B35",
  "1B3B 1B3D 1B43-1B44 1BAA 1BF2-1BF3 200C 302E-302F A953 A9C0 FF9E-FF9F 111C0 11235 1133E",
  "1134D 11357 113B8 113C2 113C5 113C7-113C9 113CF 114B0 114BD 115AF 116B6 11930 1193D 11F41",
  "16FF0-16FF1 1D165-1D166 1D16D-1D172 E0020-E007F"])

/-- Whether a character extends the one before it. -/
def extendsPrevious (c : Char) : Bool :=
  GeneralCategory.anyContains [.nonspacingMark, .enclosingMark] c || otherExtenders.contains c

/-- The sound marks of narrow Katakana, which extend a letter but take the room of one. -/
def isNarrowSoundMark (c : Char) : Bool := c.toNat == 0xFF9E || c.toNat == 0xFF9F

/-- The letters that only fill the place of one. -/
def isFiller (c : Char) : Bool := [0x115F, 0x1160, 0x3164, 0xFFA0].contains c.toNat

/-- Whether a character shows in a quoted text as it is. -/
def isPrintable (c : Char) : Bool :=
  if c.toNat < 0x7F then decide (0x20 ≤ c.toNat)
  else GeneralCategory.anyContains GeneralCategory.visible c &&
    (!extendsPrevious c || isNarrowSoundMark c) && !isFiller c

/-- The hexadecimal digits of a number, lower case, without leading zeros. -/
def hexDigits (n : Nat) : List Char := Nat.toDigits 16 n

/-- One character of a quoted text. -/
def quoteChar (c : Char) : List Char :=
  if c = '"' then ['\\', '"']
  else if c = '\\' then ['\\', '\\']
  else if c = '\n' then ['\\', 'n']
  else if c = '\r' then ['\\', 'r']
  else if c = '\t' then ['\\', 't']
  else if c.toNat = 0 then ['\\', '0']
  else if isPrintable c then [c]
  else ['\\', 'u', '\x7b'] ++ hexDigits c.toNat ++ ['\x7d']

/-- The quoted form of a text. -/
def quote (text : String) : String :=
  String.ofList (['"'] ++ text.toList.flatMap quoteChar ++ ['"'])

end PageCheck.Unicode
