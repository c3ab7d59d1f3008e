import PageCheck.Decimal.Reading
import PageCheck.Url.Domain
import PageCheck.Url.Percent

/-!
# Hosts

The host of a URL is a domain name, an address of four bytes or an address of eight pieces of 16
bits. Where the scheme is not a special one the host is a name without any meaning, of which only
some characters are refused.
-/

namespace PageCheck.Url

open Unicode (splitOnChar hexDigit? hexValue)

/-- Why a text is no URL. -/
inductive Fault
  /-- It does not begin with a scheme. -/
  | noScheme
  /-- The host is missing. -/
  | emptyHost
  /-- The port is no number or too large. -/
  | invalidPort
  /-- The host ends in a number and is no address of four bytes. -/
  | invalidFourByteAddress
  /-- The brackets do not hold an address of eight pieces. -/
  | invalidEightPieceAddress
  /-- The host is no domain name. -/
  | invalidDomain
  /-- The host has a character that no host may have. -/
  | invalidHostCharacter
deriving Repr, DecidableEq

/-- What a fault is called. -/
def Fault.message : Fault → String
  | noScheme => "relative URL without a base"
  | emptyHost => "empty host"
  | invalidPort => "invalid port number"
  | invalidFourByteAddress => "invalid IPv4 address"
  | invalidEightPieceAddress => "invalid IPv6 address"
  | invalidDomain => "invalid international domain name"
  | invalidHostCharacter => "invalid domain character"

/-- The host of a URL. -/
inductive Host
  /-- A name. -/
  | name (text : List Char)
  /-- An address of four bytes, as a number. -/
  | fourBytes (address : Nat)
  /-- An address of eight pieces. -/
  | eightPieces (pieces : List Nat)
deriving Repr, DecidableEq

/-! ## Addresses of four bytes -/

/-- A number that an address is made of: decimal, octal after a zero, hexadecimal after `0x`. -/
def addressNumber? (text : List Char) : Option Nat :=
  let written (base : Nat) (digits : List Char) : Option Nat :=
    digits.foldl (fun value c => do
      let digit ← hexDigit? c
      if digit < base then return (← value) * base + digit else none) (some 0)
  match text with
  | [] => none
  | '0' :: 'x' :: digits => written 16 digits
  | '0' :: 'X' :: digits => written 16 digits
  | '0' :: c :: digits => written 8 (c :: digits)
  | digits => written 10 digits

/-- Whether the last label of a name, or the one before a final dot, is a number. -/
def endsInNumber (name : List Char) : Bool :=
  match (splitOnChar '.' name).reverse with
  | [] :: last :: _ => isNumber last
  | last :: _ => isNumber last
  | [] => false
where
  /-- Digits, even if they are no octal number, or a number. -/
  isNumber (label : List Char) : Bool :=
    (!label.isEmpty && label.all Char.isDigit) || (addressNumber? label).isSome

/-- The address that up to four numbers write; the last number fills all bytes that are left. -/
def addressOfNumbers? (numbers : List Nat) : Option Nat :=
  match numbers.reverse with
  | [] => none
  | last :: leading =>
    if leading.length ≤ 3 && leading.all (· ≤ 255) && last < Nat.pow 256 (4 - leading.length) then
      some (leading.reverse.foldl (fun address byte => address * 256 + byte) 0 *
        Nat.pow 256 (4 - leading.length) + last)
    else none

/-- The address that a name writes. -/
def fourByteAddress? (name : List Char) : Option Nat := do
  let parts := match (splitOnChar '.' name).reverse with
    | [] :: part :: parts => (part :: parts).reverse
    | _ => splitOnChar '.' name
  addressOfNumbers? (← parts.mapM addressNumber?)

/-! ## Addresses of eight pieces -/

/-- A decimal number below 256 without leading zeros. -/
def byte? (text : List Char) : Option Nat :=
  if text.isEmpty || !text.all Char.isDigit || (text.length > 1 && text.head? == some '0') then none
  else if Decimal.digitsValue text ≤ 255 then some (Decimal.digitsValue text) else none

/-- The pieces that one part between colons writes: one piece, or two if it is the last part and
written as four bytes. -/
def pieces? (isLast : Bool) (text : List Char) : Option (List Nat) :=
  if isLast && text.contains '.' then do
    match ← (splitOnChar '.' text).mapM byte? with
    | [a, b, c, d] => some [a * 256 + b, c * 256 + d]
    | _ => none
  else if 1 ≤ text.length && text.length ≤ 4 && text.all (fun c => (hexDigit? c).isSome) then
    some [hexValue text]
  else none

/-- The pieces that a run of parts writes; the empty text writes none. -/
def pieceRun? (isLast : Bool) (text : List Char) : Option (List Nat) :=
  if text.isEmpty then some []
  else
    let parts := splitOnChar ':' text
    (parts.zipIdx.mapM fun (part, i) => pieces? (isLast && i + 1 == parts.length) part).map
      List.flatten

/-- A text before and after the first pair of colons. -/
def splitAtGap : List Char → List Char × Option (List Char)
  | ':' :: ':' :: rest => ([], some rest)
  | c :: rest => ((c :: (splitAtGap rest).1), (splitAtGap rest).2)
  | [] => ([], none)

/-- The eight pieces that a text writes. A pair of colons stands for at least one zero piece. -/
def eightPieceAddress? (text : List Char) : Option (List Nat) := do
  match splitAtGap text with
  | (whole, none) =>
    let pieces ← pieceRun? true whole
    if pieces.length = 8 then some pieces else none
  | (before, some after) =>
    let first ← pieceRun? false before
    let last ← pieceRun? true after
    if first.length + last.length ≤ 7 then
      some (first ++ List.replicate (8 - first.length - last.length) 0 ++ last)
    else none

/-- The number of zeros that a list of pieces begins with. -/
def leadingZeros (pieces : List Nat) : Nat := (pieces.takeWhile (· == 0)).length

/-- The length of the longest run of zeros. -/
def longestRun : List Nat → Nat
  | [] => 0
  | piece :: rest => max (leadingZeros (piece :: rest)) (longestRun rest)

/-- Lower-case hexadecimal digits of a piece. -/
def pieceText (piece : Nat) : List Char := Nat.toDigits 16 piece

/-- The pieces before and after the first run of zeros of a given length. -/
def splitAtRun (length : Nat) : List Nat → List Nat × List Nat
  | [] => ([], [])
  | piece :: rest =>
    if leadingZeros (piece :: rest) = length then ([], (piece :: rest).drop length)
    else
      let (before, after) := splitAtRun length rest
      (piece :: before, after)

/-- The text of an address of eight pieces: the first of the longest runs of zeros, if longer than
one, is left out. -/
def eightPieceText (pieces : List Nat) : List Char :=
  let join (pieces : List Nat) := [':'].intercalate (pieces.map pieceText)
  let longest := longestRun pieces
  if longest < 2 then join pieces
  else
    let (before, after) := splitAtRun longest pieces
    join before ++ [':', ':'] ++ join after

namespace Host

/-- Characters that no host of any scheme may have. -/
def forbidden : List Char := "\x00\t\n\r #/:<>?@[\\]^|".toList

/-- An address in brackets. -/
def ofBrackets (text : List Char) : Except Fault Host :=
  match text.reverse with
  | ']' :: inside =>
    match eightPieceAddress? inside.reverse with
    | some pieces => .ok (.eightPieces pieces)
    | none => .error .invalidEightPieceAddress
  | _ => .error .invalidEightPieceAddress

/-- The host of a URL with a special scheme. -/
def ofText (text : List Char) : Except Fault Host :=
  match text with
  | '[' :: rest => ofBrackets rest
  | _ =>
    match (utf8Text? (percentDecode text)).bind domainToAscii? with
    | none => .error .invalidDomain
    | some [] => .error .emptyHost
    | some domain =>
      if endsInNumber domain then
        match fourByteAddress? domain with
        | some address => .ok (.fourBytes address)
        | none => .error .invalidFourByteAddress
      else .ok (.name domain)

/-- The host of a URL with any other scheme. -/
def ofPlainText (text : List Char) : Except Fault Host :=
  match text with
  | '[' :: rest => ofBrackets rest
  | _ =>
    if text.any forbidden.contains then .error .invalidHostCharacter
    else .ok (.name (percentEncode [] text))

/-- How a URL writes a host. -/
def text : Host → List Char
  | name text => text
  | fourBytes address => ['.'].intercalate ([3, 2, 1, 0].map fun place =>
      Nat.toDigits 10 (address / Nat.pow 256 place % 256))
  | eightPieces pieces => '[' :: eightPieceText pieces ++ [']']

end Host

end PageCheck.Url
