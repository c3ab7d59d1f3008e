import PageCheck.Url.Host

/-!
# URLs

An absolute URL is read from left to right: the scheme, the authority with host and port, the path,
the query and the fragment. Schemes that the web knows are special: they always have a host, unless
they name a file, and a path, and a backslash counts as a slash in them. What a part may not hold is
percent-encoded, and dot segments of the path are carried out.
-/

namespace PageCheck

open Unicode (splitOnChar)

/-- The parts of a URL that can be asked for, as the URL writes them. -/
structure Url where
  /-- The scheme, in lower case. -/
  scheme : List Char
  /-- The host. -/
  host : Option Url.Host
  /-- The port, unless it is the usual one of the scheme. -/
  port : Option Nat
  /-- The path. -/
  path : List Char
  /-- What follows the first question mark. -/
  query : Option (List Char)
  /-- What follows the hash sign. -/
  fragment : Option (List Char)
deriving Repr

namespace Url

/-- The kinds of schemes. -/
inductive SchemeKind
  /-- Files. -/
  | file
  /-- The other schemes of the web, with the usual port. -/
  | web (port : Nat)
  /-- All other schemes. -/
  | other
deriving Repr, DecidableEq

/-- The kind of a scheme. -/
def SchemeKind.ofScheme (scheme : List Char) : SchemeKind :=
  match String.ofList scheme with
  | "http" => .web 80
  | "https" => .web 443
  | "ws" => .web 80
  | "wss" => .web 443
  | "ftp" => .web 21
  | "file" => .file
  | _ => .other

/-- Whether a backslash counts as a slash. -/
def SchemeKind.isSpecial (kind : SchemeKind) : Bool := kind != .other

/-- The port that goes without saying. -/
def SchemeKind.usualPort? : SchemeKind → Option Nat
  | .web port => some port
  | _ => none

/-- Whether a character is a slash under a kind of scheme. -/
def SchemeKind.isSlash (kind : SchemeKind) (c : Char) : Bool :=
  c == '/' || (c == '\\' && kind.isSpecial)

/-! ## Scheme -/

/-- Whether a character may stand in a scheme after its first one. -/
def isSchemeChar (c : Char) : Bool := c.isAlphanum || c == '+' || c == '-' || c == '.'

/-- The scheme that a text begins with, in lower case, and what follows its colon. -/
def scheme? (text : List Char) : Option (List Char × List Char) :=
  let (scheme, rest) := text.span isSchemeChar
  match scheme, rest with
  | c :: _, ':' :: rest => if c.isAlpha then some (scheme.map Char.toLower, rest) else none
  | _, _ => none

/-! ## Authority -/

/-- Cut a text before the first character with a property. -/
def cutBefore (stop : Char → Bool) (text : List Char) : List Char × List Char :=
  text.span fun c => !stop c

/-- What stands before the last at sign of an authority, and what follows it. -/
def splitUserinfo (authority : List Char) : Option (List Char) × List Char :=
  match authority.reverse.span (· != '@') with
  | (host, _ :: userinfo) => (some userinfo.reverse, host.reverse)
  | (_, []) => (none, authority)

/-- Cut an authority before the colon of its port; colons in brackets belong to the host. -/
def splitPort (inBrackets : Bool) : List Char → List Char × List Char
  | [] => ([], [])
  | c :: rest =>
    if c = ':' && !inBrackets then ([], c :: rest)
    else
      let (host, port) := splitPort (if c = '[' then true else if c = ']' then false
        else inBrackets) rest
      (c :: host, port)

/-- Read a port: digits, followed by nothing or a backslash, which begins the path. -/
def readPort (text : List Char) : Except Fault (Option Nat × List Char) :=
  let (digits, rest) := text.span Char.isDigit
  let port := Decimal.digitsValue digits
  if 65535 < port then .error .invalidPort
  else match rest with
    | [] => .ok (if digits.isEmpty then none else some port, [])
    | '\\' :: _ => .ok (if digits.isEmpty then none else some port, rest)
    | _ => .error .invalidPort

/-- Read an authority, which ends before `rest`: the host, the port, and what already belongs to the
path. -/
def readAuthority (kind : SchemeKind) (authority rest : List Char) :
    Except Fault (Option Host × Option Nat × List Char) := do
  let (userinfo, address) := splitUserinfo authority
  if userinfo == some [] && address.isEmpty && !rest.isEmpty then throw .emptyHost
  let (hostText, portText) := splitPort false address
  let host ←
    if kind.isSpecial then
      if hostText.isEmpty then throw .emptyHost else Host.ofText hostText
    else Host.ofPlainText hostText
  if host == .name [] && !portText.isEmpty then throw .emptyHost
  let (port, path) ← match portText with
    | _ :: digits => readPort digits
    | [] => pure (none, [])
  if host == .name [] && !(userinfo == none || userinfo == some [] || userinfo == some [':']) then
    throw .emptyHost
  return (if host == .name [] then none else some host,
    port.filter fun port => kind.usualPort? != some port, path)

/-! ## Path -/

/-- Characters that a path may not hold. -/
def reservedInPath : List Char := " \"#<>?`\x7b\x7d".toList

/-- Characters that a query may not hold. -/
def reservedInQuery (kind : SchemeKind) : List Char :=
  " \"#<>".toList ++ if kind.isSpecial then ['\''] else []

/-- Characters that a fragment may not hold. -/
def reservedInFragment : List Char := " \"<>`".toList

/-- The ways to write a segment of one dot. -/
def singleDots : List String := [".", "%2e", "%2E"]

/-- The ways to write a segment of two dots. -/
def doubleDots : List String :=
  singleDots.flatMap fun first => singleDots.map fun second => first ++ second

/-- Whether a segment is the letter of a drive with a colon or a bar after it. -/
def isDriveLetter : List Char → Bool
  | [letter, mark] => letter.isAlpha && (mark == ':' || mark == '|')
  | _ => false

/-- Whether a character is a tab or a line break, which are passed over. -/
def isBreak (c : Char) : Bool := c == '\t' || c == '\n' || c == '\r'

/-- A text without tabs and line breaks. -/
def withoutBreaks (text : List Char) : List Char := text.filter fun c => !isBreak c

/-- Cut a segment into a drive and what follows it after a tab or a line break. -/
def cutAfterDrive? (segment : List Char) : Option (List Char × List Char) :=
  match segment.dropWhile isBreak with
  | letter :: rest =>
    match rest.dropWhile isBreak with
    | ':' :: mark :: after =>
      if letter.isAlpha && isBreak mark && !(withoutBreaks after).isEmpty then
        some ([letter, ':'], withoutBreaks after)
      else none
    | _ => none
  | [] => none

/-- A path that has been read so far. -/
structure PathSoFar where
  /-- The segments in reverse. -/
  segments : List (List Char)
  /-- Whether the path has been found to name a drive, so that it goes without a host. -/
  namesDrive : Bool

/-- What a segment does to the path before it. Two dots take the last segment away, unless it names
a drive; after dots at the end of a path comes an empty segment. A drive that a path of a file
begins with is written with a colon. If it is cut from what follows by a tab or a line break it is a
segment by itself, and dots in what follows mean nothing. -/
def addSegment (kind : SchemeKind) (path : PathSoFar) (segment : List Char) (isLast : Bool) :
    PathSoFar :=
  let close (segments : List (List Char)) : PathSoFar :=
    ⟨if isLast then [] :: segments else segments, path.namesDrive⟩
  let encoded := percentEncode reservedInPath (withoutBreaks segment)
  let written := String.ofList encoded
  let isFirstOfFile := kind == .file && path.segments.isEmpty
  match if isFirstOfFile then cutAfterDrive? segment else none with
  | some (drive, rest) => ⟨[percentEncode reservedInPath rest, drive], path.namesDrive⟩
  | none =>
    if doubleDots.contains written then
      close (match path.segments with
        | parent :: rest => if isDriveLetter parent then parent :: rest else rest
        | [] => [])
    else if singleDots.contains written then close path.segments
    else if isFirstOfFile && isDriveLetter encoded then ⟨[encoded.take 1 ++ [':']], true⟩
    else ⟨encoded :: path.segments, path.namesDrive⟩

/-- The path after further segments. -/
def addSegments (kind : SchemeKind) (path : PathSoFar) : List (List Char) → PathSoFar
  | [] => path
  | [segment] => addSegment kind path segment true
  | segment :: rest => addSegments kind (addSegment kind path segment false) rest

/-- The path that a text writes which follows a slash. -/
def pathSoFar (kind : SchemeKind) (text : List Char) : PathSoFar :=
  addSegments kind ⟨[], false⟩
    (splitOnChar '/' (text.map fun c => if kind.isSlash c then '/' else c))

/-- The text of a path. Paths of files do not begin with empty segments. -/
def PathSoFar.text (kind : SchemeKind) (path : PathSoFar) : List Char :=
  let segments := path.segments.reverse
  let segments := if kind == .file then segments.dropWhile List.isEmpty else segments
  '/' :: ['/'].intercalate segments

/-- A path that follows a slash. -/
def pathOf (kind : SchemeKind) (text : List Char) : List Char := (pathSoFar kind text).text kind

/-- The path after an authority. Special URLs have one even if none is written. -/
def pathAfterAuthority (kind : SchemeKind) (text : List Char) : List Char :=
  match text with
  | c :: rest => if kind.isSlash c then pathOf kind rest else pathOf kind text
  | [] => if kind.isSpecial then ['/'] else []

/-! ## The whole -/

/-- A text without blanks and control characters at its ends. -/
def trimmed (text : List Char) : List Char :=
  let outer (c : Char) : Bool := c.toNat ≤ 0x20
  ((text.dropWhile outer).reverse.dropWhile outer).reverse

/-- Cut what follows the scheme before the query or the fragment. -/
def cutTail (text : List Char) : List Char × List Char :=
  cutBefore (fun c => c == '?' || c == '#') text

/-- Add query and fragment, which begin where the path ended. -/
def withTail (kind : SchemeKind) (url : Url) (tail : List Char) : Url :=
  let (queryText, fragmentText) := cutBefore (· == '#') tail
  { url with
    query := match queryText with
      | _ :: query => some (percentEncode (reservedInQuery kind) query)
      | [] => none
    fragment := match fragmentText with
      | _ :: fragment => some (percentEncode reservedInFragment fragment)
      | [] => none }

/-- Read what follows two slashes. -/
def readAfterSlashes (scheme : List Char) (kind : SchemeKind) (text tail : List Char) :
    Except Fault Url := do
  let (authority, path) := cutBefore kind.isSlash text
  let (host, port, early) ← readAuthority kind authority (path ++ tail)
  return withTail kind
    ⟨scheme, host, port, pathAfterAuthority kind (early ++ path), none, none⟩ tail

/-- The character that comes first when tabs and line breaks are passed over, if it is a slash, and
what follows it. -/
def afterSlash? (kind : SchemeKind) (text : List Char) : Option (List Char) :=
  match text.dropWhile isBreak with
  | c :: rest => if kind.isSlash c then some rest else none
  | [] => none

/-- Read what follows the scheme of a file, with its tabs and line breaks. A host is kept unless it
is the local one or the path names a drive. Without a host, the slash after it belongs to the path
and makes its first segment an empty one. -/
def readFile (scheme text tail : List Char) : Except Fault Url := do
  let kind := SchemeKind.file
  let url (host : Option Host) (path : PathSoFar) : Url :=
    withTail kind ⟨scheme, host, none, path.text kind, none, none⟩ tail
  match (afterSlash? kind text).map fun rest => (rest, afterSlash? kind rest) with
  | none => return url none (pathSoFar kind text)
  | some (rest, none) => return url none (pathSoFar kind rest)
  | some (_, some rest) =>
    let (hostText, path) := cutBefore kind.isSlash rest
    let hostText := withoutBreaks hostText
    if isDriveLetter hostText then return url none (pathSoFar kind rest)
    let host ← if hostText.isEmpty then pure none else (Host.ofText hostText).map some
    match host.filter (· != .name "localhost".toList) with
    | none => return url none (pathSoFar kind path)
    | some host =>
      let path := pathSoFar kind path.tail
      return url (if path.namesDrive then none else some host) path

/-- Read a URL. Tabs and line breaks are passed over. -/
def parse (text : String) : Except Fault Url := do
  let text := trimmed text.toList
  match scheme? (withoutBreaks text) with
  | none => throw .noScheme
  | some (scheme, rest) =>
    let kind := SchemeKind.ofScheme scheme
    let (body, tail) := cutTail rest
    match kind, body with
    | .file, _ => readFile scheme (cutTail (text.dropWhile (· != ':')).tail).1 tail
    | .web _, _ => readAfterSlashes scheme kind (body.dropWhile kind.isSlash) tail
    | .other, '/' :: '/' :: text => readAfterSlashes scheme kind text tail
    | .other, '/' :: path =>
      return withTail kind ⟨scheme, none, none, pathOf kind path, none, none⟩ tail
    | .other, path =>
      return withTail kind ⟨scheme, none, none, percentEncode [] path, none, none⟩ tail

/-- The text of the host, empty without one. -/
def hostText (url : Url) : List Char := (url.host.map Host.text).getD []

/-- The port, or else the usual one of the scheme. -/
def portOrUsual? (url : Url) : Option Nat :=
  url.port.or (SchemeKind.ofScheme url.scheme).usualPort?

end Url

end PageCheck
