import PageCheck.Json.Decode

/-!
# Cookies

A cookie is a record with a name, a value and five optional attributes; fields that it does not
know are passed over.
-/

namespace PageCheck

open Json (Draft Decoded Decoder Shape)

/-- A cookie. -/
structure Cookie where
  /-- The name, by which a session keeps at most one cookie. -/
  name : String
  /-- The value. -/
  value : String
  /-- The path it is sent for. -/
  path : Option String
  /-- The domain it is sent to. -/
  domain : Option String
  /-- Whether it is sent over secure connections only. -/
  secure : Option Bool
  /-- Whether it is hidden from scripts. -/
  httpOnly : Option Bool
  /-- When it ends, in seconds since 1970. -/
  expiry : Option Nat
deriving Repr, DecidableEq

namespace Cookie

/-- The record of a cookie. -/
def toJson (cookie : Cookie) : Json :=
  .object ([("name", .string cookie.name), ("value", .string cookie.value)] ++
    Members.optional "path" (cookie.path.map .string) ++
    Members.optional "domain" (cookie.domain.map .string) ++
    Members.optional "secure" (cookie.secure.map .bool) ++
    Members.optional "httpOnly" (cookie.httpOnly.map .bool) ++
    Members.optional "expiry" (cookie.expiry.map Json.ofNat))

/-- The record form. -/
def shape : Shape :=
  ⟨"Cookie", [("name", true), ("value", true), ("path", false), ("domain", false),
    ("secure", false), ("httpOnly", false), ("expiry", false)], false⟩

/-- Take one field of the record. -/
def takeField (cookie : Cookie) (key : String) (draft : Draft) : Decoded Cookie :=
  if key = "name" then do
    return { cookie with name := ← Json.decodeString draft }
  else if key = "value" then do
    return { cookie with value := ← Json.decodeString draft }
  else if key = "path" then do
    return { cookie with path := ← Json.decodeOptional Json.decodeString draft }
  else if key = "domain" then do
    return { cookie with domain := ← Json.decodeOptional Json.decodeString draft }
  else if key = "secure" then do
    return { cookie with secure := ← Json.decodeOptional Json.decodeBool draft }
  else if key = "httpOnly" then do
    return { cookie with httpOnly := ← Json.decodeOptional Json.decodeBool draft }
  else do
    return { cookie with expiry := ← Json.decodeOptional (Json.decodeWord "u64") draft }

/-- A cookie. -/
def decode : Decoder Cookie :=
  Json.decodeRecord shape ⟨"", "", none, none, none, none, none⟩ takeField

/-- Read a JSON value as a cookie. -/
def ofJson (value : Json) : Decoded Cookie := decode value.draft

/-- Read a JSON value as a list of cookies. -/
def listOfJson (value : Json) : Decoded (List Cookie) := Json.decodeList decode value.draft

end Cookie

end PageCheck
