import PageCheck.Decimal.Shortest

/-!
# JSON values

A JSON value keeps the order of its object members. Integers from `-2 ^ 63` to `2 ^ 64 - 1` are
exact, every other number is a finite double. Objects are lists of members; the readers and writers
of this library only build objects in which no key is repeated, which `UniqueKeys` says.
-/

namespace PageCheck

open Decimal (Double)

/-- A JSON number. -/
inductive Number
  /-- An integer within the exact range. -/
  | integer (value : Int)
  /-- Any other number, rounded to a double. -/
  | double (value : Double)
deriving Repr, DecidableEq

/-- A JSON value. -/
inductive Json
  | null
  | bool (value : Bool)
  | number (value : Number)
  | string (value : String)
  | array (items : List Json)
  | object (members : List (String × Json))
deriving Repr, Inhabited

/-- The members of a JSON object. -/
abbrev Members := List (String × Json)

namespace Members

/-- The value of a key. -/
def get? (key : String) : Members → Option Json
  | [] => none
  | (k, value) :: rest => if k = key then some value else get? key rest

/-- Whether a key is present. -/
def has (key : String) (members : Members) : Bool := (members.get? key).isSome

/-- Set a key: in place if it is present, as the last member otherwise. -/
def insert (key : String) (value : Json) : Members → Members
  | [] => [(key, value)]
  | (k, old) :: rest =>
    if k = key then (k, value) :: rest else (k, old) :: insert key value rest

/-- The keys in order. -/
def keys (members : Members) : List String := members.map Prod.fst

/-- Build an object from members in document order; a repeated key keeps its first place and its
last value. -/
def ofList (members : List (String × Json)) : Members :=
  members.foldl (fun object (key, value) => Members.insert key value object) []

/-- The member of an optional part of a record, left out when the part is absent. -/
def optional (key : String) : Option Json → List (String × Json)
  | some value => [(key, value)]
  | none => []

end Members

namespace Json

/-- A natural number as a JSON value. -/
def ofNat (n : Nat) : Json := .number (.integer n)

/-- The string inside a string value. -/
def string? : Json → Option String
  | .string value => some value
  | _ => none

/-- The truth value inside a Boolean. -/
def bool? : Json → Option Bool
  | .bool value => some value
  | _ => none

/-- The items of an array. -/
def items? : Json → Option (List Json)
  | .array items => some items
  | _ => none

/-- The members of an object. -/
def members? : Json → Option Members
  | .object members => some members
  | _ => none

/-- The member of an object under a key. -/
def get? (key : String) : Json → Option Json
  | .object members => Members.get? key members
  | _ => none

/-- Whether the value is null. -/
def isNull : Json → Bool
  | .null => true
  | _ => false

/-- The value as an unsigned 64-bit number. -/
def word? : Json → Option Nat
  | .number (.integer n) => if 0 ≤ n then some n.toNat else none
  | _ => none

/-- The value as a double, integers rounded. -/
def double? : Json → Option Double
  | .number (.integer n) => Double.ofInt? n
  | .number (.double x) => some x
  | _ => none

mutual

/-- Whether no object in the value repeats a key. -/
def UniqueKeys : Json → Prop
  | .array items => UniqueKeysItems items
  | .object members => (Members.keys members).Nodup ∧ UniqueKeysMembers members
  | _ => True

/-- `UniqueKeys` of every item. -/
def UniqueKeysItems : List Json → Prop
  | [] => True
  | item :: rest => item.UniqueKeys ∧ UniqueKeysItems rest

/-- `UniqueKeys` of every member's value. -/
def UniqueKeysMembers : List (String × Json) → Prop
  | [] => True
  | (_, value) :: rest => value.UniqueKeys ∧ UniqueKeysMembers rest

end

end Json

end PageCheck
