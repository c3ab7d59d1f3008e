import PageCheck.Json.Draft
import PageCheck.Json.Writer
import PageCheck.Unicode.Prose

/-!
# Decoding drafts

Decoders walk a draft in document order and report the first thing that is wrong with it. A record
may be written as an object or as an array of its fields in declaration order; a strict record
refuses keys that it does not know, every record refuses repeated ones.
-/

namespace PageCheck.Json

open Decimal (Double)

/-- What a decoder met where it wanted something else. -/
inductive Found
  | null
  | bool (value : Bool)
  | integer (value : Int)
  | double (value : Double)
  | string (value : String)
  | sequence
  | map
  /-- The name of a variant without the contents it should have. -/
  | bareVariant
deriving Repr, DecidableEq

/-- The wording of what was met. -/
def Found.text : Found → String
  | null => "null"
  | bool value => "boolean `" ++ (if value then "true" else "false") ++ "`"
  | integer value => "integer `" ++ toString value ++ "`"
  | double value => "floating point `" ++ String.ofList value.toChars ++ "`"
  | string value => "string " ++ Unicode.quote value
  | sequence => "sequence"
  | map => "map"
  | bareVariant => "unit variant"

/-- The ways in which a document can fail to be what a decoder wants. -/
inductive DecodeError
  | malformed (fault : Fault)
  | missingField (name : String)
  | duplicateField (name : String)
  | unknownField (name : String) (known : List String)
  | invalidType (found : Found) (wanted : String)
  | invalidValue (found : Found) (wanted : String)
  | invalidLength (length : Nat) (wanted : String)
  | unknownVariant (name : String) (known : List String)
  | noVariant (choice : String)
deriving Repr, DecidableEq

/-- A list of alternatives in a message. -/
def alternatives (names : List String) : String :=
  match names.map fun name => "`" ++ name ++ "`" with
  | [] => "there are no fields"
  | [a] => "expected " ++ a
  | [a, b] => "expected " ++ a ++ " or " ++ b
  | many => "expected one of " ++ ", ".intercalate many

/-- The wording of a decoding error. -/
def DecodeError.message : DecodeError → String
  | malformed fault => fault.message
  | missingField name => "missing field `" ++ name ++ "`"
  | duplicateField name => "duplicate field `" ++ name ++ "`"
  | unknownField name known => "unknown field `" ++ name ++ "`, " ++ alternatives known
  | invalidType found wanted => "invalid type: " ++ found.text ++ ", expected " ++ wanted
  | invalidValue found wanted => "invalid value: " ++ found.text ++ ", expected " ++ wanted
  | invalidLength length wanted =>
    "invalid length " ++ toString length ++ ", expected " ++ wanted
  | unknownVariant name known => "unknown variant `" ++ name ++ "`, " ++ alternatives known
  | noVariant choice => "data did not match any variant of untagged enum " ++ choice

/-- The result of decoding. -/
abbrev Decoded (α : Type) := Except DecodeError α

/-- A decoder of drafts. -/
abbrev Decoder (α : Type) := Draft → Decoded α

/-- What a number is in a message. -/
def foundNumber : Number → Found
  | .integer value => .integer value
  | .double value => .double value

/-- Refuse a draft: its fault if it is one, a type error otherwise. -/
def refuse (wanted : String) : Draft → DecodeError
  | .fault fault => .malformed fault
  | .null => .invalidType .null wanted
  | .bool value => .invalidType (.bool value) wanted
  | .number value => .invalidType (foundNumber value) wanted
  | .string value => .invalidType (.string value) wanted
  | .array _ _ => .invalidType .sequence wanted
  | .object _ _ => .invalidType .map wanted

/-- The end of a list that was read to its end. -/
def Ending.check : Ending → Decoded Unit
  | .broken fault => .error (.malformed fault)
  | _ => .ok ()

/-- The end of an array of which `taken` items were wanted and `left` more are there. -/
def Ending.checkAfter (ending : Ending) (taken left : Nat) : Decoded Unit :=
  match ending, left with
  | .inMemory, 0 => .ok ()
  | .inMemory, n + 1 => .error (.invalidLength (taken + n + 1) "fewer elements in array")
  | .closed, 0 => .ok ()
  | .broken .trailingComma, 0 => .error (.malformed .trailingComma)
  | .broken .endInList, 0 => .error (.malformed .endInList)
  | _, _ => .error (.malformed .trailingCharacters)

/-- A text. -/
def decodeString : Decoder String
  | .string value => .ok value
  | other => .error (refuse "a string" other)

/-- A truth value. -/
def decodeBool : Decoder Bool
  | .bool value => .ok value
  | other => .error (refuse "a boolean" other)

/-- An unsigned 64-bit number, named as the message is to name it. -/
def decodeWord (wanted : String) : Decoder Nat
  | .number (.integer value) =>
    if 0 ≤ value then .ok value.toNat else .error (.invalidValue (.integer value) wanted)
  | other => .error (refuse wanted other)

/-- Something that may be null. -/
def decodeOptional {α : Type} (decode : Decoder α) : Decoder (Option α)
  | .null => .ok none
  | other => (decode other).map some

/-- Every item of a list in order. -/
def decodeEach {α : Type} (decode : Decoder α) : List Draft → Decoded (List α)
  | [] => .ok []
  | item :: rest => do
    let first ← decode item
    let others ← decodeEach decode rest
    return first :: others

/-- A list. -/
def decodeList {α : Type} (decode : Decoder α) : Decoder (List α)
  | .array items ending => do
    let values ← decodeEach decode items
    ending.check
    return values
  | other => .error (refuse "a sequence" other)

mutual

/-- Any value. -/
def decodeValue : Decoder Json
  | .fault fault => .error (.malformed fault)
  | .null => .ok .null
  | .bool value => .ok (.bool value)
  | .number value => .ok (.number value)
  | .string value => .ok (.string value)
  | .array items ending => do
    let values ← decodeValues items
    ending.check
    return .array values
  | .object members ending => do
    let values ← decodeMembers members
    ending.check
    return .object (Members.ofList values)

/-- Any values, in order. -/
def decodeValues : List Draft → Decoded (List Json)
  | [] => .ok []
  | item :: rest => do
    let first ← decodeValue item
    let others ← decodeValues rest
    return first :: others

/-- The members of any object, in order and with repeated keys. -/
def decodeMembers : List (String × Draft) → Decoded (List (String × Json))
  | [] => .ok []
  | (key, value) :: rest => do
    let first ← decodeValue value
    let others ← decodeMembers rest
    return (key, first) :: others

end

/-- An object of any shape. -/
def decodeMap : Decoder Members
  | .object members ending => do
    let values ← decodeMembers members
    ending.check
    return Members.ofList values
  | other => .error (refuse "a map" other)

/-! ### Records -/

/-- The shape of a record. -/
structure Shape where
  /-- The name of the record in messages. -/
  name : String
  /-- The fields in declaration order, each with whether it must be present. -/
  fields : List (String × Bool)
  /-- Whether unknown keys are refused rather than passed over. -/
  strict : Bool

/-- The names of the fields in declaration order. -/
def Shape.names (shape : Shape) : List String := shape.fields.map Prod.fst

/-- What a record is called where it was wanted. -/
def Shape.wanted (shape : Shape) : String := "struct " ++ shape.name

/-- What a record is called where an array of its fields was too short. -/
def Shape.wantedLength (shape : Shape) : String :=
  let count := shape.fields.length
  shape.wanted ++ " with " ++ toString count ++ (if count = 1 then " element" else " elements")

/-- Take the members of an object one by one into a partly filled record. -/
def recordMembers {σ : Type} (shape : Shape) (step : σ → String → Draft → Decoded σ) :
    σ → List String → List (String × Draft) → Decoded (σ × List String)
  | state, seen, [] => .ok (state, seen)
  | state, seen, (key, value) :: rest =>
    if shape.names.contains key then
      if seen.contains key then .error (.duplicateField key)
      else do
        let state ← step state key value
        recordMembers shape step state (key :: seen) rest
    else if shape.strict then .error (.unknownField key shape.names)
    else recordMembers shape step state seen rest

/-- Take the items of an array one by one into a partly filled record, each as the field at its
position; what is left over of either list comes with it. -/
def recordItems {σ : Type} (step : σ → String → Draft → Decoded σ) :
    σ → List (String × Bool) → List Draft → Decoded (σ × List (String × Bool) × List Draft)
  | state, (name, _) :: fields, item :: items => do
    let state ← step state name item
    recordItems step state fields items
  | state, fields, items => .ok (state, fields, items)

/-- The first required field among those that were not given, with its position. -/
def firstMissing : Nat → List (String × Bool) → Option (Nat × String)
  | _, [] => none
  | index, (name, required) :: rest =>
    if required then some (index, name) else firstMissing (index + 1) rest

/-- Decode a record: `step` takes one field into the partly filled record. -/
def decodeRecord {σ : Type} (shape : Shape) (start : σ)
    (step : σ → String → Draft → Decoded σ) : Decoder σ
  | .object members ending => do
    let (state, seen) ← recordMembers shape step start [] members
    ending.check
    match firstMissing 0 (shape.fields.filter fun field => !seen.contains field.1) with
    | some (_, name) => .error (.missingField name)
    | none => return state
  | .array items ending => do
    let (state, fields, left) ← recordItems step start shape.fields items
    let taken := shape.fields.length - fields.length
    if fields.isEmpty then
      ending.checkAfter taken left.length
      return state
    else
      ending.check
      match firstMissing taken fields with
      | some (index, _) =>
        .error (.invalidLength index shape.wantedLength)
      | none => return state
  | other => .error (refuse shape.wanted other)

/-! ### Whole documents -/

/-- Decode a text that has been read; characters after the document are refused last. -/
def Reading.decode {α : Type} (reading : Reading) (decode : Decoder α) : Decoded α := do
  let value ← decode reading.root
  match reading.leftover with
  | some fault => .error (.malformed fault)
  | none => return value

/-- Decode a text. -/
def decodeText {α : Type} (decode : Decoder α) (text : String) : Decoded α :=
  (read text).decode decode

/-- Read a text as any JSON value. -/
def parse (text : String) : Decoded Json := decodeText decodeValue text

end PageCheck.Json
