import PageCheck.Json.Decode

/-!
# Locators

A locator says how to find elements: a selector and the way to read it. A file writes a locator as
a bare text, which is an XPath, or as a record with the selector and, if it is not an XPath, the
strategy.
-/

namespace PageCheck

open Json (Draft Decoded Decoder DecodeError Shape)

/-- How a selector is read. -/
inductive Strategy
  | xpath | css | id | name | tagName | linkText
deriving Repr, DecidableEq

namespace Strategy

/-- The name of a strategy. -/
def label : Strategy → String
  | xpath => "XPath"
  | css => "Css"
  | id => "Id"
  | name => "Name"
  | tagName => "TagName"
  | linkText => "LinkText"

/-- The further spellings of a strategy. -/
def aliases : Strategy → List String
  | xpath => ["xpath", "XPATH"]
  | css => ["css", "CSS", "CssSelector"]
  | id => ["id", "ID"]
  | name => ["name", "NAME"]
  | tagName => ["tagName", "tag", "TAG_NAME"]
  | linkText => ["linkText", "LINK_TEXT"]

/-- Every strategy. -/
def all : List Strategy := [xpath, css, id, name, tagName, linkText]

/-- The strategy that a spelling means. -/
def ofSpelling? (spelling : String) : Option Strategy :=
  all.find? fun strategy => strategy.label == spelling || strategy.aliases.contains spelling

end Strategy

/-- A way to find elements. -/
structure Locator where
  /-- What to look for. -/
  selector : String
  /-- How to read it. -/
  strategy : Strategy
deriving Repr, DecidableEq

namespace Locator

/-- The locator of an XPath. -/
def ofXPath (selector : String) : Locator := ⟨selector, .xpath⟩

/-- A locator in messages. -/
def text (locator : Locator) : String :=
  locator.strategy.label ++ " '" ++ locator.selector ++ "'"

/-- A locator as a file writes it in full. -/
def toJson (locator : Locator) : Json :=
  .object [("selector", .string locator.selector), ("strategy", .string locator.strategy.label)]

/-- The record form. -/
def shape : Shape := ⟨"LocatorFields", [("selector", true), ("strategy", false)], true⟩

/-- What is said of a value that is no locator. -/
def unreadable : DecodeError := .noVariant "LocatorRepr"

/-- A strategy: one of its spellings, alone or as the only key of an object over null. -/
def decodeStrategy : Decoder Strategy
  | .string spelling =>
    match Strategy.ofSpelling? spelling with
    | some strategy => .ok strategy
    | none => .error unreadable
  | .object [(spelling, .null)] _ =>
    match Strategy.ofSpelling? spelling with
    | some strategy => .ok strategy
    | none => .error unreadable
  | _ => .error unreadable

/-- Take one field of the record form. -/
def takeField (locator : Locator) (key : String) (value : Draft) : Decoded Locator :=
  if key = "selector" then do
    let selector ← Json.decodeString value
    return { locator with selector }
  else do
    let strategy ← decodeStrategy value
    return { locator with strategy }

/-- Either form of a locator, the text known to be well formed. -/
def decodeForm : Decoder Locator
  | .string selector => .ok (ofXPath selector)
  | other =>
    match Json.decodeRecord shape (ofXPath "") takeField other with
    | .ok locator => .ok locator
    | .error _ => .error unreadable

/-- A locator. What is wrong with the text comes before what is wrong with the value. -/
def decode : Decoder Locator := fun draft => do
  let _ ← Json.decodeValue draft
  decodeForm draft

end Locator

end PageCheck
