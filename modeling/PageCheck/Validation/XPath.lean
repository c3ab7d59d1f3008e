import PageCheck.Step.Basic
import PageCheck.Validation.Basic
import PageCheck.Validation.Comparison

/-!
# Validations of elements

The target is an XPath, and the first element that it finds is looked at. Every state is a condition
or the negation of one. Without an element the conditions on presence have their answer, nothing is
visible, and no other state holds.
-/

namespace PageCheck

namespace ElementCheck

/-- What can be asked of the element that a target finds. -/
inductive Condition
  /-- There is one. -/
  | presence
  /-- It is displayed. -/
  | visibility
  /-- Its text is matched somewhere by a pattern. -/
  | textMatch
  /-- It has a property. -/
  | property
  /-- A property has a value. -/
  | propertyValue
  /-- It has an attribute. -/
  | attribute
  /-- An attribute has a value. -/
  | attributeValue
  /-- Its text compares with an expected one. -/
  | text (comparison : Comparison)
deriving Repr, DecidableEq

/-- The condition behind a state and whether it is negated. -/
def Condition.ofState? : ValidationState → Option (Condition × Bool)
  | .exists => some (presence, false)
  | .notExists => some (presence, true)
  | .visible => some (visibility, false)
  | .notVisible => some (visibility, true)
  | .textMatches => some (textMatch, false)
  | .notTextMatches => some (textMatch, true)
  | .hasProperty => some (property, false)
  | .notHasProperty => some (property, true)
  | .propertyHasValue => some (propertyValue, false)
  | .notPropertyHasValue => some (propertyValue, true)
  | .hasAttribute => some (.attribute, false)
  | .notHasAttribute => some (.attribute, true)
  | .attributeHasValue => some (attributeValue, false)
  | .notAttributeHasValue => some (attributeValue, true)
  | .extension _ => none
  | state => (Comparison.ofState? state).map fun (comparison, negated) => (text comparison, negated)

/-- An attribute value as messages show it. -/
def attributeText : Option String → String
  | some value => "Some(" ++ Unicode.quote value ++ ")"
  | none => "None"

/-- Whether a condition other than presence holds of an element, and what is said if the state does
not. -/
def examine (validation : ResolvedValidation) (element : Element) :
    Condition → Script (Bool × String)
  | .presence => .done (true, "")
  | .visibility => do
    let displayed : Bool ← Script.ask (.displayed element)
    return (displayed, "Element " ++ validation.target ++
      (if displayed then " is visible" else " is not visible"))
  | .textMatch => do
    let pattern ← Script.ofResult validation.requirePattern
    let text : String ← Script.ask (.text element)
    let found ← Script.ofResult (Pattern.search pattern text)
    return (found, "Text of " ++ validation.target ++ " \"" ++ text ++ "\" did not satisfy " ++
      state ++ " /" ++ pattern ++ "/")
  | .property => do
    let name ← Script.ofResult (validation.requireParam "name")
    let value : Option Json ← Script.ask (.property element name)
    return (value.isSome, unsatisfied name)
  | .propertyValue => do
    let name ← Script.ofResult (validation.requireParam "name")
    let expected ← Script.ofResult validation.requireExpected
    let value : Option Json ← Script.ask (.property element name)
    return (value.map Json.plainText == some expected,
      "Property '" ++ name ++ "' of " ++ validation.target ++ " is " ++
        (value.getD .null).text ++ ", which does not satisfy " ++ state ++ " \"" ++
        expected ++ "\"")
  | .attribute => do
    let name ← Script.ofResult (validation.requireParam "name")
    let value : Option String ← Script.ask (.attribute element name)
    return (value.isSome, unsatisfied name)
  | .attributeValue => do
    let name ← Script.ofResult (validation.requireParam "name")
    let expected ← Script.ofResult validation.requireExpected
    let value : Option String ← Script.ask (.attribute element name)
    return (value == some expected,
      "Attribute '" ++ name ++ "' of " ++ validation.target ++ " is " ++ attributeText value ++
        ", which does not satisfy " ++ state ++ " \"" ++ expected ++ "\"")
  | .text comparison => do
    let expected ← Script.ofResult (match comparison with
      | .matching => validation.requirePattern
      | _ => validation.requireExpected)
    let text : String ← Script.ask (.text element)
    let holds ← Script.ofResult (comparison.evaluate text expected)
    return (holds, "Text of " ++ validation.target ++ " \"" ++ text ++ "\" did not satisfy " ++
      state ++ " \"" ++ expected ++ "\"")
where
  /-- The state in messages. -/
  state : String := validation.state.name
  /-- What is said of something that should or should not be there. -/
  unsatisfied (name : String) : String :=
    "Element " ++ validation.target ++ " did not satisfy " ++ state ++ " '" ++ name ++ "'"

/-- Check a condition or its negation on the elements that the target finds. -/
def check (validation : ResolvedValidation) (condition : Condition) (negated : Bool)
    (elements : List Element) : Script Outcome :=
  match condition, elements with
  | .presence, [] => .done (.check negated ("No element matches " ++ validation.target))
  | .presence, elements => .done (.check (!negated)
      (toString elements.length ++ " element(s) match " ++ validation.target))
  | .visibility, [] =>
    .done (.check negated (withoutElement validation))
  | _, [] => .done (.failed (withoutElement validation))
  | condition, element :: _ => do
    let (holds, msg) ← examine validation element condition
    return .check (holds != negated) msg
where
  /-- What is said of a state that needs an element where there is none. -/
  withoutElement (validation : ResolvedValidation) : String :=
    "No element matches " ++ validation.target ++ ", so " ++ validation.state.name ++
      " cannot hold"

/-- Validations of elements. All states but those of plugins are supported; the elements are looked
for even if the state is not. -/
def handler : ValidationHandler where
  supports := .of fun state => !Vocabulary.isExtension state
  validate validation _ := do
    let elements : List Element ← Script.ask (.find (.ofXPath validation.target))
    match Condition.ofState? validation.state with
    | some (condition, negated) => check validation condition negated elements
    | none =>
      match elements with
      | [] => return .failed (check.withoutElement validation)
      | _ :: _ => .fail (.unsupportedState validation.validationType.name validation.state.name)

end ElementCheck

end PageCheck
