import PageCheck.Unicode.Prose

/-!
# Names that files use

Five closed lists of built-in names, each open to names that plugins contribute: actions of steps,
types of validations, states that validations check, browsers and sources of captured values. A
built-in name is recognised whatever its letter case and whatever underscores, hyphens and blanks
it is written with.
-/

namespace PageCheck

/-- The five kinds of names. -/
inductive Category
  | actionType
  | validationType
  | validationState
  | browserTarget
  | outputSource
deriving Repr, DecidableEq

/-- The wording of a kind of names. -/
def Category.text : Category → String
  | actionType => "action type"
  | validationType => "validation type"
  | validationState => "validation state"
  | browserTarget => "browser target"
  | outputSource => "output source"

/-- A name as built-in names are compared: lower case, without underscores, hyphens and blanks. -/
def normalizeName (name : String) : String :=
  String.ofList ((name.toList.filter fun c =>
    c != '_' && c != '-' && !Unicode.isBlank c).flatMap Unicode.lowerChar)

/-- A type of names with built-in entries and room for further ones. -/
class Vocabulary (α : Type) where
  /-- The kind of names. -/
  category : Category
  /-- The built-in entries in order. -/
  builtins : List α
  /-- The name of an entry. -/
  nameOf : α → String
  /-- An entry that a plugin contributes. -/
  extend : String → α
  /-- Whether a plugin contributed the entry. -/
  isExtension : α → Bool

namespace Vocabulary

/-- The built-in entry that a name means. -/
def builtin? {α : Type} [Vocabulary α] (name : String) : Option α :=
  (builtins (α := α)).find? fun entry => normalizeName name == normalizeName (nameOf entry)

end Vocabulary

/-- What a step does. -/
inductive ActionType
  | click | clear | sendKeys | waitForExistence | waitForVisibility | navigateTo | refresh
  | addCookies | setCookies | removeCookie | clearCookies | navigateForward | navigateBack
  | setBrowserSize | hover | outputValue | setAttribute
  /-- An action that a plugin contributes. -/
  | extension (name : String)
deriving Repr, DecidableEq

/-- The name of an action. -/
def ActionType.name : ActionType → String
  | click => "Click"
  | clear => "Clear"
  | sendKeys => "SendKeys"
  | waitForExistence => "WaitForExistence"
  | waitForVisibility => "WaitForVisibility"
  | navigateTo => "NavigateTo"
  | refresh => "Refresh"
  | addCookies => "AddCookies"
  | setCookies => "SetCookies"
  | removeCookie => "RemoveCookie"
  | clearCookies => "ClearCookies"
  | navigateForward => "NavigateForward"
  | navigateBack => "NavigateBack"
  | setBrowserSize => "SetBrowserSize"
  | hover => "Hover"
  | outputValue => "OutputValue"
  | setAttribute => "SetAttribute"
  | extension name => name

instance : Vocabulary ActionType where
  category := .actionType
  builtins := [.click, .clear, .sendKeys, .waitForExistence, .waitForVisibility, .navigateTo,
    .refresh, .addCookies, .setCookies, .removeCookie, .clearCookies, .navigateForward,
    .navigateBack, .setBrowserSize, .hover, .outputValue, .setAttribute]
  nameOf := ActionType.name
  extend := .extension
  isExtension
    | .extension _ => true
    | _ => false

/-- What a validation looks at. -/
inductive ValidationType
  | xpath | url
  /-- A type that a plugin contributes. -/
  | extension (name : String)
deriving Repr, DecidableEq

/-- The name of a validation type. -/
def ValidationType.name : ValidationType → String
  | xpath => "XPath"
  | url => "URL"
  | extension name => name

instance : Vocabulary ValidationType where
  category := .validationType
  builtins := [.xpath, .url]
  nameOf := ValidationType.name
  extend := .extension
  isExtension
    | .extension _ => true
    | _ => false

/-- What a validation wants to hold. -/
inductive ValidationState
  | exists | notExists | visible | notVisible | textMatches | notTextMatches
  | hasProperty | notHasProperty | propertyHasValue | notPropertyHasValue
  | hasAttribute | notHasAttribute | attributeHasValue | notAttributeHasValue
  | equals | notEquals | contains | notContains | matches | notMatches
  /-- A state that a plugin contributes. -/
  | extension (name : String)
deriving Repr, DecidableEq

/-- The name of a state. -/
def ValidationState.name : ValidationState → String
  | «exists» => "Exists"
  | notExists => "NotExists"
  | visible => "Visible"
  | notVisible => "NotVisible"
  | textMatches => "TextMatches"
  | notTextMatches => "NotTextMatches"
  | hasProperty => "HasProperty"
  | notHasProperty => "NotHasProperty"
  | propertyHasValue => "PropertyHasValue"
  | notPropertyHasValue => "NotPropertyHasValue"
  | hasAttribute => "HasAttribute"
  | notHasAttribute => "NotHasAttribute"
  | attributeHasValue => "AttributeHasValue"
  | notAttributeHasValue => "NotAttributeHasValue"
  | equals => "Equals"
  | notEquals => "NotEquals"
  | contains => "Contains"
  | notContains => "NotContains"
  | «matches» => "Matches"
  | notMatches => "NotMatches"
  | extension name => name

instance : Vocabulary ValidationState where
  category := .validationState
  builtins := [.exists, .notExists, .visible, .notVisible, .textMatches, .notTextMatches,
    .hasProperty, .notHasProperty, .propertyHasValue, .notPropertyHasValue, .hasAttribute,
    .notHasAttribute, .attributeHasValue, .notAttributeHasValue, .equals, .notEquals, .contains,
    .notContains, .matches, .notMatches]
  nameOf := ValidationState.name
  extend := .extension
  isExtension
    | .extension _ => true
    | _ => false

/-- A browser to run in. -/
inductive BrowserTarget
  | firefox | chrome | edge
  /-- A browser that a plugin contributes. -/
  | extension (name : String)
deriving Repr, DecidableEq

/-- The name of a browser. -/
def BrowserTarget.name : BrowserTarget → String
  | firefox => "Firefox"
  | chrome => "Chrome"
  | edge => "Edge"
  | extension name => name

instance : Vocabulary BrowserTarget where
  category := .browserTarget
  builtins := [.firefox, .chrome, .edge]
  nameOf := BrowserTarget.name
  extend := .extension
  isExtension
    | .extension _ => true
    | _ => false

/-- Where a captured value comes from. -/
inductive OutputSource
  | literal | xpathText | xpathProperty | xpathAttribute | url
  /-- A source that a plugin contributes. -/
  | extension (name : String)
deriving Repr, DecidableEq

/-- The name of a source. -/
def OutputSource.name : OutputSource → String
  | literal => "Literal"
  | xpathText => "XPathText"
  | xpathProperty => "XPathProperty"
  | xpathAttribute => "XPathAttribute"
  | url => "URL"
  | extension name => name

instance : Vocabulary OutputSource where
  category := .outputSource
  builtins := [.literal, .xpathText, .xpathProperty, .xpathAttribute, .url]
  nameOf := OutputSource.name
  extend := .extension
  isExtension
    | .extension _ => true
    | _ => false

end PageCheck
