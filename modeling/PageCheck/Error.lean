import PageCheck.Json.Decode
import PageCheck.Vocabulary

/-!
# Errors

Everything that can go wrong short of a handler giving up altogether, one constructor per cause.
Every error has a code for programs and a message for people.
-/

namespace PageCheck

/-- The causes of failure. -/
inductive Error
  /-- A validation or definitions file is not what it should be. -/
  | invalidFile (reason : String)
  /-- No browser was asked for. -/
  | noBrowsers
  /-- A name means nothing. -/
  | unknownName (category : Category) (name : String)
  /-- A name is known but nothing can act on it. -/
  | noHandler (category : Category) (name : String)
  /-- A validation type cannot check a state. -/
  | unsupportedState (validation state : String)
  /-- An expression has no value. -/
  | unresolvedExpression (expression reason : String)
  /-- A captured value cannot be stored under its name. -/
  | invalidOutputName (name : String)
  /-- A step or validation lacks something or has something of the wrong kind. -/
  | invalidStep (action reason : String)
  /-- A pattern is not well formed. -/
  | invalidPattern (pattern reason : String)
  /-- No session is bound. -/
  | noDriver
  /-- A session is bound already. -/
  | driverBusy
  /-- A session did not start. -/
  | sessionStart (browser reason : String)
  /-- A session refused a command. -/
  | session (reason : String)
  /-- No element was found. -/
  | elementNotFound (wanted : String)
  /-- A handler gave up. -/
  | handlerPanicked (reason : String)
  /-- The configuration cannot be used. -/
  | config (reason : String)
  /-- The configuration file is not well formed. -/
  | invalidConfig (reason : String)
  /-- A file could not be written. -/
  | io (reason : String)
  /-- A file could not be read. -/
  | fileRead (path reason : String)
  /-- A JSON document is not what it should be. -/
  | json (error : Json.DecodeError)
  /-- A remote browser could not be talked to. -/
  | http (reason : String)
deriving Repr, DecidableEq

namespace Error

/-- The code of an error. -/
def code : Error → String
  | invalidFile _ => "PARSE"
  | noBrowsers => "NO_BROWSERS"
  | unknownName _ _ => "UNKNOWN_NAME"
  | noHandler _ _ => "NO_HANDLER"
  | unsupportedState _ _ => "UNSUPPORTED_STATE"
  | unresolvedExpression _ _ => "UNRESOLVED_EXPRESSION"
  | invalidOutputName _ => "INVALID_OUTPUT_NAME"
  | invalidStep _ _ => "INVALID_STEP"
  | invalidPattern _ _ => "INVALID_PATTERN"
  | noDriver => "NO_DRIVER"
  | driverBusy => "DRIVER_BUSY"
  | sessionStart _ _ => "SESSION_START"
  | session _ => "SESSION"
  | elementNotFound _ => "ELEMENT_NOT_FOUND"
  | handlerPanicked _ => "HANDLER_PANICKED"
  | config _ => "CONFIG"
  | invalidConfig _ => "CONFIG"
  | io _ => "IO"
  | fileRead _ _ => "IO"
  | json _ => "JSON"
  | http _ => "SESSION"

/-- The message of an error. -/
def message : Error → String
  | invalidFile reason => "Invalid validation file: " ++ reason
  | noBrowsers => "No target browsers requested. Add at least one entry to 'targetBrowsers' or " ++
      "pass --browser"
  | unknownName category name =>
    "Unknown " ++ category.text ++ " '" ++ name ++
      "'. No built-in entry or registered plugin resolves it"
  | noHandler category name => "No handler available for " ++ category.text ++ " '" ++ name ++ "'"
  | unsupportedState validation state =>
    "Validation type '" ++ validation ++ "' does not support state '" ++ state ++ "'"
  | unresolvedExpression expression reason =>
    "Unresolved expression '" ++ expression ++ "': " ++ reason
  | invalidOutputName name =>
    "Invalid output name '" ++ name ++
      "': the name is already used by a value or the namespace is invalid"
  | invalidStep action reason => "Invalid " ++ action ++ " step: " ++ reason
  | invalidPattern pattern reason => "Invalid pattern '" ++ pattern ++ "': " ++ reason
  | noDriver => "No browser session bound. Steps can only run inside a browser pass"
  | driverBusy => "A browser session is already bound to this context"
  | sessionStart browser reason => "Failed to start " ++ browser ++ " session: " ++ reason
  | session reason => "Browser session error: " ++ reason
  | elementNotFound wanted => "No element found for " ++ wanted
  | handlerPanicked reason => "Handler panicked: " ++ reason
  | config reason => "Configuration error: " ++ reason
  | invalidConfig reason => "Invalid configuration file: " ++ reason
  | io reason => "IO error: " ++ reason
  | fileRead path reason => "Failed to read file '" ++ path ++ "': " ++ reason
  | json error => "JSON error: " ++ error.message
  | http reason => "HTTP error: " ++ reason

end Error

/-- The result of something that can fail. -/
abbrev Result (α : Type) := Except Error α

end PageCheck
