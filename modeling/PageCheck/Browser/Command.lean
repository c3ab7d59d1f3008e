import PageCheck.Cookie
import PageCheck.Error
import PageCheck.Locator
import PageCheck.Options

/-!
# Commands and browsers

Handlers speak to a browser in commands, each with its own kind of reply. A browser is given by what
its operations do to a session and to the world outside, which keeps whatever outlives a session: a
record of calls, the answers still to come, the time. Every operation can answer, fail or give up
altogether. Ending a session is not a command, so no handler can do it.
-/

namespace PageCheck

/-- The name by which a session knows an element. -/
abbrev Element := String

/-- What a handler may ask of a session. -/
inductive Command
  | navigate (url : String)
  | currentUrl
  | back
  | forward
  | refresh
  /-- All elements that a locator finds. -/
  | find (locator : Locator)
  | text (element : Element)
  | displayed (element : Element)
  | attribute (element : Element) (name : String)
  | property (element : Element) (name : String)
  | setAttribute (element : Element) (name value : String)
  | click (element : Element)
  | hover (element : Element)
  | clear (element : Element)
  | sendKeys (element : Element) (text : String)
  | addCookie (cookie : Cookie)
  | cookies
  | deleteCookie (name : String)
  | deleteAllCookies
  | setWindowSize (width height : Nat)
deriving Repr, DecidableEq

/-- What a command is answered with. -/
abbrev Command.Reply : Command → Type
  | .currentUrl => String
  | .find _ => List Element
  | .text _ => String
  | .displayed _ => Bool
  | .attribute _ _ => Option String
  | .property _ _ => Option Json
  | .cookies => List Cookie
  | _ => Unit

/-- How an operation ends. -/
inductive Attempt (α : Type)
  /-- It answers. -/
  | returned (value : α)
  /-- It fails. -/
  | failed (error : Error)
  /-- It gives up altogether. -/
  | panicked (message : String)
deriving Repr

namespace Attempt

/-- Change the answer. -/
def map {α β : Type} (f : α → β) : Attempt α → Attempt β
  | returned value => .returned (f value)
  | failed error => .failed error
  | panicked message => .panicked message

/-- The end of something that can only fail. -/
def ofResult {α : Type} : Result α → Attempt α
  | .ok value => .returned value
  | .error error => .failed error

end Attempt

/-- A kind of browser: what its operations do. -/
structure Browser (World Session : Type) where
  /-- Start a session. -/
  start : BrowserTarget → RunOptions → World → Attempt Session × World
  /-- The browser that a session drives. -/
  target : Session → BrowserTarget
  /-- Carry out a command. -/
  perform : (command : Command) → Session → World → Attempt command.Reply × Session × World
  /-- End a session. -/
  quit : Session → World → Attempt Unit × World
  /-- Let a number of milliseconds pass. -/
  pause : Nat → World → World

end PageCheck
