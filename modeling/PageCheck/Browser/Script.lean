import PageCheck.Browser.Command

/-!
# Scripts

A script is what a handler does, as a tree: at every node it issues a command and goes on with the
result, lets time pass, or ends. The tree is the same for every browser; running it supplies the
results. Time passes only where the script lets it pass.
-/

namespace PageCheck

/-- What a handler does. -/
inductive Script (α : Type) : Type
  /-- End with a value. -/
  | done (value : α)
  /-- End with an error. -/
  | fail (error : Error)
  /-- Give up altogether. -/
  | panic (message : String)
  /-- Issue a command and go on with what comes of it. -/
  | issue (command : Command) (next : Result command.Reply → Script α)
  /-- Let a number of milliseconds pass. -/
  | sleep (milliseconds : Nat) (next : Unit → Script α)

namespace Script

/-- One script after the other. -/
def bind {α β : Type} (script : Script α) (next : α → Script β) : Script β :=
  match script with
  | done value => next value
  | fail error => .fail error
  | panic message => .panic message
  | issue command after => .issue command fun result => (after result).bind next
  | sleep milliseconds after => .sleep milliseconds fun u => (after u).bind next

instance : Monad Script where
  pure := done
  bind := bind

/-- The script of a computation that needs no browser. -/
def ofResult {α : Type} : Result α → Script α
  | .ok value => done value
  | .error error => fail error

/-- Issue a command; if it fails, so does the script. -/
def ask (command : Command) : Script command.Reply := .issue command ofResult

/-- Run a script in a session. -/
def run {World Session α : Type} (browser : Browser World Session) (script : Script α)
    (session : Session) (world : World) : Attempt α × Session × World :=
  match script with
  | done value => (.returned value, session, world)
  | fail error => (.failed error, session, world)
  | panic message => (.panicked message, session, world)
  | issue command next =>
    match browser.perform command session world with
    | (.returned reply, session, world) => (next (.ok reply)).run browser session world
    | (.failed error, session, world) => (next (.error error)).run browser session world
    | (.panicked message, session, world) => (.panicked message, session, world)
  | sleep milliseconds next => (next ()).run browser session (browser.pause milliseconds world)

end Script

end PageCheck
