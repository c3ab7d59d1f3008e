import PageCheck.Step.Basic

/-!
# Waiting

A waiting step looks for its element, lets the interval between two looks pass, and looks again,
until it finds what it wants or its time is up. A look that falls exactly on the end still happens.
The time is taken to the nanosecond and the clock counts in milliseconds, rounded up.
-/

namespace PageCheck

open Decimal (Double)

namespace Waiting

/-- The limit of the seconds that a time can have. -/
def secondsLimit : Nat := Nat.pow 2 64

/-- The nearest whole number of nanoseconds; none if the seconds reach the limit. -/
def nanoseconds? (seconds : Double) : Option Nat :=
  let (num, den) := seconds.ratio
  let nanoseconds := Double.roundDiv (num * 1000000000) den
  if nanoseconds < secondsLimit * 1000000000 then some nanoseconds else none

/-- The number of seconds that a parameter value is or, as text, writes. -/
def secondsOf? (value : Json) : Option Double :=
  match value.double? with
  | some seconds => some seconds
  | none => do Double.ofChars? (Unicode.trimChars (← value.string?).toList)

/-- A time for the clock. One beyond every limit makes the step give up. -/
def clocked : Option Nat → Script Nat
  | some nanoseconds => .done nanoseconds
  | none => .panic "cannot convert float seconds to Duration: value is either too big or NaN"

/-- A time to wait in nanoseconds: the one that the step asks for, or else the ordinary one. -/
def time (step : ResolvedStep) (timeouts : Timeouts) : Script Nat :=
  match step.param? "timeoutInSeconds" with
  | none => .done (timeouts.waitSeconds * 1000000000)
  | some value =>
    match (secondsOf? value).filter fun seconds => !seconds.negative || seconds.isZero with
    | none => .fail (step.invalid
        ("timeoutInSeconds must be a non-negative number, got " ++ value.text))
    | some seconds => clocked (nanoseconds? seconds)

/-- A time in milliseconds, rounded up. -/
def milliseconds (nanoseconds : Nat) : Nat := (nanoseconds + 999999) / 1000000

/-- A time in seconds with one place after the point. The whole seconds and the rest are rounded to
doubles on their own and then added. -/
def secondsText (nanoseconds : Nat) : String :=
  let whole := Double.ofNat? (nanoseconds / 1000000000)
  let rest := Double.ofRatio false (nanoseconds % 1000000000) 1000000000
  match whole, rest with
  | some whole, some rest => ((whole.plus rest).getD whole).toOnePlace
  | _, _ => ""

/-- Whether one of the elements is displayed; those after it are not asked. -/
def anyDisplayed : List Element → Script Bool
  | [] => .done false
  | element :: rest => do
    let displayed : Bool ← Script.ask (.displayed element)
    if displayed then return true else anyDisplayed rest

/-- What a waiting step wants. -/
inductive Wish
  /-- An element. -/
  | presence
  /-- An element that is displayed. -/
  | visibility
deriving Repr, DecidableEq

/-- What is waited for, in words. -/
def Wish.text : Wish → String
  | presence => "present"
  | visibility => "visible"

/-- One look: whether the wish is fulfilled. -/
def look (wish : Wish) (locator : Locator) : Script Bool := do
  let elements : List Element ← Script.ask (.find locator)
  match wish with
  | .presence => return !elements.isEmpty
  | .visibility => anyDisplayed elements

/-- Look. If nothing is there, let the interval pass and look again, as long as that look is due
before the time that is left is up or right at its end. Otherwise that time passes. The answer is
whether the wish was fulfilled. -/
def poll (wish : Wish) (locator : Locator) (interval left : Nat) : Script Bool := do
  let found ← look wish locator
  if found then return true
  else if _due : 0 < interval ∧ interval ≤ left then
    .sleep interval fun _ => poll wish locator interval (left - interval)
  else .sleep left fun _ => .done false
termination_by left

/-- Wait until a wish is fulfilled or the time is up. -/
def handler (wish : Wish) : StepHandler := fun step timeouts => do
  let locator ← Script.ofResult step.requireLocator
  let nanoseconds ← time step timeouts
  let fulfilled ← poll wish locator timeouts.pollInterval (milliseconds nanoseconds)
  return .check fulfilled ("Timed out after " ++ secondsText nanoseconds ++ "s waiting for " ++
    locator.text ++ " to be " ++ wish.text)

end Waiting

end PageCheck
