import PageCheck.Browser.Scripted
import PageCheck.Handlers

/-!
# How built-in handlers end

In a session in which no command gives up, a script gives up only where it says so itself. Of what
the built-in handlers do one thing alone says so: the reading of the time that a waiting step asks
for, when its seconds, taken to the nanosecond, reach `2 ^ 64`. Every other parameter that is
missing or malformed makes the step fail.
-/

namespace PageCheck

open Decimal (Double)

variable {World Session α β : Type}

/-- No command of a browser gives up. -/
def Browser.Calm (browser : Browser World Session) : Prop :=
  ∀ command session world message, (browser.perform command session world).1 ≠ .panicked message

namespace Script

/-- Nowhere does a script say that it gives up. -/
def Calm : Script α → Prop
  | .done _ => True
  | .fail _ => True
  | .panic _ => False
  | .issue _ next => ∀ result, (next result).Calm
  | .sleep _ next => (next ()).Calm

@[simp]
theorem calm_done (value : α) : (Script.done value).Calm := trivial

@[simp]
theorem calm_fail (error : Error) : (Script.fail error : Script α).Calm := trivial

@[simp]
theorem calm_ofResult (result : Result α) : (ofResult result).Calm := by
  cases result <;> trivial

@[simp]
theorem calm_ask (command : Command) : (ask command).Calm := calm_ofResult

/-- One calm script after another. -/
theorem Calm.bind {script : Script α} (calm : script.Calm) {next : α → Script β}
    (further : ∀ value, (next value).Calm) : (script >>= next).Calm := by
  change (script.bind next).Calm
  induction script with
  | done value => exact further value
  | fail error => trivial
  | panic message => cases calm
  | issue command after ih => exact fun result => ih result (calm result)
  | sleep milliseconds after ih => exact ih () calm

/-- In a session in which no command gives up, a calm script answers or fails. -/
theorem Calm.ends {script : Script α} (calm : script.Calm) {browser : Browser World Session}
    (steady : browser.Calm) (session : Session) (world : World) :
    (∃ value, (script.run browser session world).1 = .returned value) ∨
      ∃ error, (script.run browser session world).1 = .failed error := by
  induction script generalizing session world with
  | done value => exact .inl ⟨value, rfl⟩
  | fail error => exact .inr ⟨error, rfl⟩
  | panic message => cases calm
  | issue command next ih =>
    have hcalm := steady command session world
    rw [run]
    rcases hperform : browser.perform command session world with ⟨attempt, session', world'⟩
    rw [hperform] at hcalm
    cases attempt with
    | returned reply => exact ih (.ok reply) (calm _) session' world'
    | failed error => exact ih (.error error) (calm _) session' world'
    | panicked message => exact absurd rfl (hcalm message)
  | sleep milliseconds next ih => exact ih () calm session (browser.pause milliseconds world)

end Script

open Script (calm_ask calm_done calm_fail calm_ofResult)

/-! ### Actions and captures -/

/-- Looking for the first element is calm. -/
@[simp]
theorem Script.calm_findFirst (locator : Locator) : (Script.findFirst locator).Calm := by
  refine (calm_ask _).bind fun elements => ?_
  cases elements <;> trivial

/-- Looking for the element of a step is calm. -/
@[simp]
theorem ResolvedStep.calm_element (step : ResolvedStep) : step.element.Calm :=
  (calm_ofResult _).bind fun locator => Script.calm_findFirst locator

/-- Adding cookies is calm. -/
@[simp]
theorem StepHandler.calm_addAll (cookies : List Cookie) : (StepHandler.addAll cookies).Calm := by
  induction cookies with
  | nil => trivial
  | cons cookie rest ih => exact (calm_ask _).bind fun _ => ih

/-- The commands of every action are calm. -/
theorem StepHandler.calm_commands (step : ResolvedStep) : (StepHandler.commands step).Calm := by
  have helement := step.calm_element
  obtain ⟨action, locator, parameters, outputName, source⟩ := step
  cases action with
  | click | clear | hover => exact helement.bind fun _ => calm_ask _
  | sendKeys => exact (calm_ofResult _).bind fun _ => helement.bind fun _ => calm_ask _
  | setAttribute =>
    exact (calm_ofResult _).bind fun _ => (calm_ofResult _).bind fun _ =>
      helement.bind fun _ => calm_ask _
  | navigateTo | removeCookie => exact (calm_ofResult _).bind fun _ => calm_ask _
  | refresh | navigateBack | navigateForward | clearCookies => exact calm_ask _
  | setBrowserSize =>
    exact (calm_ofResult _).bind fun _ => (calm_ofResult _).bind fun _ => calm_ask _
  | addCookies => exact (calm_ofResult _).bind StepHandler.calm_addAll
  | setCookies =>
    exact (calm_ofResult _).bind fun _ => (calm_ask _).bind fun _ => StepHandler.calm_addAll _
  | _ => exact calm_fail _

/-- Reading the value of every source is calm. -/
theorem Capture.calm_value (step : ResolvedStep) (source : OutputSource) :
    (Capture.value step source).Calm := by
  cases source with
  | literal => exact calm_ofResult _
  | xpathText => exact step.calm_element.bind fun _ => (calm_ask _).bind fun _ => calm_done _
  | xpathProperty | xpathAttribute =>
    exact (calm_ofResult _).bind fun _ => step.calm_element.bind fun _ =>
      (calm_ask _).bind fun _ => calm_done _
  | url => exact (calm_ask _).bind fun _ => calm_done _
  | extension name => exact calm_fail _

/-- Capturing is calm. -/
theorem Capture.calm_handler (step : ResolvedStep) (timeouts : Timeouts) :
    (Capture.handler step timeouts).Calm := by
  obtain ⟨action, locator, parameters, outputName, source⟩ := step
  cases outputName with
  | none => exact calm_fail _
  | some name =>
    cases source with
    | none => exact calm_fail _
    | some source => exact (Capture.calm_value _ source).bind fun _ => calm_done _

/-! ### Waiting -/

namespace Waiting

/-- Asking elements whether they are displayed is calm. -/
theorem calm_anyDisplayed (elements : List Element) : (anyDisplayed elements).Calm := by
  induction elements with
  | nil => trivial
  | cons element rest ih =>
    refine (calm_ask _).bind fun displayed => ?_
    cases displayed with
    | true => exact calm_done _
    | false => exact ih

/-- A look is calm. -/
theorem calm_look (wish : Wish) (locator : Locator) : (look wish locator).Calm := by
  refine (calm_ask _).bind fun elements => ?_
  cases wish with
  | presence => exact calm_done _
  | visibility => exact calm_anyDisplayed elements

/-- Looking again and again is calm. -/
theorem calm_poll (wish : Wish) (locator : Locator) (interval left : Nat) :
    (poll wish locator interval left).Calm := by
  induction left using Nat.strongRecOn with
  | ind left ih =>
    rw [poll]
    refine (calm_look wish locator).bind fun found => ?_
    cases found with
    | true => exact calm_done _
    | false =>
      by_cases hdue : 0 < interval ∧ interval ≤ left
      · rw [dif_pos hdue]
        exact ih (left - interval) (by omega)
      · rw [dif_neg hdue]
        trivial

/-- The time that a step asks for is too long for any clock. -/
structure BeyondLimit (step : ResolvedStep) (seconds : Double) : Prop where
  /-- The step asks for a number of seconds, or writes one as text. -/
  asked : (step.param? "timeoutInSeconds").bind secondsOf? = some seconds
  /-- It is not negative. -/
  positive : seconds.negative = false
  /-- Taken to the nanosecond, it reaches the limit. -/
  tooGreat : secondsLimit * 1000000000 ≤
    Double.roundDiv (seconds.ratio.1 * 1000000000) seconds.ratio.2

/-- Seconds have no number of nanoseconds just if they reach the limit. -/
theorem nanoseconds?_eq_none_iff {seconds : Double} : nanoseconds? seconds = none ↔
    secondsLimit * 1000000000 ≤ Double.roundDiv (seconds.ratio.1 * 1000000000) seconds.ratio.2 := by
  simp [nanoseconds?]

/-- Nothing divides into nothing. -/
theorem roundDiv_zero (den : Nat) : Double.roundDiv 0 den = 0 := by
  simp only [Double.roundDiv, Nat.zero_div, Nat.zero_mod, Nat.mul_zero]
  split <;> rfl

/-- Zero seconds are within the limit. -/
theorem nanoseconds?_of_isZero {seconds : Double} (zero : seconds.isZero = true) :
    nanoseconds? seconds ≠ none := by
  have hzero : seconds.significand = 0 := by simpa [Double.isZero] using zero
  have hratio : seconds.ratio.1 = 0 := by
    rw [Double.ratio, Double.scaled, hzero]
    split <;> simp
  have hseconds : 0 < secondsLimit := Nat.two_pow_pos 64
  have hlimit : 0 < secondsLimit * 1000000000 := Nat.mul_pos hseconds (by omega)
  rw [Ne, nanoseconds?_eq_none_iff, hratio, Nat.zero_mul, roundDiv_zero]
  exact Nat.not_le.mpr hlimit

/-- Asking for a time beyond the limit makes the step give up. -/
theorem time_of_beyond {step : ResolvedStep} {seconds : Double} (beyond : BeyondLimit step seconds)
    (timeouts : Timeouts) : ∃ message, time step timeouts = .panic message := by
  obtain ⟨value, hvalue, hseconds⟩ := Option.bind_eq_some_iff.mp beyond.asked
  have hcount := nanoseconds?_eq_none_iff.mpr beyond.tooGreat
  have hkept : (secondsOf? value).filter (fun seconds => !seconds.negative || seconds.isZero) =
      some seconds := by
    rw [hseconds, Option.filter_eq_some_iff, beyond.positive]
    exact ⟨rfl, rfl⟩
  simp only [time, hvalue, hkept, hcount]
  exact ⟨_, rfl⟩

/-- The time that a step asks for is taken, or refused as invalid, unless it is beyond the limit. -/
theorem time_ends_iff (step : ResolvedStep) (timeouts : Timeouts) :
    ((∃ nanoseconds, time step timeouts = .done nanoseconds) ∨
      ∃ reason, time step timeouts = .fail (.invalidStep step.action.name reason)) ↔
    ¬ ∃ seconds, BeyondLimit step seconds := by
  constructor
  · rintro hends ⟨seconds, hbeyond⟩
    obtain ⟨message, hpanic⟩ := time_of_beyond hbeyond timeouts
    simp [hpanic] at hends
  · intro hwithin
    rw [time]
    cases hvalue : step.param? "timeoutInSeconds" with
    | none => exact .inl ⟨_, rfl⟩
    | some value =>
      dsimp only
      cases hseconds : (secondsOf? value).filter fun seconds =>
          !seconds.negative || seconds.isZero with
      | none => exact .inr ⟨_, rfl⟩
      | some seconds =>
        obtain ⟨hnumber, hsign⟩ := Option.filter_eq_some_iff.mp hseconds
        dsimp only
        cases hcount : nanoseconds? seconds with
        | some nanoseconds => exact .inl ⟨nanoseconds, rfl⟩
        | none =>
          have hasked : (step.param? "timeoutInSeconds").bind secondsOf? = some seconds := by
            rw [hvalue]
            exact hnumber
          have hpositive : seconds.negative = false := by
            cases hzero : seconds.isZero with
            | false => simpa [hzero] using hsign
            | true => exact absurd hcount (nanoseconds?_of_isZero hzero)
          exact absurd ⟨seconds, hasked, hpositive, nanoseconds?_eq_none_iff.mp hcount⟩ hwithin

/-- A step has a locator and asks for a time that is beyond the limit. -/
def WaitsBeyondLimit (step : ResolvedStep) : Prop :=
  step.locator ≠ none ∧ ∃ seconds, BeyondLimit step seconds

/-- Waiting is calm unless the step has a locator and asks for a time beyond the limit. -/
theorem calm_handler {step : ResolvedStep} (within : ¬ WaitsBeyondLimit step) (wish : Wish)
    (timeouts : Timeouts) : (handler wish step timeouts).Calm := by
  cases hlocator : step.locator with
  | none =>
    have hfail : step.requireLocator = .error (step.invalid "no locator specified") := by
      rw [ResolvedStep.requireLocator, hlocator]
    rw [handler, hfail]
    exact calm_fail _
  | some locator =>
    have htime : (time step timeouts).Calm := by
      have hends := (time_ends_iff step timeouts).mpr fun hbeyond =>
        within ⟨by simp [hlocator], hbeyond⟩
      rcases hends with ⟨nanoseconds, hdone⟩ | ⟨reason, hfail⟩
      · rw [hdone]
        exact calm_done _
      · rw [hfail]
        exact calm_fail _
    exact (calm_ofResult _).bind fun locator => htime.bind fun nanoseconds =>
      (calm_poll wish locator timeouts.pollInterval _).bind fun _ => calm_done _

/-- Waiting for a time beyond the limit gives up. -/
theorem handler_of_beyond {step : ResolvedStep} (beyond : WaitsBeyondLimit step) (wish : Wish)
    (timeouts : Timeouts) : ∃ message, handler wish step timeouts = .panic message := by
  obtain ⟨hlocator, seconds, hbeyond⟩ := beyond
  obtain ⟨locator, hlocator⟩ := Option.ne_none_iff_exists'.mp hlocator
  obtain ⟨message, hpanic⟩ := time_of_beyond hbeyond timeouts
  have hfound : step.requireLocator = .ok locator := by
    rw [ResolvedStep.requireLocator, hlocator]
  refine ⟨message, ?_⟩
  rw [handler, hfound, hpanic]
  rfl

end Waiting

/-! ### All built-in handlers -/

/-- A scripted browser whose rules let no command give up is calm. -/
theorem Scripted.calm_of_faults {site : Site}
    (contained : ∀ rule ∈ site.faults, ∀ message, rule.fault ≠ .panic message) :
    (browser site).Calm := by
  intro command session journal message
  dsimp only [browser, perform]
  cases hspoil : spoil site session.browser (Session.entry command).1 with
  | none => cases (session.carryOut site command).1 <;> simp [Attempt.ofResult]
  | some fault =>
    cases fault with
    | error text => simp
    | panic text =>
      obtain ⟨rule, hfind, hfault⟩ := Option.map_eq_some_iff.mp hspoil
      exact absurd hfault (contained rule (List.mem_of_find?_eq_some hfind) text)

/-- Of the built-in actions only the two waiting ones can have a handler that is not calm, and only
if the step has a locator and asks for a time beyond the limit. -/
theorem StepHandler.calm_builtin {step : ResolvedStep} {handler : StepHandler}
    (builtin : StepHandler.builtin? step.action = some handler)
    (within : ¬ ((step.action = .waitForExistence ∨ step.action = .waitForVisibility) ∧
      Waiting.WaitsBeyondLimit step)) (timeouts : Timeouts) : (handler step timeouts).Calm := by
  have hcommands : (StepHandler.browserAction step timeouts).Calm :=
    (StepHandler.calm_commands step).bind fun _ => calm_done _
  cases haction : step.action with
  | waitForExistence =>
    rw [haction] at builtin within
    cases builtin
    exact Waiting.calm_handler (fun hbeyond => within ⟨.inl rfl, hbeyond⟩) _ timeouts
  | waitForVisibility =>
    rw [haction] at builtin within
    cases builtin
    exact Waiting.calm_handler (fun hbeyond => within ⟨.inr rfl, hbeyond⟩) _ timeouts
  | outputValue =>
    rw [haction] at builtin
    cases builtin
    exact Capture.calm_handler step timeouts
  | _ =>
    rw [haction] at builtin
    cases builtin <;> exact hcommands

/-- **When built-in handlers give up.** In a session in which no command gives up, the handler of a
built-in action answers or fails unless a waiting step that has a locator asks for a time beyond the
limit. Whatever value stands for it, the time that a step asks for is taken or refused as invalid
unless it is beyond the limit. -/
theorem builtin_ends_iff {step : ResolvedStep} {handler : StepHandler}
    (builtin : StepHandler.builtin? step.action = some handler) (timeouts : Timeouts)
    {browser : Browser World Session} (steady : browser.Calm) (session : Session) (world : World) :
    (((∃ outcome, ((handler step timeouts).run browser session world).1 = .returned outcome) ∨
        ∃ error, ((handler step timeouts).run browser session world).1 = .failed error) ↔
      ¬ ((step.action = .waitForExistence ∨ step.action = .waitForVisibility) ∧
        Waiting.WaitsBeyondLimit step)) ∧
    (((∃ nanoseconds, Waiting.time step timeouts = .done nanoseconds) ∨
        ∃ reason, Waiting.time step timeouts = .fail (.invalidStep step.action.name reason)) ↔
      ¬ ∃ seconds, Waiting.BeyondLimit step seconds) := by
  refine ⟨⟨?_, fun within => ?_⟩, Waiting.time_ends_iff step timeouts⟩
  · rintro hends ⟨hwaits, hbeyond⟩
    have hpanic : ∃ message, handler step timeouts = .panic message := by
      rcases hwaits with haction | haction
      all_goals
        rw [haction] at builtin
        cases builtin
        exact Waiting.handler_of_beyond hbeyond _ timeouts
    obtain ⟨message, hpanic⟩ := hpanic
    rw [hpanic] at hends
    rcases hends with ⟨outcome, hend⟩ | ⟨error, hend⟩ <;> cases hend
  · exact (StepHandler.calm_builtin builtin within timeouts).ends steady session world

/-- A step that waits some seconds for a heading. -/
def waiting (seconds : Nat) : ResolvedStep where
  action := .waitForExistence
  locator := some ⟨"//h1", .xpath⟩
  parameters := [("timeoutInSeconds", Json.ofNat seconds)]
  outputName := none
  source := none

/-- A step that waits for a second at an empty site is within the limit. -/
theorem builtin_ends_iff_waiting :
    StepHandler.builtin? (waiting 1).action = some (Waiting.handler .presence) ∧
      (Scripted.browser .empty).Calm ∧
      ((∃ outcome, ((Waiting.handler .presence (waiting 1) .standard).run (Scripted.browser .empty)
          (.fresh .firefox) .empty).1 = .returned outcome) ∨
        ∃ error, ((Waiting.handler .presence (waiting 1) .standard).run (Scripted.browser .empty)
          (.fresh .firefox) .empty).1 = .failed error) := by
  have hbuiltin : StepHandler.builtin? (waiting 1).action = some (Waiting.handler .presence) := rfl
  have hcalm : (Scripted.browser .empty).Calm :=
    Scripted.calm_of_faults (by simp [Scripted.Site.empty])
  refine ⟨hbuiltin, hcalm, ?_⟩
  refine (builtin_ends_iff hbuiltin .standard hcalm (.fresh .firefox) .empty).1.mpr ?_
  rintro ⟨-, -, seconds, hasked, -, hgreat⟩
  have hseconds : seconds = ⟨false, 2 ^ 52, -52⟩ := by
    have hone : ((waiting 1).param? "timeoutInSeconds").bind Waiting.secondsOf? =
        some ⟨false, 2 ^ 52, -52⟩ := by decide +kernel
    exact Option.some.inj (hasked.symm.trans hone)
  rw [hseconds] at hgreat
  exact absurd hgreat (by decide +kernel)

/-- A step that waits for the greatest number of seconds that an integer of 64 bits can write gives
up, although no command of the session does. -/
theorem gives_up_waiting :
    StepHandler.builtin? (waiting 18446744073709551615).action = some (Waiting.handler .presence) ∧
      (Scripted.browser .empty).Calm ∧
      ∃ message, ((Waiting.handler .presence (waiting 18446744073709551615) .standard).run
        (Scripted.browser .empty) (.fresh .firefox) .empty).1 = .panicked message := by
  refine ⟨rfl, Scripted.calm_of_faults (by simp [Scripted.Site.empty]), ?_⟩
  have hbeyond : Waiting.BeyondLimit (waiting 18446744073709551615) ⟨false, 2 ^ 52, 12⟩ := by
    constructor
    · decide +kernel
    · rfl
    · decide +kernel
  have hlocator : (waiting 18446744073709551615).locator ≠ none := Option.some_ne_none _
  obtain ⟨message, hpanic⟩ := Waiting.handler_of_beyond ⟨hlocator, _, hbeyond⟩ .presence .standard
  refine ⟨message, ?_⟩
  rw [hpanic]
  rfl

end PageCheck
