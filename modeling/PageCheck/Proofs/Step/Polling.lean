import Mathlib.Logic.Function.Iterate
import PageCheck.Browser.Scripted
import PageCheck.Handlers

/-!
# Polling

A waiting step looks, lets the interval pass and looks again, up to the look that is due right at
the end of its time. A look finds what is wished for or does not, as the session answers: an element
that the locator finds, or one of these that is displayed. What the step comes to is therefore
decided by the first look that finds it or does not get an answer, if there is one among the looks
that the time allows. All times are those of a clock that stands still while commands are carried
out.
-/

namespace PageCheck

variable {World Session α β : Type}

/-- A clock of a browser, in milliseconds, that only letting time pass moves on. -/
structure Browser.Clock (browser : Browser World Session) where
  /-- The time in a world. -/
  time : World → Nat
  /-- No command takes time. -/
  perform : ∀ command session world,
    time (browser.perform command session world).2.2 = time world
  /-- A pause takes as long as it is to take. -/
  pause : ∀ milliseconds world, time (browser.pause milliseconds world) = time world + milliseconds

/-- The clock in the journal of a scripted browser. -/
def Scripted.clock (site : Site) : (browser site).Clock where
  time := Journal.elapsed
  perform command session journal := by
    dsimp only [browser, Scripted.perform]
    split <;> rfl
  pause _ _ := rfl

/-- A script that is done goes on with its value. -/
theorem Script.done_bind (value : α) (next : α → Script β) : done value >>= next = next value := rfl

/-- Running one script after the other. -/
theorem Script.run_bind (browser : Browser World Session) (script : Script α) (next : α → Script β)
    (session : Session) (world : World) :
    (script >>= next).run browser session world =
      match script.run browser session world with
      | (.returned value, session, world) => (next value).run browser session world
      | (.failed error, session, world) => (.failed error, session, world)
      | (.panicked message, session, world) => (.panicked message, session, world) := by
  change (script.bind next).run browser session world = _
  induction script generalizing session world with
  | done value => rfl
  | fail error => rfl
  | panic message => rfl
  | issue command after ih =>
    simp only [Script.bind, Script.run]
    rcases browser.perform command session world with ⟨attempt, session', world'⟩
    cases attempt with
    | returned reply => exact ih (.ok reply) session' world'
    | failed error => exact ih (.error error) session' world'
    | panicked message => rfl
  | sleep milliseconds after ih => exact ih () session (browser.pause milliseconds world)

/-- Running a single command. -/
theorem Script.run_ask (browser : Browser World Session) (command : Command) (session : Session)
    (world : World) :
    (Script.ask command).run browser session world = browser.perform command session world := by
  rw [Script.ask, Script.run]
  rcases browser.perform command session world with ⟨_ | _ | _, session', world'⟩ <;> rfl

namespace Waiting

/-- The action of which a wish is the purpose. -/
def Wish.action : Wish → ActionType
  | presence => .waitForExistence
  | visibility => .waitForVisibility

/-! ### Looks and what they find -/

section Looks

variable (browser : Browser World Session)

/-- Elements are asked one after the other whether they are displayed, and none of them is. -/
inductive Hidden : List Element → Session × World → Session × World → Prop
  | nil (moment : Session × World) : Hidden [] moment moment
  | cons {element : Element} {rest : List Element} {before between after : Session × World}
      (hidden : browser.perform (.displayed element) before.1 before.2 = (.returned false, between))
      (others : Hidden rest between after) : Hidden (element :: rest) before after

/-- What one look finds at a moment, and what it leaves. -/
inductive Sees (locator : Locator) :
    Wish → Session × World → Attempt Bool → Session × World → Prop
  /-- Looking for elements fails. -/
  | failing {wish : Wish} {moment after : Session × World} {error : Error}
      (finds : browser.perform (.find locator) moment.1 moment.2 = (.failed error, after)) :
      Sees locator wish moment (.failed error) after
  /-- Looking for elements gives up. -/
  | givingUp {wish : Wish} {moment after : Session × World} {message : String}
      (finds : browser.perform (.find locator) moment.1 moment.2 = (.panicked message, after)) :
      Sees locator wish moment (.panicked message) after
  /-- There is an element. -/
  | present {moment after : Session × World} {element : Element} {rest : List Element}
      (finds : browser.perform (.find locator) moment.1 moment.2 =
        (.returned (element :: rest), after)) :
      Sees locator .presence moment (.returned true) after
  /-- There is none. -/
  | absent {moment after : Session × World}
      (finds : browser.perform (.find locator) moment.1 moment.2 = (.returned [], after)) :
      Sees locator .presence moment (.returned false) after
  /-- One of the elements is displayed, and those before it are not. -/
  | displayed {moment found asked after : Session × World} {hidden rest : List Element}
      {element : Element}
      (finds : browser.perform (.find locator) moment.1 moment.2 =
        (.returned (hidden ++ element :: rest), found))
      (others : Hidden browser hidden found asked)
      (shown : browser.perform (.displayed element) asked.1 asked.2 = (.returned true, after)) :
      Sees locator .visibility moment (.returned true) after
  /-- None of the elements is displayed. -/
  | hidden {moment found after : Session × World} {elements : List Element}
      (finds : browser.perform (.find locator) moment.1 moment.2 = (.returned elements, found))
      (all : Hidden browser elements found after) :
      Sees locator .visibility moment (.returned false) after
  /-- Asking one of the elements fails, and those before it are not displayed. -/
  | failingToAsk {moment found asked after : Session × World} {hidden rest : List Element}
      {element : Element} {error : Error}
      (finds : browser.perform (.find locator) moment.1 moment.2 =
        (.returned (hidden ++ element :: rest), found))
      (others : Hidden browser hidden found asked)
      (asks : browser.perform (.displayed element) asked.1 asked.2 = (.failed error, after)) :
      Sees locator .visibility moment (.failed error) after
  /-- Asking one of the elements gives up, and those before it are not displayed. -/
  | givingUpToAsk {moment found asked after : Session × World} {hidden rest : List Element}
      {element : Element} {message : String}
      (finds : browser.perform (.find locator) moment.1 moment.2 =
        (.returned (hidden ++ element :: rest), found))
      (others : Hidden browser hidden found asked)
      (asks : browser.perform (.displayed element) asked.1 asked.2 = (.panicked message, after)) :
      Sees locator .visibility moment (.panicked message) after

/-- The moment of a look, counted from 0: no look before it finds what is wished for, and the
interval passes after each of them. -/
inductive Reached (wish : Wish) (locator : Locator) (interval : Nat) (start : Session × World) :
    Nat → Session × World → Prop
  | start : Reached wish locator interval start 0 start
  | next {count : Nat} {moment after : Session × World}
      (reached : Reached wish locator interval start count moment)
      (unmet : Sees browser locator wish moment (.returned false) after) :
      Reached wish locator interval start (count + 1) (after.1, browser.pause interval after.2)

/-- What waiting comes to that starts at a moment and has a number of milliseconds. Looks are
counted from 0, so that the last look that the time allows is the one whose number is the quotient
of the time by the interval. -/
inductive Polled (wish : Wish) (locator : Locator) (interval time : Nat) (message : String)
    (start : Session × World) : Attempt Outcome → Session × World → Prop
  /-- A look that the time allows finds what is wished for, and no look before it does. -/
  | completes {count : Nat} {moment after : Session × World} (allowed : count ≤ time / interval)
      (reached : Reached browser wish locator interval start count moment)
      (met : Sees browser locator wish moment (.returned true) after) :
      Polled wish locator interval time message start (.returned .done) after
  /-- Such a look fails. -/
  | fails {count : Nat} {moment after : Session × World} {error : Error}
      (allowed : count ≤ time / interval)
      (reached : Reached browser wish locator interval start count moment)
      (failed : Sees browser locator wish moment (.failed error) after) :
      Polled wish locator interval time message start (.failed error) after
  /-- Such a look gives up. -/
  | givesUp {count : Nat} {moment after : Session × World} {text : String}
      (allowed : count ≤ time / interval)
      (reached : Reached browser wish locator interval start count moment)
      (gaveUp : Sees browser locator wish moment (.panicked text) after) :
      Polled wish locator interval time message start (.panicked text) after
  /-- None of the looks that the time allows finds it. The rest of the time passes after the last
  one. -/
  | expires {moment after : Session × World}
      (reached : Reached browser wish locator interval start (time / interval) moment)
      (unmet : Sees browser locator wish moment (.returned false) after) :
      Polled wish locator interval time message start (.returned (.failed message))
        (after.1, browser.pause (time % interval) after.2)

/-! ### One look -/

variable {browser}

theorem run_anyDisplayed_append {hidden : List Element} {before after : Session × World}
    (all : Hidden browser hidden before after) (rest : List Element) :
    (anyDisplayed (hidden ++ rest)).run browser before.1 before.2 =
      (anyDisplayed rest).run browser after.1 after.2 := by
  induction all with
  | nil moment => rfl
  | cons hfirst _ ih =>
    rw [List.cons_append, anyDisplayed, Script.run_bind, Script.run_ask, hfirst]
    exact ih

theorem run_anyDisplayed_hidden {elements : List Element} {before after : Session × World}
    (all : Hidden browser elements before after) :
    (anyDisplayed elements).run browser before.1 before.2 = (.returned false, after) := by
  have hrun := run_anyDisplayed_append all []
  rwa [List.append_nil] at hrun

theorem run_anyDisplayed_decided {hidden rest : List Element} {element : Element}
    {before asked after : Session × World} {attempt : Attempt Bool}
    (others : Hidden browser hidden before asked)
    (asks : browser.perform (.displayed element) asked.1 asked.2 = (attempt, after))
    (decides : attempt ≠ .returned false) :
    (anyDisplayed (hidden ++ element :: rest)).run browser before.1 before.2 =
      (attempt, after) := by
  rw [run_anyDisplayed_append others, anyDisplayed, Script.run_bind, Script.run_ask, asks]
  rcases attempt with (_ | _) | error | message
  · exact absurd rfl decides
  all_goals rfl

/-- Elements that are asked in turn are all hidden, or there is a first one that is not. -/
theorem hidden_or_first (browser : Browser World Session) (elements : List Element) (moment : Session × World) :
    (∃ after, Hidden browser elements moment after) ∨
      ∃ hidden element rest asked attempt after, elements = hidden ++ element :: rest ∧
        Hidden browser hidden moment asked ∧
        browser.perform (.displayed element) asked.1 asked.2 = (attempt, after) ∧
        attempt ≠ .returned false := by
  induction elements generalizing moment with
  | nil => exact .inl ⟨moment, .nil moment⟩
  | cons element rest ih =>
    rcases hasks : browser.perform (.displayed element) moment.1 moment.2 with ⟨attempt, between⟩
    by_cases hhidden : attempt = .returned false
    · subst hhidden
      rcases ih between with ⟨after, hall⟩ | ⟨hidden, other, later, asked, hfirst⟩
      · exact .inl ⟨after, .cons hasks hall⟩
      · obtain ⟨attempt, after, hsplit, hothers, hother⟩ := hfirst
        exact .inr ⟨element :: hidden, other, later, asked, attempt, after, congrArg _ hsplit,
          .cons hasks hothers, hother⟩
    · exact .inr ⟨[], element, rest, moment, attempt, between, rfl, .nil moment, hasks, hhidden⟩

variable {wish : Wish} {locator : Locator} {moment : Session × World}

theorem run_look_of_found (wish : Wish) {elements : List Element} {found : Session × World}
    (finds : browser.perform (.find locator) moment.1 moment.2 = (.returned elements, found)) :
    (look wish locator).run browser moment.1 moment.2 =
      match wish with
      | .presence => (.returned (!elements.isEmpty), found)
      | .visibility => (anyDisplayed elements).run browser found.1 found.2 := by
  rw [look, Script.run_bind, Script.run_ask, finds]
  cases wish <;> rfl

theorem run_look_of_sees {attempt : Attempt Bool} {after : Session × World}
    (sees : Sees browser locator wish moment attempt after) :
    (look wish locator).run browser moment.1 moment.2 = (attempt, after) := by
  cases sees with
  | failing finds => rw [look, Script.run_bind, Script.run_ask, finds]
  | givingUp finds => rw [look, Script.run_bind, Script.run_ask, finds]
  | present finds => exact run_look_of_found _ finds
  | absent finds => exact run_look_of_found _ finds
  | displayed finds others shown =>
    exact (run_look_of_found _ finds).trans (run_anyDisplayed_decided others shown nofun)
  | hidden finds all => exact (run_look_of_found _ finds).trans (run_anyDisplayed_hidden all)
  | failingToAsk finds others asks =>
    exact (run_look_of_found _ finds).trans (run_anyDisplayed_decided others asks nofun)
  | givingUpToAsk finds others asks =>
    exact (run_look_of_found _ finds).trans (run_anyDisplayed_decided others asks nofun)

theorem exists_sees (browser : Browser World Session) (wish : Wish) (locator : Locator)
    (moment : Session × World) :
    ∃ attempt after, Sees browser locator wish moment attempt after := by
  rcases hfinds : browser.perform (.find locator) moment.1 moment.2 with
    ⟨elements | error | message, found⟩
  · cases wish with
    | presence =>
      cases elements with
      | nil => exact ⟨_, _, .absent hfinds⟩
      | cons element rest => exact ⟨_, _, .present hfinds⟩
    | visibility =>
      rcases hidden_or_first browser elements found with ⟨after, hall⟩ | hfirst
      · exact ⟨_, _, .hidden hfinds hall⟩
      · obtain ⟨hidden, element, rest, asked, attempt, after, rfl, hothers, hasks, hdecides⟩ :=
          hfirst
        rcases attempt with (_ | _) | error | message
        · exact absurd rfl hdecides
        · exact ⟨_, _, .displayed hfinds hothers hasks⟩
        · exact ⟨_, _, .failingToAsk hfinds hothers hasks⟩
        · exact ⟨_, _, .givingUpToAsk hfinds hothers hasks⟩
  · exact ⟨_, _, .failing hfinds⟩
  · exact ⟨_, _, .givingUp hfinds⟩

/-- **What a look is.** Looking comes to what the session answers. -/
theorem run_look_iff {attempt : Attempt Bool} {after : Session × World} :
    (look wish locator).run browser moment.1 moment.2 = (attempt, after) ↔
      Sees browser locator wish moment attempt after := by
  refine ⟨fun hrun => ?_, run_look_of_sees⟩
  obtain ⟨_, _, hsees⟩ := exists_sees browser wish locator moment
  cases (run_look_of_sees hsees).symm.trans hrun
  exact hsees

theorem Sees.unique {attempt attempt' : Attempt Bool} {after after' : Session × World}
    (first : Sees browser locator wish moment attempt after)
    (second : Sees browser locator wish moment attempt' after') :
    attempt = attempt' ∧ after = after' :=
  Prod.mk.inj ((run_look_of_sees first).symm.trans (run_look_of_sees second))

theorem time_of_perform (clock : browser.Clock) {command : Command} {before after : Session × World}
    {attempt : Attempt command.Reply}
    (performs : browser.perform command before.1 before.2 = (attempt, after)) :
    clock.time after.2 = clock.time before.2 := by
  have htime := clock.perform command before.1 before.2
  rwa [performs] at htime

theorem time_hidden (clock : browser.Clock) {elements : List Element}
    {before after : Session × World} (all : Hidden browser elements before after) :
    clock.time after.2 = clock.time before.2 := by
  induction all with
  | nil moment => rfl
  | cons hfirst _ ih => exact ih.trans (time_of_perform clock hfirst)

/-- A look takes no time. -/
theorem time_sees (clock : browser.Clock) {attempt : Attempt Bool} {after : Session × World}
    (sees : Sees browser locator wish moment attempt after) :
    clock.time after.2 = clock.time moment.2 := by
  cases sees with
  | failing finds | givingUp finds | present finds | absent finds =>
    exact time_of_perform clock finds
  | hidden finds all => exact (time_hidden clock all).trans (time_of_perform clock finds)
  | displayed finds others asks | failingToAsk finds others asks | givingUpToAsk finds others asks =>
    exact (time_of_perform clock asks).trans
      ((time_hidden clock others).trans (time_of_perform clock finds))

end Looks

/-! ### Look after look -/

section Rounds

variable {browser : Browser World Session} {wish : Wish} {locator : Locator} {interval : Nat}
  {start moment : Session × World}

theorem Reached.unique {count : Nat} {moment' : Session × World}
    (first : Reached browser wish locator interval start count moment)
    (second : Reached browser wish locator interval start count moment') : moment = moment' := by
  induction first generalizing moment' with
  | start =>
    cases second
    rfl
  | next _ unmet ih =>
    cases second with
    | next reached unmet' =>
      obtain rfl := ih reached
      obtain ⟨-, rfl⟩ := unmet.unique unmet'
      rfl

/-- Looks happen at the multiples of the interval. -/
theorem time_reached (clock : browser.Clock) {count : Nat}
    (reached : Reached browser wish locator interval start count moment) :
    clock.time moment.2 = clock.time start.2 + count * interval := by
  induction reached with
  | start => simp
  | next _ unmet ih => rw [clock.pause, time_sees clock unmet, ih, Nat.succ_mul, Nat.add_assoc]

/-- A look that finds what is wished for, or does not get an answer, ends the polling. -/
theorem run_poll_of_decided {attempt : Attempt Bool} {after : Session × World}
    (sees : Sees browser locator wish moment attempt after) (decided : attempt ≠ .returned false)
    (left : Nat) :
    (poll wish locator interval left).run browser moment.1 moment.2 = (attempt, after) := by
  rw [poll, Script.run_bind, run_look_of_sees sees]
  rcases attempt with (_ | _) | error | message
  · exact absurd rfl decided
  all_goals rfl

/-- After a look that does not find it, polling goes on one interval later if another look is due
in time. -/
theorem run_poll_of_le {after : Session × World}
    (unmet : Sees browser locator wish moment (.returned false) after) (positive : 0 < interval)
    {left : Nat} (again : interval ≤ left) :
    (poll wish locator interval left).run browser moment.1 moment.2 =
      (poll wish locator interval (left - interval)).run browser after.1
        (browser.pause interval after.2) := by
  rw [poll, Script.run_bind, run_look_of_sees unmet]
  simp only [Bool.false_eq_true, if_false, dif_pos (And.intro positive again), Script.run]

/-- After a look that does not find it, the rest of the time passes if no other look is due in
it. -/
theorem run_poll_of_lt {after : Session × World}
    (unmet : Sees browser locator wish moment (.returned false) after) {left : Nat}
    (last : left < interval) :
    (poll wish locator interval left).run browser moment.1 moment.2 =
      (.returned false, after.1, browser.pause left after.2) := by
  have hnot : ¬ (0 < interval ∧ interval ≤ left) := by omega
  rw [poll, Script.run_bind, run_look_of_sees unmet]
  simp only [Bool.false_eq_true, if_false, dif_neg hnot, Script.run]

/-- Polling, as it goes on at a look. -/
theorem run_poll_of_reached (positive : 0 < interval) {count : Nat}
    (reached : Reached browser wish locator interval start count moment) {left : Nat}
    (within : count * interval ≤ left) :
    (poll wish locator interval left).run browser start.1 start.2 =
      (poll wish locator interval (left - count * interval)).run browser moment.1 moment.2 := by
  induction reached with
  | start => simp
  | next _ unmet ih =>
    rw [Nat.succ_mul] at within ⊢
    rw [ih (by omega), run_poll_of_le unmet positive (by omega), Nat.sub_sub]

/-- Either every look up to some number is made, or a look before it decides. -/
theorem reached_or_decided (browser : Browser World Session) (wish : Wish) (locator : Locator)
    (interval : Nat) (start : Session × World) (last : Nat) :
    (∃ moment, Reached browser wish locator interval start last moment) ∨
      ∃ count < last, ∃ moment attempt after,
        Reached browser wish locator interval start count moment ∧
        Sees browser locator wish moment attempt after ∧ attempt ≠ .returned false := by
  induction last with
  | zero => exact .inl ⟨start, .start⟩
  | succ last ih =>
    rcases ih with ⟨moment, hreached⟩ | ⟨count, hless, hdecided⟩
    · obtain ⟨attempt, after, hsees⟩ := exists_sees browser wish locator moment
      by_cases hunmet : attempt = .returned false
      · subst hunmet
        exact .inl ⟨_, .next hreached hsees⟩
      · exact .inr ⟨last, Nat.lt_succ_self last, moment, attempt, after, hreached, hsees, hunmet⟩
    · exact .inr ⟨count, Nat.lt_succ_of_lt hless, hdecided⟩

end Rounds

/-! ### The looks that the time allows -/

/-- What a script answers is made into an outcome, and nothing else is done. -/
theorem run_check (browser : Browser World Session) (script : Script Bool) (message : String)
    (session : Session) (world : World) :
    (script >>= fun holds => pure (Outcome.check holds message)).run browser session world =
      ((script.run browser session world).1.map (Outcome.check · message),
        (script.run browser session world).2) := by
  rw [Script.run_bind]
  rcases script.run browser session world with ⟨_ | _ | _, session', world'⟩ <;> rfl

section Assembly

variable {browser : Browser World Session} {wish : Wish} {locator : Locator} {interval time : Nat}
  {message : String} {start : Session × World}

/-- Polling ends as waiting does. -/
theorem run_poll_of_polled (positive : 0 < interval) {attempt : Attempt Outcome}
    {after : Session × World}
    (polled : Polled browser wish locator interval time message start attempt after) :
    (((poll wish locator interval time).run browser start.1 start.2).1.map
        (Outcome.check · message),
      ((poll wish locator interval time).run browser start.1 start.2).2) = (attempt, after) := by
  have hwithin : ∀ {count}, count ≤ time / interval → count * interval ≤ time :=
    (Nat.le_div_iff_mul_le positive).mp
  cases polled with
  | completes allowed reached met =>
    rw [run_poll_of_reached positive reached (hwithin allowed), run_poll_of_decided met nofun]
    rfl
  | fails allowed reached failed =>
    rw [run_poll_of_reached positive reached (hwithin allowed), run_poll_of_decided failed nofun]
    rfl
  | givesUp allowed reached gaveUp =>
    rw [run_poll_of_reached positive reached (hwithin allowed), run_poll_of_decided gaveUp nofun]
    rfl
  | expires reached unmet =>
    have hrest : time - time / interval * interval = time % interval := by
      rw [Nat.mul_comm, Nat.mod_eq_sub_mul_div]
    rw [run_poll_of_reached positive reached (Nat.div_mul_le_self time interval), hrest,
      run_poll_of_lt unmet (Nat.mod_lt time positive)]
    rfl

variable (browser wish locator interval time message start)

theorem exists_polled :
    ∃ attempt after, Polled browser wish locator interval time message start attempt after := by
  rcases reached_or_decided browser wish locator interval start (time / interval + 1)
    with ⟨_, hreached⟩ | ⟨count, hless, moment, attempt, after, hreached, hsees, hdecided⟩
  · cases hreached with
    | next reached unmet => exact ⟨_, _, .expires reached unmet⟩
  · have hallowed := Nat.le_of_lt_succ hless
    rcases attempt with (_ | _) | error | text
    · exact absurd rfl hdecided
    · exact ⟨_, _, .completes hallowed hreached hsees⟩
    · exact ⟨_, _, .fails hallowed hreached hsees⟩
    · exact ⟨_, _, .givesUp hallowed hreached hsees⟩

end Assembly

/-- What waiting from a moment on for a number of milliseconds comes to and when it looks. -/
structure PollsWithin (browser : Browser World Session) (clock : browser.Clock) (wish : Wish)
    (locator : Locator) (interval time : Nat) (message : String) (start : Session × World)
    (result : Attempt Outcome × Session × World) : Prop where
  /-- It comes to what the looks make of it, and to nothing else. -/
  decided : ∀ attempt after, result = (attempt, after) ↔
    Polled browser wish locator interval time message start attempt after
  /-- Looks happen at the multiples of the interval. -/
  punctual : ∀ count moment, Reached browser wish locator interval start count moment →
    clock.time moment.2 = clock.time start.2 + count * interval
  /-- Those that the time allows are the ones that are not beyond its end. -/
  allowed : ∀ count, count ≤ time / interval ↔ count * interval ≤ time
  /-- A step whose time is up ends with it. -/
  expired : result.1 = .returned (.failed message) →
    clock.time result.2.2 = clock.time start.2 + time

/-- The message of a waiting step whose time is up. -/
def timedOut (nanoseconds : Nat) (locator : Locator) (wish : Wish) : String :=
  "Timed out after " ++ secondsText nanoseconds ++ "s waiting for " ++ locator.text ++ " to be " ++
    wish.text

/-- A waiting step polls for the time it asks for. -/
theorem run_handler {step : ResolvedStep} {locator : Locator} (located : step.locator = some locator)
    {timeouts : Timeouts} {nanoseconds : Nat} (timed : time step timeouts = .done nanoseconds)
    (wish : Wish) (browser : Browser World Session) (session : Session) (world : World) :
    (handler wish step timeouts).run browser session world =
      (((poll wish locator timeouts.pollInterval (milliseconds nanoseconds)).run browser session
          world).1.map (Outcome.check · (timedOut nanoseconds locator wish)),
        ((poll wish locator timeouts.pollInterval (milliseconds nanoseconds)).run browser session
          world).2) := by
  have hfound : step.requireLocator = .ok locator := by
    rw [ResolvedStep.requireLocator, located]
  have hhandler : handler wish step timeouts =
      poll wish locator timeouts.pollInterval (milliseconds nanoseconds) >>= fun holds =>
        pure (Outcome.check holds (timedOut nanoseconds locator wish)) := by
    rw [handler, hfound, timed, Script.ofResult, Script.done_bind, Script.done_bind]
    rfl
  rw [hhandler, run_check]


/-- A waiting step looks exactly as often as its time allows. -/
theorem pollsWithin_handler (wish : Wish) {step : ResolvedStep} {locator : Locator}
    (located : step.locator = some locator) {timeouts : Timeouts} {nanoseconds : Nat}
    (timed : time step timeouts = .done nanoseconds) (browser : Browser World Session)
    (clock : browser.Clock) (session : Session) (world : World) :
    PollsWithin browser clock wish locator timeouts.pollInterval (milliseconds nanoseconds)
      (timedOut nanoseconds locator wish) (session, world)
      ((handler wish step timeouts).run browser session world) := by
  have hpositive : 0 < timeouts.pollInterval := Nat.le_max_left 1 _
  have hrun := run_handler located timed wish browser session world
  have hpolled : ∀ {attempt after}, Polled browser wish locator timeouts.pollInterval
      (milliseconds nanoseconds) (timedOut nanoseconds locator wish) (session, world) attempt
        after → (handler wish step timeouts).run browser session world = (attempt, after) :=
    fun polled => hrun.trans (run_poll_of_polled hpositive polled)
  obtain ⟨attempt, after, hactual⟩ := exists_polled browser wish locator timeouts.pollInterval
    (milliseconds nanoseconds) (timedOut nanoseconds locator wish) (session, world)
  rw [hpolled hactual]
  refine ⟨fun attempt' after' => ⟨?_, fun polled => ?_⟩, ?_, ?_, ?_⟩
  · intro heq
    cases heq
    exact hactual
  · exact (hpolled hactual).symm.trans (hpolled polled)
  · intro count moment hreached
    exact time_reached clock hreached
  · intro count
    exact Nat.le_div_iff_mul_le hpositive
  · intro hexpired
    dsimp only at hexpired ⊢
    cases hactual with
    | completes allowed reached met => cases hexpired
    | fails allowed reached failed => cases hexpired
    | givesUp allowed reached gaveUp => cases hexpired
    | expires reached unmet =>
      have htime := Nat.div_add_mod' (milliseconds nanoseconds) timeouts.pollInterval
      rw [clock.pause, time_sees clock unmet, time_reached clock reached]
      dsimp only
      omega

/-! ### Scripted pages -/

/-- No position is one of an element with a property just if no element has it. -/
theorem positionsFrom_eq_nil_iff (property : Scripted.PageElement → Bool) (position : Nat)
    (elements : List Scripted.PageElement) :
    Scripted.Session.positionsFrom property position elements = [] ↔
      ∀ element ∈ elements, property element = false := by
  induction elements generalizing position with
  | nil => simp [Scripted.Session.positionsFrom]
  | cons element rest ih =>
    rw [Scripted.Session.positionsFrom]
    cases hproperty : property element <;> simp [hproperty, ih]

/-- If one element alone has a selector, a look-up finds something once that element has appeared. -/
theorem find_isEmpty_of_filter {elements : List Scripted.PageElement} {selector : String}
    {element : Scripted.PageElement}
    (only : elements.filter (·.selector == selector) = [element]) (lookups : Nat) :
    (Scripted.Session.find selector lookups elements).isEmpty =
      decide (lookups ≤ element.appearsAfter) := by
  have hmember : ∀ other, (other ∈ elements ∧ other.selector = selector) ↔ other = element := by
    intro other
    have hmem : other ∈ elements.filter (·.selector == selector) ↔ other = element := by
      rw [only, List.mem_singleton]
    simpa using hmem
  rw [Bool.eq_iff_iff, Scripted.Session.find, List.isEmpty_iff, List.map_eq_nil_iff,
    positionsFrom_eq_nil_iff, decide_eq_true_iff]
  constructor
  · intro hnone
    obtain ⟨hin, hselector⟩ := (hmember element).mpr rfl
    simpa [hselector] using hnone element hin
  · intro hlate other hin
    by_cases hselector : other.selector = selector
    · rw [(hmember other).mp ⟨hin, hselector⟩]
      simp [hlate]
    · simp [hselector]

section Scripted

variable {site : Scripted.Site} {locator : Locator} {element : Scripted.PageElement}
  {start moment after : Scripted.Session × Scripted.Journal}

/-- A look at a page whose only element with the selector appears after some look-ups is one look-up
more, and it finds the element just if there were that many before. -/
theorem sees_scripted (faultless : site.faults = [])
    (only : (moment.1.page site).filter (·.selector == locator.selector) = [element])
    {attempt : Attempt Bool}
    (sees : Sees (Scripted.browser site) locator .presence moment attempt after) :
    attempt = .returned (decide (element.appearsAfter ≤ moment.1.lookups)) ∧
      after.1 = { moment.1 with lookups := moment.1.lookups + 1 } := by
  have hspoil : Scripted.spoil site moment.1.browser "find" = none := by
    simp [Scripted.spoil, faultless]
  have hfind : ∃ journal, (Scripted.browser site).perform (.find locator) moment.1 moment.2 =
      (.returned (Scripted.Session.find locator.selector (moment.1.lookups + 1)
        (moment.1.page site)), { moment.1 with lookups := moment.1.lookups + 1 }, journal) := by
    simp only [Scripted.browser, Scripted.perform, Scripted.Session.entry, hspoil]
    exact ⟨_, rfl⟩
  obtain ⟨journal, hfind⟩ := hfind
  have hlook := (run_look_of_found .presence hfind).symm.trans (run_look_of_sees sees)
  cases hlook
  rw [find_isEmpty_of_filter only, ← decide_not]
  refine ⟨?_, rfl⟩
  congr 2
  exact propext (by omega)

/-- When a look happens, every look before it has made one look-up and was too early. -/
theorem reached_scripted (faultless : site.faults = [])
    (only : (start.1.page site).filter (·.selector == locator.selector) = [element])
    {interval count : Nat}
    (reached : Reached (Scripted.browser site) .presence locator interval start count moment) :
    moment.1 = { start.1 with lookups := start.1.lookups + count } ∧
      (count = 0 ∨ start.1.lookups + count ≤ element.appearsAfter) := by
  induction reached with
  | start => exact ⟨rfl, .inl rfl⟩
  | @next count moment after _ unmet ih =>
    obtain ⟨hmoment, -⟩ := ih
    have honly : (moment.1.page site).filter (·.selector == locator.selector) = [element] := by
      rw [hmoment]
      exact only
    obtain ⟨hunmet, hafter⟩ := sees_scripted faultless honly unmet
    rw [hmoment] at hunmet hafter
    have hlate := of_decide_eq_false (Attempt.returned.inj hunmet).symm
    exact ⟨hafter, .inr (Nat.lt_of_not_le hlate)⟩

/-- What waiting for an element on a scripted page comes to. -/
theorem polled_scripted (faultless : site.faults = [])
    (only : (start.1.page site).filter (·.selector == locator.selector) = [element])
    {interval time : Nat} {message : String} {attempt : Attempt Outcome}
    (polled : Polled (Scripted.browser site) .presence locator interval time message start attempt
      after) :
    (attempt = .returned .done ↔
        element.appearsAfter < start.1.lookups + time / interval + 1) ∧
      (attempt = .returned .done → after.1.lookups =
        start.1.lookups + max 1 (element.appearsAfter + 1 - start.1.lookups)) := by
  have hsees : ∀ {count moment found} {after : Scripted.Session × Scripted.Journal},
      Reached (Scripted.browser site) .presence locator interval start count moment →
      Sees (Scripted.browser site) locator .presence moment found after →
      found = .returned (decide (element.appearsAfter ≤ start.1.lookups + count)) ∧
        after.1 = { start.1 with lookups := start.1.lookups + count + 1 } := by
    intro count moment found after hreached hsees
    obtain ⟨hmoment, -⟩ := reached_scripted faultless only hreached
    have honly : (moment.1.page site).filter (·.selector == locator.selector) = [element] := by
      rw [hmoment]
      exact only
    have hseen := sees_scripted faultless honly hsees
    rwa [hmoment] at hseen
  cases polled with
  | completes allowed reached met =>
    obtain ⟨hmet, hafter⟩ := hsees reached met
    obtain ⟨-, hearly⟩ := reached_scripted faultless only reached
    have hfound := of_decide_eq_true (Attempt.returned.inj hmet).symm
    rw [hafter]
    refine ⟨⟨fun _ => by omega, fun _ => rfl⟩, fun _ => ?_⟩
    dsimp only
    omega
  | fails allowed reached failed => cases (hsees reached failed).1
  | givesUp allowed reached gaveUp => cases (hsees reached gaveUp).1
  | expires reached unmet =>
    obtain ⟨hunmet, -⟩ := hsees reached unmet
    have hlate := of_decide_eq_false (Attempt.returned.inj hunmet).symm
    refine ⟨⟨nofun, fun hless => ?_⟩, nofun⟩
    omega

end Scripted

/-- A step that waits for a heading, for as long as is usual. -/
def waitingForHeading : ResolvedStep where
  action := .waitForExistence
  locator := some ⟨"//h1", .xpath⟩
  parameters := []
  outputName := none
  source := none

/-- A heading that appears after three look-ups. -/
def lateHeading : Scripted.PageElement := ⟨"//h1", "", true, [], [], 3⟩

/-- A site of which the late heading is all that one page has. -/
def lateSite : Scripted.Site where
  pages := [("http://late", [lateHeading])]
  redirects := []
  failingStarts := []
  faults := []

/-- A session with that page open that has not looked for anything. -/
def onLatePage : Scripted.Session := ⟨.firefox, ["http://late"], 0, 0, [], [], []⟩

/-- The usual times, but for a wait that has none. -/
def noTime : Timeouts := { Timeouts.standard with waitSeconds := 0 }

/-- A step that waits for a heading to be displayed. -/
def waitingForDisplay : ResolvedStep where
  action := .waitForVisibility
  locator := some ⟨"//h1", .xpath⟩
  parameters := []
  outputName := none
  source := none

/-- A site of which one page has the heading, once hidden and once more, displayed or not. -/
def headingSite (displayed : Bool) : Scripted.Site where
  pages := [("http://late", [⟨"//h1", "", false, [], [], 0⟩, ⟨"//h1", "", displayed, [], [], 0⟩])]
  redirects := []
  failingStarts := []
  faults := []

end Waiting

end PageCheck
