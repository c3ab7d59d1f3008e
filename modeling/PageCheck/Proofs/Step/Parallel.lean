import PageCheck.Proofs.Step.Endings

/-!
# Scripts side by side

Two scripts that issue the same commands take a session through the same states, so they come to
comparable ends. A script that does no more than ask, and hands on the errors of what it asks for,
ends with those errors or with one that it raises itself, and disturbs a session no more than its
commands do.
-/

namespace PageCheck

variable {World Session α β γ δ : Type}

/-- Two results have the same value, or errors of the same code. -/
def Agree : Result α → Result α → Prop
  | .ok first, .ok second => first = second
  | .error first, .error second => first.code = second.code
  | _, _ => False

/-- A result agrees with itself. -/
theorem Agree.refl (result : Result α) : Agree result result := by
  cases result <;> rfl

/-- Results that agree do so after a change of their values. -/
theorem Agree.map {first second : Result α} (agree : Agree first second) (f : α → β) :
    Agree (first.map f) (second.map f) := by
  cases first <;> cases second <;> first | exact congrArg f agree | exact agree

namespace Script

/-- Two scripts issue the same commands, whatever comes of them, and end alike: with related values
or with errors of the same code. -/
inductive Alike (R : α → β → Prop) : Script α → Script β → Prop
  | done {first : α} {second : β} (related : R first second) : Alike R (.done first) (.done second)
  | fail {first second : Error} (same : first.code = second.code) :
      Alike R (.fail first) (.fail second)
  | issue {command : Command} {next : Result command.Reply → Script α}
      {next' : Result command.Reply → Script β}
      (further : ∀ result, Alike R (next result) (next' result)) :
      Alike R (.issue command next) (.issue command next')

/-- Computations that agree are alike. -/
theorem Alike.ofResult {first second : Result α} (agree : Agree first second) :
    Alike Eq (Script.ofResult first) (Script.ofResult second) := by
  cases first with
  | ok value =>
    cases second with
    | ok other => exact .done agree
    | error error => cases agree
  | error error =>
    cases second with
    | ok other => cases agree
    | error other => exact .fail agree

/-- A command is alike to itself. -/
theorem Alike.ask (command : Command) : Alike Eq (Script.ask command) (Script.ask command) :=
  .issue fun result => .ofResult (.refl result)

/-- Alike scripts one after another. -/
theorem Alike.bind {R : α → β → Prop} {Q : γ → δ → Prop} {first : Script α} {second : Script β}
    (alike : Alike R first second) {next : α → Script γ} {next' : β → Script δ}
    (further : ∀ value other, R value other → Alike Q (next value) (next' other)) :
    Alike Q (first >>= next) (second >>= next') := by
  change Alike Q (first.bind next) (second.bind next')
  induction alike with
  | done related => exact further _ _ related
  | fail same => exact .fail same
  | issue _ ih => exact .issue ih

/-- Scripts that end with the same value can go on from that value. -/
theorem Alike.andThen {Q : γ → δ → Prop} {first second : Script α} (alike : Alike Eq first second)
    {next : α → Script γ} {next' : α → Script δ}
    (further : ∀ value, Alike Q (next value) (next' value)) :
    Alike Q (first >>= next) (second >>= next') := by
  refine alike.bind ?_
  rintro value _ rfl
  exact further value

/-- From the same session, in which no command gives up, alike scripts both answer or both fail. -/
theorem Alike.ends {R : α → β → Prop} {first : Script α} {second : Script β}
    (alike : Alike R first second) {browser : Browser World Session} (steady : browser.Calm)
    (session : Session) (world : World) :
    (∃ value other, R value other ∧ (first.run browser session world).1 = .returned value ∧
      (second.run browser session world).1 = .returned other) ∨
    ∃ error other : Error, error.code = other.code ∧
      (first.run browser session world).1 = .failed error ∧
      (second.run browser session world).1 = .failed other := by
  induction alike generalizing session world with
  | done related => exact .inl ⟨_, _, related, rfl, rfl⟩
  | fail same => exact .inr ⟨_, _, same, rfl, rfl⟩
  | @issue command next next' further ih =>
    have hcalm := steady command session world
    simp only [run]
    rcases hperform : browser.perform command session world with ⟨attempt, session', world'⟩
    rw [hperform] at hcalm
    cases attempt with
    | returned reply => exact ih (.ok reply) session' world'
    | failed error => exact ih (.error error) session' world'
    | panicked message => exact absurd rfl (hcalm message)

/-! ### Asking -/

/-- A script issues only commands of a kind and fails when one of them fails, with the same error;
otherwise it fails only with errors of its own. It never gives up and lets no time pass. -/
inductive Asks (issued : Command → Prop) (own : Error → Prop) : Script α → Prop
  | done {value : α} : Asks issued own (.done value)
  | fail {error : Error} (owned : own error) : Asks issued own (.fail error)
  | issue {command : Command} {next : Result command.Reply → Script α} (allowed : issued command)
      (answered : ∀ reply, Asks issued own (next (.ok reply)))
      (refused : ∀ error, next (.error error) = .fail error) :
      Asks issued own (.issue command next)

variable {issued : Command → Prop} {own : Error → Prop}

/-- A computation issues no commands and fails with its own errors. -/
theorem Asks.ofResult {result : Result α} (owned : ∀ error, result = .error error → own error) :
    Asks issued own (Script.ofResult result) := by
  cases result with
  | ok value => exact .done
  | error error => exact .fail (owned error rfl)

/-- Asking for one command. -/
theorem Asks.ask {command : Command} (allowed : issued command) :
    Asks issued own (Script.ask command) :=
  .issue allowed (fun _ => .done) fun _ => rfl

/-- Asking scripts one after another. -/
theorem Asks.bind {script : Script α} (asks : Asks issued own script) {next : α → Script β}
    (further : ∀ value, Asks issued own (next value)) : Asks issued own (script >>= next) := by
  change Asks issued own (script.bind next)
  induction asks with
  | done => exact further _
  | fail owned => exact .fail owned
  | issue allowed _ refused ih =>
    refine .issue allowed ih fun error => ?_
    rw [refused, Script.bind]

/-- A script that is run in a session issues a command, and it does so in this session and world. -/
inductive Issues (browser : Browser World Session) (command : Command) (moment : Session × World) :
    Script α → Session × World → Prop
  /-- It does so first. -/
  | here {next : Result command.Reply → Script α} :
      Issues browser command moment (.issue command next) moment
  /-- It does so after another command that answers. -/
  | answered {other : Command} {next : Result other.Reply → Script α} {reply : other.Reply}
      {before between : Session × World}
      (performs : browser.perform other before.1 before.2 = (.returned reply, between))
      (later : Issues browser command moment (next (.ok reply)) between) :
      Issues browser command moment (.issue other next) before
  /-- It does so after another command that fails. -/
  | refused {other : Command} {next : Result other.Reply → Script α} {error : Error}
      {before between : Session × World}
      (performs : browser.perform other before.1 before.2 = (.failed error, between))
      (later : Issues browser command moment (next (.error error)) between) :
      Issues browser command moment (.issue other next) before
  /-- It does so after a pause. -/
  | paused {milliseconds : Nat} {next : Unit → Script α} {before : Session × World}
      (later : Issues browser command moment (next ())
        (before.1, browser.pause milliseconds before.2)) :
      Issues browser command moment (.sleep milliseconds next) before

/-- What an asking script fails with is an error of its own or what a command failed with that it
issued. -/
theorem Asks.source {script : Script α} (asks : Asks issued own script)
    {browser : Browser World Session} (start : Session × World) {error : Error}
    (failed : (script.run browser start.1 start.2).1 = .failed error) :
    own error ∨ ∃ command moment, script.Issues browser command moment start ∧
      (browser.perform command moment.1 moment.2).1 = .failed error := by
  induction asks generalizing start with
  | done => cases failed
  | fail owned =>
    cases failed
    exact .inl owned
  | @issue command next _ _ refused ih =>
    rw [run] at failed
    rcases hperform : browser.perform command start.1 start.2 with ⟨attempt, between⟩
    rw [hperform] at failed
    cases attempt with
    | returned reply =>
      refine (ih reply between failed).imp_right ?_
      rintro ⟨other, moment, hissues, hother⟩
      exact ⟨other, moment, .answered hperform hissues, hother⟩
    | failed found =>
      simp only [refused, run] at failed
      cases failed
      exact .inr ⟨command, start, .here, by rw [hperform]⟩
    | panicked message => cases failed

/-- Commands that leave a session and its world as they are let an asking script do so. -/
theorem Asks.leaves {script : Script α} (asks : Asks issued own script)
    {browser : Browser World Session} {session : Session} {world : World}
    (still : ∀ command, issued command →
      (browser.perform command session world).2 = (session, world)) :
    (script.run browser session world).2 = (session, world) := by
  induction asks with
  | done => rfl
  | fail _ => rfl
  | @issue command next allowed _ refused ih =>
    have hstill := still command allowed
    rw [run]
    rcases hperform : browser.perform command session world with ⟨attempt, session', world'⟩
    rw [hperform] at hstill
    cases hstill
    cases attempt with
    | returned reply => exact ih reply
    | failed error => simp only [refused, run]
    | panicked message => rfl

end Script

end PageCheck
