import PageCheck.Proofs.Browser.Morphism
import PageCheck.Proofs.Pass.Moves

/-!
# Recorded browsers

Around any browser there is one that does the same and keeps a record of every call, in order, with
the session that the call is about. A session is known by the number of the call that started it, so
no two sessions of a record have the same number. Reading a recorded browser as the plain one is a
morphism, and so what is recorded of a run is what the run does.
-/

namespace PageCheck

variable {World Session : Type}

/-- The three ways in which an operation ends. -/
inductive Ending
  | returned | failed | panicked
deriving Repr, DecidableEq

/-- The way in which an attempt ended. -/
def Attempt.ending {α : Type} : Attempt α → Ending
  | returned _ => .returned
  | failed _ => .failed
  | panicked _ => .panicked

/-- A call of a browser, with the number of the session that it is about. -/
inductive Call
  /-- Starting a session, and how that ended. -/
  | start (serial : Nat) (browser : BrowserTarget) (ending : Ending)
  /-- A command. -/
  | command (serial : Nat) (command : Command)
  /-- Ending a session, and how that ended. -/
  | quit (serial : Nat) (ending : Ending)
deriving Repr, DecidableEq

/-- Whether starting or ending a session gave up altogether. -/
def Call.gaveUp : Call → Bool
  | start _ _ ending => ending == .panicked
  | command _ _ => false
  | quit _ ending => ending == .panicked

/-- A world with the record of the calls. -/
structure Recorded (World : Type) where
  /-- The world itself. -/
  world : World
  /-- Every call so far, in order. -/
  calls : List Call

/-- A session with its number. -/
structure Numbered (Session : Type) where
  /-- The session itself. -/
  session : Session
  /-- The number of the call that started it; a session from before the record has number 0. -/
  serial : Nat

/-- Write a call into the record, with the world that it leaves. -/
def Recorded.write (record : Recorded World) (world : World) (call : Call) : Recorded World :=
  ⟨world, record.calls ++ [call]⟩

/-- The browser that does the same and records every call. -/
def Browser.recorded (browser : Browser World Session) :
    Browser (Recorded World) (Numbered Session) where
  start target options record :=
    let (attempt, world) := browser.start target options record.world
    let serial := record.calls.length + 1
    (attempt.map (⟨·, serial⟩), record.write world (.start serial target attempt.ending))
  target numbered := browser.target numbered.session
  perform command numbered record :=
    let (attempt, session, world) := browser.perform command numbered.session record.world
    (attempt, ⟨session, numbered.serial⟩, record.write world (.command numbered.serial command))
  quit numbered record :=
    let (attempt, world) := browser.quit numbered.session record.world
    (attempt, record.write world (.quit numbered.serial attempt.ending))
  pause milliseconds record := { record with world := browser.pause milliseconds record.world }

/-- The setting with its browser recorded. -/
def Setting.recorded (setting : Setting World Session) :
    Setting (Recorded World) (Numbered Session) :=
  setting.withBrowser setting.browser.recorded

/-- The scene with an empty record. -/
def Scene.recorded (scene : Scene World Session) : Scene (Recorded World) (Numbered Session) :=
  ⟨scene.context, scene.session.map (⟨·, 0⟩), ⟨scene.world, []⟩⟩

/-- A recorded browser read as the plain one. -/
def Setting.plain (setting : Setting World Session) :
    setting.recorded.browser.Morphism setting.browser where
  world := Recorded.world
  session := Numbered.session
  start target options record := by
    refine Prod.ext ?_ rfl
    dsimp only [Setting.recorded, Setting.withBrowser, Browser.recorded]
    cases (setting.browser.start target options record.world).1 <;> rfl
  perform _ _ _ := rfl
  quit _ _ := rfl
  pause _ _ := rfl

/-- Without its record the scene is what it was. -/
theorem Scene.read_recorded (setting : Setting World Session) (scene : Scene World Session) :
    scene.recorded.read setting.plain id = scene := by
  rcases scene with ⟨context, _ | session, world⟩ <;> rfl

@[simp] theorem Attempt.ending_returned {α : Type} (value : α) :
    (returned value).ending = .returned := rfl

@[simp] theorem Attempt.ending_failed {α : Type} (error : Error) :
    (failed error : Attempt α).ending = .failed := rfl

@[simp] theorem Attempt.ending_panicked {α : Type} (message : String) :
    (panicked message : Attempt α).ending = .panicked := rfl

/-- Changing the answer does not change the way in which an attempt ended. -/
@[simp] theorem Attempt.ending_map {α β : Type} (f : α → β) (attempt : Attempt α) :
    (attempt.map f).ending = attempt.ending := by
  cases attempt <;> rfl

/-- An attempt gave up if its ending says so. -/
theorem Attempt.ending_eq_panicked {α : Type} (attempt : Attempt α) :
    attempt.ending = .panicked ↔ ∃ message, attempt = .panicked message := by
  cases attempt <;> simp

/-- A session that starts is recorded, and so is one that does not. -/
theorem Browser.calls_of_start {browser : Browser World Session} {target : BrowserTarget}
    {options : RunOptions} {record after : Recorded World} {attempt : Attempt (Numbered Session)}
    (start : browser.recorded.start target options record = (attempt, after)) :
    after.calls =
      record.calls ++ [.start (record.calls.length + 1) target attempt.ending] := by
  simp only [Browser.recorded, Prod.mk.injEq] at start
  obtain ⟨rfl, rfl⟩ := start
  simp [Recorded.write]

/-- A session that starts has the number of the call that started it. -/
theorem Browser.serial_of_start {browser : Browser World Session} {target : BrowserTarget}
    {options : RunOptions} {record after : Recorded World} {numbered : Numbered Session}
    (start : browser.recorded.start target options record = (.returned numbered, after)) :
    numbered.serial = record.calls.length + 1 := by
  simp only [Browser.recorded, Prod.mk.injEq] at start
  obtain ⟨hattempt, _⟩ := start
  cases hplain : (browser.start target options record.world).1 with
  | returned session =>
    rw [hplain] at hattempt
    cases hattempt
    rfl
  | failed error => simp [hplain, Attempt.map] at hattempt
  | panicked message => simp [hplain, Attempt.map] at hattempt

/-- The end of a session is recorded. -/
theorem Browser.calls_of_quit (browser : Browser World Session) (numbered : Numbered Session)
    (record : Recorded World) :
    (browser.recorded.quit numbered record).2.calls =
      record.calls ++ [.quit numbered.serial (browser.recorded.quit numbered record).1.ending] :=
  rfl

namespace Run

/-- The calls of a run, in order. -/
def calls (setting : Setting World Session) (file : ValidationFile) (names : List String)
    (scene : Scene World Session) : List Call :=
  (validate setting.recorded file names scene.recorded).scene.world.calls

/-- A run is the recorded run without its record. -/
theorem validate_eq_recorded (setting : Setting World Session) (file : ValidationFile)
    (names : List String) (scene : Scene World Session) :
    (validate setting file names scene).result =
        (validate setting.recorded file names scene.recorded).result ∧
      (validate setting file names scene).scene =
        (validate setting.recorded file names scene.recorded).scene.read setting.plain id := by
  have hread := validate_read setting.plain file names scene.recorded
  rw [Scene.read_recorded] at hread
  have hplain : setting.recorded.withBrowser setting.browser = setting := rfl
  rw [hplain] at hread
  rw [hread]
  exact ⟨rfl, rfl⟩

end Run

/-- Between the start of a recorded session and its end the scene holds that very session, and the
record grows by commands in it. -/
theorem Scene.Moves.recorded {browser : Browser World Session}
    {before after : Scene (Recorded World) (Numbered Session)}
    (moves : before.Moves browser.recorded after) {numbered : Numbered Session}
    (bound : before.session = some numbered) :
    (∃ session, after.session = some ⟨session, numbered.serial⟩) ∧
      ∃ commands : List Command,
        after.world.calls = before.world.calls ++ commands.map (.command numbered.serial) := by
  induction moves with
  | refl => exact ⟨⟨numbered.session, bound⟩, [], by simp⟩
  | tail _ move ih =>
    obtain ⟨⟨session, hsession⟩, commands, hcalls⟩ := ih
    cases move with
    | perform context held world command =>
      cases hsession
      refine ⟨⟨_, rfl⟩, commands ++ [command], ?_⟩
      simp only at hcalls
      simp [Browser.recorded, Recorded.write, hcalls]
    | pause scene milliseconds => exact ⟨⟨session, hsession⟩, commands, hcalls⟩
    | capture scene name value => exact ⟨⟨session, hsession⟩, commands, hcalls⟩

/-- Moves only add to the record. -/
theorem Scene.Moves.calls_prefix {browser : Browser World Session}
    {before after : Scene (Recorded World) (Numbered Session)}
    (moves : before.Moves browser.recorded after) : before.world.calls <+: after.world.calls := by
  induction moves with
  | refl => exact List.prefix_refl _
  | tail _ move ih =>
    cases move with
    | perform context held world command => exact ih.trans (List.prefix_append _ _)
    | pause scene milliseconds => exact ih
    | capture scene name value => exact ih

end PageCheck
