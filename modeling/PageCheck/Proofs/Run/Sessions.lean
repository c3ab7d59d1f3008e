import PageCheck.Proofs.Browser.Record
import PageCheck.Proofs.Run.Course

/-!
# Sessions of a run

The calls of a run fall into blocks, one for each pass that tries to start a session. A session that
starts has a block of its own: its start, then commands in it and in no other one, then its end,
once. A block without a session is a start that did not succeed. So no two sessions of a run
overlap, and none outlives the run, however the run ends.
-/

namespace PageCheck

variable {World Session : Type}

namespace Pass

/-- The calls that a pass may make, where the next session has the number `serial`. -/
inductive Block (registry : Registry) (file : ValidationFile) (browser : BrowserTarget)
    (serial : Nat) : List Call → Prop
  /-- A name in the file has no meaning. -/
  | unplanned {e : PlanError} (planned : Plan.build registry file = .error e) :
      Block registry file browser serial []
  /-- There is nothing to do. -/
  | idle {plan : Plan} (planned : Plan.build registry file = .ok plan)
      (empty : plan.isEmpty = true) :
      Block registry file browser serial []
  /-- The session does not start. -/
  | refused {plan : Plan} {ending : Ending} (planned : Planned registry file plan)
      (unsuccessful : ending ≠ .returned) :
      Block registry file browser serial [.start serial browser ending]
  /-- The session starts, is driven and ends. -/
  | session {plan : Plan} (planned : Planned registry file plan) (commands : List Command)
      (ending : Ending) :
      Block registry file browser serial
        (.start serial browser .returned :: commands.map (.command serial) ++
          [.quit serial ending])

/-- A pass that finds a session bound does nothing, and it does not give up. -/
theorem Course.of_bound {setting : Setting World Session} {file : ValidationFile}
    {browser : BrowserTarget} {scene after : Scene World Session} {passEnd : PassEnd}
    (course : Course setting file browser scene passEnd after)
    (bound : scene.session.isSome = true) :
    after = scene ∧ ∀ message, passEnd ≠ .panicked message := by
  cases course with
  | unplanned planned => exact ⟨rfl, by simp⟩
  | idle planned empty => exact ⟨rfl, by simp⟩
  | busy planned held => exact ⟨rfl, by simp⟩
  | refused planned free hstart => simp [free] at bound
  | stillborn planned free hstart => simp [free] at bound
  | driven planned free hstart hdrive held kept => simp [free] at bound
  | severed planned free hstart hdrive held lost => simp [free] at bound

/-- The commands of a session never give up altogether: what a handler gives up on is a report. -/
theorem any_gaveUp_commands (serial : Nat) (commands : List Command) :
    (commands.map (Call.command serial)).any Call.gaveUp = false := by
  induction commands with
  | nil => rfl
  | cons command rest ih => simp [Call.gaveUp]

/-- The calls of a session that started give up exactly if its end does. -/
theorem any_gaveUp_session (browser : BrowserTarget) (serial : Nat) (commands : List Command)
    (ending : Ending) :
    (Call.start serial browser .returned :: commands.map (.command serial) ++
      [Call.quit serial ending]).any Call.gaveUp = (ending == .panicked) := by
  rw [List.cons_append, List.any_cons, List.any_append, any_gaveUp_commands]
  simp [Call.gaveUp]

/-- A pass whose session ended has not given up. -/
theorem ending_ne_panicked (passEnd : PassEnd) (message : String) :
    ending passEnd ≠ .panicked message := by
  cases passEnd <;> simp [ending]

/-- A session that starts and ends writes its start, commands in it and its end. -/
theorem calls_of_session {setting : Setting World Session} {file : ValidationFile}
    {browser : BrowserTarget} {plan : Plan}
    {scene after : Scene (Recorded World) (Numbered Session)} {started : Recorded World}
    {numbered last : Numbered Session} {passEnd : PassEnd}
    (hstart : setting.recorded.browser.start browser scene.context.options scene.world =
      (.returned numbered, started))
    (hdrive : drive setting.recorded file browser plan
      { scene with session := some numbered, world := started } = (passEnd, after))
    (bound : after.session = some last) :
    ∃ commands : List Command,
      (setting.recorded.browser.quit last after.world).2.calls = scene.world.calls ++
        (.start (scene.world.calls.length + 1) browser .returned ::
          commands.map (.command (scene.world.calls.length + 1)) ++
          [.quit (scene.world.calls.length + 1)
            (setting.recorded.browser.quit last after.world).1.ending]) := by
  have hmoves := moves_drive setting.recorded file browser plan
    { scene with session := some numbered, world := started }
  rw [hdrive] at hmoves
  obtain ⟨⟨session, hsession⟩, commands, hcommands⟩ := hmoves.recorded rfl
  rw [bound] at hsession
  cases hsession
  have hcalls := Browser.calls_of_start hstart
  have hserial := Browser.serial_of_start hstart
  have hquit := Browser.calls_of_quit setting.browser ⟨session, numbered.serial⟩ after.world
  refine ⟨commands, hquit.trans ?_⟩
  simp only at hcommands
  rw [hcommands, hcalls, hserial, Attempt.ending_returned]
  simp only [List.append_assoc, List.cons_append, List.nil_append]
  rfl

/-- A pass that finds no session leaves none, and its calls are a block. It gives up if the start or
the end of its session does. -/
theorem Course.block {setting : Setting World Session} {file : ValidationFile}
    {browser : BrowserTarget} {scene after : Scene (Recorded World) (Numbered Session)}
    {passEnd : PassEnd} (course : Course setting.recorded file browser scene passEnd after)
    (free : scene.session = none) :
    after.session = none ∧
      ∃ block, Block setting.registry file browser (scene.world.calls.length + 1) block ∧
        after.world.calls = scene.world.calls ++ block ∧
        (block.any Call.gaveUp = true ↔ ∃ message, passEnd = .panicked message) := by
  cases course with
  | unplanned planned =>
    exact ⟨free, [], .unplanned planned, (List.append_nil _).symm, by simp⟩
  | idle planned empty =>
    exact ⟨free, [], .idle planned empty, (List.append_nil _).symm, by simp⟩
  | busy planned bound => simp [free] at bound
  | refused planned _ hstart =>
    refine ⟨free, _, .refused planned ?_, Browser.calls_of_start hstart, ?_⟩
    · simp
    · simp [Call.gaveUp]
  | stillborn planned _ hstart =>
    refine ⟨free, _, .refused planned ?_, Browser.calls_of_start hstart, ?_⟩
    · simp
    · simp [Call.gaveUp]
  | driven planned _ hstart hdrive bound kept =>
    obtain ⟨commands, hcalls⟩ := calls_of_session hstart hdrive bound
    refine ⟨rfl, _, .session planned commands _, hcalls, ?_⟩
    rw [any_gaveUp_session, beq_iff_eq, Attempt.ending_eq_panicked]
    constructor
    · rintro ⟨message, hquit⟩
      exact absurd hquit (kept message)
    · rintro ⟨message, hend⟩
      exact absurd hend (ending_ne_panicked _ message)
  | severed planned _ hstart hdrive bound lost =>
    obtain ⟨commands, hcalls⟩ := calls_of_session hstart hdrive bound
    refine ⟨rfl, _, .session planned commands _, hcalls, ?_⟩
    rw [any_gaveUp_session, lost, Attempt.ending_panicked]
    exact ⟨fun _ => ⟨_, rfl⟩, fun _ => rfl⟩

end Pass

namespace Run

/-- The calls that a run over browsers may make once `written` calls were made. -/
inductive Blocks (registry : Registry) (file : ValidationFile) :
    Nat → List String → List Call → Prop
  /-- No browser is left. -/
  | done {written : Nat} : Blocks registry file written [] []
  /-- A name without meaning has no calls. -/
  | unknown {written : Nat} {name : String} {rest : List String} {error : Error}
      {calls : List Call} (unresolved : registry.resolve (α := BrowserTarget) name = .error error)
      (later : Blocks registry file written rest calls) :
      Blocks registry file written (name :: rest) calls
  /-- The block of a pass, and after it what the other browsers make. -/
  | next {written : Nat} {name : String} {rest : List String} {browser : BrowserTarget}
      {block calls : List Call} (resolved : registry.resolve name = .ok browser)
      (pass : Pass.Block registry file browser (written + 1) block)
      (kept : block.any Call.gaveUp = false)
      (later : Blocks registry file (written + block.length) rest calls) :
      Blocks registry file written (name :: rest) (block ++ calls)
  /-- The block of a pass that gives up is the last one. -/
  | last {written : Nat} {name : String} {rest : List String} {browser : BrowserTarget}
      {block : List Call} (resolved : registry.resolve name = .ok browser)
      (pass : Pass.Block registry file browser (written + 1) block)
      (lost : block.any Call.gaveUp = true) :
      Blocks registry file written (name :: rest) block

/-- The calls of a pass that has reports did not give up. -/
theorem kept_of_reports {browser : BrowserTarget} {passEnd : PassEnd} {reports : List Report}
    {block : List Call} (hreports : reportsOf? browser passEnd = .ok reports)
    (gaveUp : block.any Call.gaveUp = true ↔ ∃ message, passEnd = .panicked message) :
    block.any Call.gaveUp = false := by
  rw [← Bool.not_eq_true, gaveUp]
  rintro ⟨message, hend⟩
  rw [(reportsOf?_eq_error browser passEnd message).mpr hend] at hreports
  cases hreports

/-- On its course a run that finds no session leaves none, and its calls are blocks. What a pass
leaves is what the next one needs: no session, and a record that is longer by its block, from which
the next session gets its number. -/
theorem Course.blocks {setting : Setting World Session} {file : ValidationFile}
    {names : List String} {summary : ReportSummary} {result : Attempt ReportSummary}
    {scene last : Scene (Recorded World) (Numbered Session)}
    (course : Course setting.recorded file names summary scene result last)
    (free : scene.session = none) :
    last.session = none ∧
      ∃ calls, Blocks setting.registry file scene.world.calls.length names calls ∧
        last.world.calls = scene.world.calls ++ calls := by
  induction course with
  | done => exact ⟨free, [], .done, (List.append_nil _).symm⟩
  | unknown unresolved later ih =>
    obtain ⟨hfree, calls, hblocks, hcalls⟩ := ih free
    exact ⟨hfree, calls, .unknown unresolved hblocks, hcalls⟩
  | next resolved ran reported later ih =>
    obtain ⟨hfree, block, hblock, hcalls, hgaveUp⟩ := (Pass.course_of_run ran).block free
    obtain ⟨hlast, calls, hblocks, hothers⟩ := ih hfree
    rw [hcalls, List.length_append] at hblocks
    refine ⟨hlast, block ++ calls, ?_, ?_⟩
    · exact .next resolved hblock (kept_of_reports reported hgaveUp) hblocks
    · rw [hothers, hcalls, List.append_assoc]
  | lost resolved ran =>
    obtain ⟨hfree, block, hblock, hcalls, hgaveUp⟩ := (Pass.course_of_run ran).block free
    exact ⟨hfree, block, .last resolved hblock (hgaveUp.mpr ⟨_, rfl⟩), hcalls⟩

/-- Visiting browsers leaves no session, and the calls are blocks. -/
theorem visit_blocks (setting : Setting World Session) (file : ValidationFile)
    (names : List String) (summary : ReportSummary)
    {scene : Scene (Recorded World) (Numbered Session)} (free : scene.session = none) :
    (visit setting.recorded file names summary scene).scene.session = none ∧
      ∃ calls, Blocks setting.registry file scene.world.calls.length names calls ∧
        (visit setting.recorded file names summary scene).scene.world.calls =
          scene.world.calls ++ calls :=
  (visit_course setting.recorded file names summary scene).blocks free

/-- The sessions of a run come one after the other, each with a block of calls that starts it,
drives it and ends it once, and none is left when the run ends. -/
theorem sessions_in_blocks (setting : Setting World Session) (file : ValidationFile)
    (names : List String) {scene : Scene World Session} (free : scene.session = none) :
    Blocks setting.registry file 0 names (calls setting file names scene) ∧
      (validate setting file names scene).scene.session = none := by
  have hfree : (scene.recorded.session) = none := by rw [Scene.recorded, free]; rfl
  have hplain := (validate_eq_recorded setting file names scene).2
  rw [hplain, calls]
  cases names with
  | nil => exact ⟨.done, by simp [validate, Scene.read, hfree]⟩
  | cons name rest =>
    have hloaded : { scene.recorded with
        context := scene.recorded.context.loadBase file.definitions }.session = none := hfree
    obtain ⟨hlast, calls, hblocks, hcalls⟩ :=
      visit_blocks setting file (name :: rest) .empty hloaded
    rw [validate_of_asked _ _ (List.cons_ne_nil name rest), hcalls, Scene.read, hlast]
    exact ⟨hblocks, rfl⟩

/-- A file that loads the page again and checks nothing. -/
def reloading : ValidationFile where
  description := none
  targetBrowsers := ["Firefox", "Chrome", "Edge"]
  path := none
  definitions := []
  steps := [⟨"Refresh", none, [], none⟩]
  validations := []
  metadata := []

/-- A site at which one browser gives up on loading a page again, one does not start and one does
not end. -/
def unsteady : Scripted.Site where
  pages := []
  redirects := []
  failingStarts := ["Chrome"]
  faults := [⟨some "firefox", "refresh", .panic "gone"⟩, ⟨some "edge", "quit", .error "stuck"⟩]

/-- Whatever goes wrong at that site, the sessions come one after the other. -/
theorem sessions_in_blocks_unsteady :
    Scene.scripted.session = none ∧
      calls (.scripted unsteady) reloading ["Firefox", "Lynx", "Chrome", "Edge"] .scripted =
        [.start 1 .firefox .returned, .command 1 .refresh, .quit 1 .returned,
          .start 4 .chrome .failed,
          .start 5 .edge .returned, .command 5 .refresh, .quit 5 .failed] ∧
      Blocks .empty reloading 0 ["Firefox", "Lynx", "Chrome", "Edge"]
        (calls (.scripted unsteady) reloading ["Firefox", "Lynx", "Chrome", "Edge"] .scripted) := by
  have hfree : Scene.scripted.session = none := rfl
  refine ⟨hfree, by rfl, ?_⟩
  exact (sessions_in_blocks (.scripted unsteady) reloading
    ["Firefox", "Lynx", "Chrome", "Edge"] hfree).1

end Run

end PageCheck
