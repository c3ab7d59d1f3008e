import PageCheck.CommandLine.Conduct
import PageCheck.Proofs.Json.Documents
import PageCheck.Proofs.Run.Result

/-!
# Exit status and output of a run

A run that comes to a summary prints one document with it, and its exit status says whether a report
in it is no success. A run that does not come to one prints nothing. The two agree therefore, except
where the file that the result is to be written to cannot be written: by then the document is
printed, and the error takes the place of the status that goes with it.
-/

namespace PageCheck.CommandLine

variable {World Session : Type}

/-- The output is one document, the text of a value from which the summary is decoded. -/
structure Shows (output : String) (summary : ReportSummary) : Prop where
  /-- Nothing but one document is printed. -/
  document : Json.Document output.toList
  /-- The summary is decoded from the value that is written there. -/
  summary : ∃ value : Json, (output = value.text ++ "\n" ∨ output = value.prettyText ++ "\n") ∧
    ReportSummary.decode value.draft = .ok summary

/-- What a run comes to: its summary and the context that it leaves, if it comes to a summary. -/
def produced? (host : Host) (remote : Config → Browser World Session) (world : World)
    (invocation : Invocation) (choices : RunChoices) : Option (ReportSummary × Context) :=
  match prepare host invocation choices with
  | .error _ => none
  | .ok prepared =>
    match if choices.dryRun then validateIn host (Scripted.browser .empty) .empty prepared choices
        else validateIn host (remote prepared.config) world prepared choices with
    | (.returned summary, context) => some (summary, context)
    | _ => none

/-- The exit status goes with the output and with the summary that was produced, if one was. -/
structure Agreement (produced : Option ReportSummary) (after : Aftermath) : Prop where
  /-- Unless the program gives up, the status is one of three. -/
  known : (∀ message, after.ending ≠ .panicked message) → exitStatus after.ending ∈ [0, 1, 2]
  /-- With a zero a summary without failures is shown. -/
  zero : exitStatus after.ending = 0 →
    ∃ summary, produced = some summary ∧ Shows after.output summary ∧ summary.hasFailures = false
  /-- With a one a summary with a failure is. -/
  one : exitStatus after.ending = 1 →
    ∃ summary, produced = some summary ∧ Shows after.output summary ∧ summary.hasFailures = true
  /-- With a two there is neither a summary nor an output. -/
  two : exitStatus after.ending = 2 → produced = none ∧ after.output = ""

/-- The file that the result is to be written to, if there is to be one, can be written. -/
def Writable (files : Files) (choices : RunChoices) (text : String) : Prop :=
  ∀ path, choices.output = some path → ∃ written, files.write path text = .ok written

/-! ### What a run prints -/

/-- The result of a run shows its summary. -/
theorem shows_resultText (summary : ReportSummary) (context : Context) :
    Shows (resultText summary context) summary := by
  have hdecode := Run.decode_result summary context.outputs
  rw [resultText]
  cases context.options.pretty with
  | false =>
    exact ⟨Json.document_of_mem (List.mem_cons_self ..), _, .inl rfl, hdecode⟩
  | true =>
    exact ⟨Json.document_of_mem (List.mem_cons_of_mem _ (List.mem_singleton_self _)), _, .inr rfl,
      hdecode⟩

/-- A run that comes to no summary fails or gives up before anything is done. -/
theorem conductRun_of_none {host : Host} {remote : Config → Browser World Session} {world : World}
    {invocation : Invocation} {choices : RunChoices}
    (nothing : produced? host remote world invocation choices = none) :
    (∃ error, conductRun host remote world invocation choices = .failing error) ∨
      ∃ message, conductRun host remote world invocation choices = ⟨[], .panicked message⟩ := by
  rw [produced?] at nothing
  rw [conductRun]
  cases hprepare : prepare host invocation choices with
  | error error => exact .inl ⟨error, rfl⟩
  | ok prepared =>
    simp only [hprepare] at nothing ⊢
    generalize (if choices.dryRun then validateIn host (Scripted.browser .empty) .empty prepared
      choices else validateIn host (remote prepared.config) world prepared choices) = ran
      at nothing ⊢
    rcases ran with ⟨summary | error | message, context⟩
    · cases nothing
    · exact .inl ⟨error, rfl⟩
    · exact .inr ⟨message, rfl⟩

/-- A run that comes to a summary presents it. -/
theorem conductRun_of_some {host : Host} {remote : Config → Browser World Session} {world : World}
    {invocation : Invocation} {choices : RunChoices} {summary : ReportSummary} {context : Context}
    (produced : produced? host remote world invocation choices = some (summary, context)) :
    conductRun host remote world invocation choices =
      present host choices (.returned summary, context) := by
  rw [produced?] at produced
  rw [conductRun]
  cases hprepare : prepare host invocation choices with
  | error error => simp [hprepare] at produced
  | ok prepared =>
    simp only [hprepare] at produced ⊢
    generalize (if choices.dryRun then validateIn host (Scripted.browser .empty) .empty prepared
      choices else validateIn host (remote prepared.config) world prepared choices) = ran
      at produced ⊢
    rcases ran with ⟨summary | error | message, context⟩
    · cases produced
      rfl
    · cases produced
    · cases produced

/-- Presenting a summary prints its result. If the file for it can be written, the status is the one
that goes with the summary. -/
theorem carryOut_present (host : Host) {choices : RunChoices} {summary : ReportSummary}
    {context : Context} {files : Files}
    (writable : Writable files choices (resultText summary context)) :
    ((present host choices (.returned summary, context)).carryOut files).output =
        resultText summary context ∧
      ((present host choices (.returned summary, context)).carryOut files).ending =
        .returned (if summary.hasFailures then 1 else 0) := by
  cases houtput : choices.output with
  | none => simp [present, houtput, Conduct.carryOut, Conduct.carryOut.go]
  | some path =>
    obtain ⟨written, hwrite⟩ := writable path houtput
    simp [present, houtput, Conduct.carryOut, Conduct.carryOut.go, hwrite]

/-- If it cannot, the result is printed all the same, and the status is that of an error. -/
theorem carryOut_present_unwritable (host : Host) {choices : RunChoices} {summary : ReportSummary}
    {context : Context} {files : Files} {path reason : String} (output : choices.output = some path)
    (unwritable : files.write path (resultText summary context) = .error reason) :
    ((present host choices (.returned summary, context)).carryOut files).output =
        resultText summary context ∧
      ((present host choices (.returned summary, context)).carryOut files).ending =
        .failed (.io reason) := by
  simp [present, output, Conduct.carryOut, Conduct.carryOut.go, unwritable]

/-! ### Output and status -/

/-- A summary that is shown agrees with the status that goes with it. -/
theorem Agreement.of_shown {summary : ReportSummary} {after : Aftermath}
    (shows : Shows after.output summary)
    (ending : after.ending = .returned (if summary.hasFailures then 1 else 0)) :
    Agreement (some summary) after := by
  cases hfailures : summary.hasFailures with
  | false =>
    have hstatus : exitStatus after.ending = 0 := by rw [ending, hfailures]; rfl
    exact ⟨fun _ => by simp [hstatus], fun _ => ⟨summary, rfl, shows, hfailures⟩,
      fun hone => by omega, fun htwo => by omega⟩
  | true =>
    have hstatus : exitStatus after.ending = 1 := by rw [ending, hfailures]; rfl
    exact ⟨fun _ => by simp [hstatus], fun hzero => by omega,
      fun _ => ⟨summary, rfl, shows, hfailures⟩, fun htwo => by omega⟩

/-- A failure before anything is done agrees with there being no summary. -/
theorem Agreement.of_failing (error : Error) (files : Files) :
    Agreement none ((Conduct.failing error).carryOut files) := by
  have hstatus : exitStatus ((Conduct.failing error).carryOut files).ending = 2 := rfl
  exact ⟨fun _ => by simp [hstatus], fun hzero => by omega, fun hone => by omega,
    fun _ => ⟨rfl, rfl⟩⟩

/-- Nothing is said on a program that gives up. -/
theorem Agreement.of_panicked {produced : Option ReportSummary} {after : Aftermath}
    {message : String} (ending : after.ending = .panicked message) : Agreement produced after := by
  have hstatus : exitStatus after.ending = 101 := by rw [ending]; rfl
  exact ⟨fun hreturns => absurd ending (hreturns message), fun hzero => by omega,
    fun hone => by omega, fun htwo => by omega⟩

/-- The exit status and the output agree exactly if the file for the result can be written whenever
there is a result. -/
theorem agreement_carryOut_iff (host : Host) (remote : Config → Browser World Session)
    (world : World) (invocation : Invocation) (choices : RunChoices) (files : Files) :
    Agreement ((produced? host remote world invocation choices).map (·.1))
        ((conductRun host remote world invocation choices).carryOut files) ↔
      ∀ summary context,
        produced? host remote world invocation choices = some (summary, context) →
          Writable files choices (resultText summary context) := by
  cases hproduced : produced? host remote world invocation choices with
  | none =>
    refine iff_of_true ?_ nofun
    rcases conductRun_of_none hproduced with ⟨error, hconduct⟩ | ⟨message, hconduct⟩
    · exact hconduct ▸ .of_failing error files
    · exact hconduct ▸ .of_panicked rfl
  | some produced =>
    obtain ⟨summary, context⟩ := produced
    rw [conductRun_of_some hproduced]
    constructor
    · rintro hagreement _ _ ⟨⟩ path houtput
      cases hwrite : files.write path (resultText summary context) with
      | ok written => exact ⟨written, rfl⟩
      | error reason =>
        have hending := (carryOut_present_unwritable host houtput hwrite).2
        have htwo := hagreement.two (by rw [hending]; rfl)
        cases htwo.1
    · intro hwritable
      obtain ⟨houtput, hending⟩ := carryOut_present host (hwritable summary context rfl)
      exact .of_shown (houtput ▸ shows_resultText summary context) hending

/-- The files that a run finds once it has the log file that is asked for. -/
def ready? (log : Option String) (files : Files) : Option Files :=
  match log with
  | none => some files
  | some path => files.provide path

/-- **The exit status and the output of a run agree** exactly if the file for the result can be
written whenever there is a result and such a file is asked for, whatever else the run is asked to
do, and wherever it finds its files, its environment and its browsers. -/
theorem status_agrees_iff {invocation : Invocation} {choices : RunChoices}
    (task : invocation.task = .run choices) (host : Files → Host)
    (remote : Config → Browser World Session) (world : World) (log : Option String)
    (files : Files) :
    Agreement
        ((ready? log files).bind fun ready =>
          (produced? (host ready) remote world invocation choices).map (·.1))
        (carryOutLogged log (fun ready => conduct (host ready) remote world invocation) files) ↔
      ∀ ready summary context path, ready? log files = some ready →
        produced? (host ready) remote world invocation choices = some (summary, context) →
          choices.output = some path →
            ∃ written, ready.write path (resultText summary context) = .ok written := by
  have hconduct : ∀ ready, conduct (host ready) remote world invocation =
      conductRun (host ready) remote world invocation choices := by
    intro ready
    rw [conduct, task]
  have hlogged : carryOutLogged log (fun ready => conduct (host ready) remote world invocation)
      files = match ready? log files with
        | none => ⟨"", "", files, .panicked noLog⟩
        | some ready => (conduct (host ready) remote world invocation).carryOut ready := by
    cases log with
    | none => rfl
    | some path =>
      rw [carryOutLogged, ready?, Option.map_some]
      cases files.provide path <;> rfl
  rw [hlogged]
  cases hready : ready? log files with
  | none => exact iff_of_true (.of_panicked rfl) nofun
  | some ready =>
    dsimp only [Option.bind_some]
    rw [hconduct, agreement_carryOut_iff]
    constructor
    · rintro hwritable _ summary context path ⟨⟩ hproduced
      exact hwritable summary context hproduced path
    · intro hwritable summary context hproduced path
      exact hwritable ready summary context path rfl hproduced

/-! ### A result that cannot be written -/

/-- A host with the files of one directory. -/
def hostOf (files : Files) : Host := ⟨files.read, [], .empty, false⟩

/-- A dry run of a file whose only step lacks what it is about. The result is to be written to a
file. -/
def clicking (path : String) : RunChoices where
  input := .inline "\x7b\"steps\":[\x7b\"type\":\"Click\"\x7d]\x7d"
  browsers := []
  definitions := []
  debug := false
  headed := false
  noSandbox := false
  pretty := false
  output := some path
  dryRun := true

/-- The invocation that asks for it. -/
def askingFor (choices : RunChoices) : Invocation := ⟨none, none, false, [], .run choices⟩

/-- The summary of the run: the step failed. -/
def clickingSummary : ReportSummary :=
  ⟨[⟨"Firefox", [.stepFailure ⟨"Firefox", 0, "Click",
    (Error.invalidStep "Click" "no locator specified").message⟩]⟩]⟩

/-- The context of the run, in which nothing is captured. -/
def clickingContext (path : String) : Context :=
  { Context.new (optionsOf Config.standard.defaults (clicking path)) with
    timeouts := Config.standard.timeouts }

/-- The run comes to that summary. -/
theorem produced_clicking (path : String) :
    produced? (hostOf []) (fun _ => Scripted.browser .empty) .empty (askingFor (clicking path))
      (clicking path) = some (clickingSummary, clickingContext path) := by
  have hfile : loadInput (hostOf []) (.inline "\x7b\"steps\":[\x7b\"type\":\"Click\"\x7d]\x7d") =
      .ok { ValidationFile.empty with steps := [⟨"Click", none, [], none⟩] } := by cbv
  have hconfig : loadConfig (hostOf []) none = .ok .standard := by rfl
  simp only [produced?, prepare, clicking, askingFor, hfile, hconfig]
  rfl

/-- What is left behind by the run with its result to be written to a path. -/
def afterClicking (path : String) : Aftermath :=
  carryOutLogged none (fun ready => conduct (hostOf ready) (fun _ => Scripted.browser .empty) .empty
    (askingFor (clicking path))) []

/-- The run presents the summary. -/
theorem afterClicking_eq (path : String) :
    afterClicking path = (present (hostOf []) (clicking path)
      (.returned clickingSummary, clickingContext path)).carryOut [] :=
  congrArg (fun shown => Conduct.carryOut shown []) (conductRun_of_some (produced_clicking path))

/-- Where the file can be written, the status says that the summary shown has a failure. -/
theorem status_agrees_iff_clicking :
    (askingFor (clicking "summary.json")).task = .run (clicking "summary.json") ∧
      exitStatus (afterClicking "summary.json").ending = 1 ∧
      Agreement (some clickingSummary) (afterClicking "summary.json") := by
  have hpath : Files.checkPath "summary.json" = .ok () := by rfl
  have hnames : Files.namesOf "summary.json" = ["summary.json"] := by cbv
  have hstart : Files.Place.start "summary.json" = ⟨false, 0, []⟩ := by decide +kernel
  have hends : "summary.json".endsWith "/" = false := by decide +kernel
  have hwrite : ∀ text, Files.write [] "summary.json" text = .ok [("summary.json", text)] := by
    intro text
    simp only [Files.write, hpath, hnames, hstart, hends]
    rfl
  have htask : (askingFor (clicking "summary.json")).task = .run (clicking "summary.json") := rfl
  have hproduced := produced_clicking "summary.json"
  have hagreement := (status_agrees_iff htask hostOf (fun _ => Scripted.browser .empty) .empty none
    []).mpr (by
      rintro _ summary context path ⟨⟩ _ ⟨⟩
      exact ⟨_, hwrite _⟩)
  refine ⟨htask, ?_, ?_⟩
  · have hwritable : Writable [] (clicking "summary.json")
        (resultText clickingSummary (clickingContext "summary.json")) := by
      rintro path ⟨⟩
      exact ⟨_, hwrite _⟩
    rw [afterClicking_eq, (carryOut_present (hostOf []) hwritable).2]
    rfl
  · rw [ready?, Option.bind_some, hproduced] at hagreement
    exact hagreement

/-- Where it cannot, the status says that there is no summary although it is shown. -/
theorem status_disagrees_clicking :
    exitStatus (afterClicking "missing/summary.json").ending = 2 ∧
      Shows (afterClicking "missing/summary.json").output clickingSummary ∧
      clickingSummary.hasFailures = true ∧
      ¬ Agreement (some clickingSummary) (afterClicking "missing/summary.json") := by
  have hpath : Files.checkPath "missing/summary.json" = .ok () := by rfl
  have hnames : Files.namesOf "missing/summary.json" = ["missing", "summary.json"] := by cbv
  have hstart : Files.Place.start "missing/summary.json" = ⟨false, 0, []⟩ := by decide +kernel
  have hwrite : ∀ text,
      Files.write [] "missing/summary.json" text = .error Files.missing := by
    intro text
    simp only [Files.write, hpath, hnames, hstart]
    rfl
  have hafter := carryOut_present_unwritable (hostOf [])
    (show (clicking "missing/summary.json").output = some "missing/summary.json" from rfl)
    (hwrite (resultText clickingSummary (clickingContext "missing/summary.json")))
  rw [← afterClicking_eq] at hafter
  have hstatus : exitStatus (afterClicking "missing/summary.json").ending = 2 := by
    rw [hafter.2]
    rfl
  refine ⟨hstatus, hafter.1 ▸ shows_resultText _ _, rfl, fun hagreement => ?_⟩
  cases (hagreement.two hstatus).1

end PageCheck.CommandLine
