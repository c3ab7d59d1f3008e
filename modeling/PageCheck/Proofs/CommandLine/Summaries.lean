import PageCheck.CommandLine.Conduct
import PageCheck.Main
import PageCheck.Proofs.CommandLine.Readings
import PageCheck.Proofs.Report.Filtering
import PageCheck.Proofs.Report.Words

/-!
# Summaries of summaries

A saved result that is shown as JSON can be saved and shown again. With the same flags the same text
is printed once more, and with further flags what all of them print together, as long as the command
line accepts them together.
-/

namespace PageCheck.CommandLine

open Decimal (wordLimit)

/-! ### The command line -/

/-- A path that is taken as an operand: it is not empty, and it does not begin with a hyphen unless
it is nothing else. -/
structure IsOperand (path : String) : Prop where
  /-- It is not empty. -/
  nonempty : path ≠ ""
  /-- It does not begin as an option does. -/
  plain : ∀ c rest, path.toList ≠ '-' :: c :: rest

/-- The arguments that ask for a saved result as JSON, with further flags. -/
def summaryArguments (path : String) (flags : List String) : List String :=
  "summary" :: path :: "--json" :: flags

/-- The options that subcommands know besides their own. -/
def commonOptions (pluginNames : List String) : List OptionSpec :=
  Main.sharedOptions ++ pluginNames.map pluginOption

/-- The level after the name of the subcommand. -/
def summaryLevel (pluginNames : List String) : Level :=
  levelOf (commonOptions pluginNames) "summary"

/-- What is known once the path and the switch for JSON are read. -/
def readingFrom (path : String) : Reading := ⟨[("json", "")], some path, none⟩

/-- What the options that were read ask for. -/
def choicesOf (path : String) (reading : Reading) : SummaryChoices where
  report := path
  browser := reading.value? "browser"
  validationType := reading.value? "type"
  state := reading.value? "state"
  failed := reading.has "failed"
  passed := reading.has "passed"
  critical := reading.has "critical"
  json := reading.has "json"

variable {pluginNames : List String} {path : String}

/-- The options of the level, in order. -/
theorem summaryLevel_options : (summaryLevel pluginNames).options = summaryOptions ++
    (commonOptions pluginNames).filter (·.kind != .version) ++ [helpOption] := rfl

/-- Only the option for more messages can be given again. -/
theorem eq_verbose_of_repeats {name : String} (repeats : (summaryLevel pluginNames).Repeats name) :
    name = "verbose" := by
  obtain ⟨option, hmem, rfl, hkind⟩ := repeats
  have hown : ∀ option ∈ summaryOptions ++ Main.sharedOptions ++ [helpOption],
      option.kind.repeats = true → option.long = "verbose" := by decide
  rw [summaryLevel_options, List.mem_append, List.mem_append, List.mem_filter, commonOptions,
    List.mem_append] at hmem
  rcases hmem with (hsummary | ⟨hshared | hplugin, _⟩) | hhelp
  · exact hown option (by simp [hsummary]) hkind
  · exact hown option (by simp [hshared]) hkind
  · obtain ⟨name, _, rfl⟩ := List.mem_map.mp hplugin
    cases hkind
  · exact hown option (by simp [hhelp]) hkind

/-- An argument that does not begin as an option does is none. -/
theorem Reading.take_of_plain {argument : String}
    (plain : ∀ c rest, argument.toList ≠ '-' :: c :: rest) (level : Level) (reading : Reading) :
    reading.take level argument = reading.takePlain level argument := by
  rw [take.eq_def]
  split
  next text htext => exact absurd htext (plain '-' text)
  next c rest _ htext => exact absurd htext (plain c rest)
  next => rfl

/-- The path waits until the argument after it is looked at. -/
theorem take_path (operand : IsOperand path) :
    Reading.start.take (summaryLevel pluginNames) path = .ok ⟨[], none, some (.operand path)⟩ := by
  rw [Reading.take_of_plain operand.plain]
  rfl

/-- With the switch after it the path counts. -/
theorem take_json (operand : IsOperand path) :
    Reading.take (summaryLevel pluginNames) "--json" ⟨[], none, some (.operand path)⟩ =
      .ok (readingFrom path) := by
  have hfind : (summaryLevel pluginNames).options.find? (·.long == "json") =
      some ⟨"json", none, .switch⟩ := rfl
  have hsettle : Reading.settle (summaryLevel pluginNames) ⟨[], none, some (.operand path)⟩ =
      .ok ⟨[], some path, none⟩ := if_pos (bne_iff_ne.mpr operand.nonempty)
  change Reading.takeLong (summaryLevel pluginNames) "json" none _ = _
  rw [Reading.takeLong.eq_def, hfind]
  dsimp only
  rw [Reading.takeOption, hsettle]
  rfl

/-- The path and the switch are read first. -/
theorem readLevel_summary (operand : IsOperand path) (flags : List String) :
    readLevel (summaryLevel pluginNames) (path :: "--json" :: flags) .start =
      readLevel (summaryLevel pluginNames) flags (readingFrom path) := by
  have hpath : path ≠ "--" := by
    rintro rfl
    exact operand.plain '-' [] rfl
  rw [readLevel_of_plain rfl, readLevel_of_plain rfl, readArguments, if_neg hpath,
    take_path operand]
  change (readArguments (summaryLevel pluginNames) ("--json" :: flags) _).map _ = _
  rw [readArguments, if_neg (by decide), take_json operand]
  rfl

/-- What the arguments after the name come to is what the flags are read as. -/
theorem readTask_summary (operand : IsOperand path) (flags : List String) :
    readTask (commonOptions pluginNames) "summary" (path :: "--json" :: flags) =
      (readToEnd (summaryLevel pluginNames) flags (readingFrom path)).bind fun reading =>
        match reading.operand with
        | some operand => .ok (reading, .summary (choicesOf operand reading))
        | none => .error (.fault .missingRequiredArgument) := by
  have hlevel : readLevel (summaryLevel pluginNames) (path :: "--json" :: flags) .start =
      readLevel (summaryLevel pluginNames) flags (readingFrom path) :=
    readLevel_summary operand flags
  rw [summaryLevel] at hlevel
  rw [readTask, hlevel, readToEnd, ← summaryLevel, readLevel_of_plain rfl]
  cases readArguments (summaryLevel pluginNames) flags (readingFrom path) <;> rfl

/-- Nothing but the path stands between readings that begin after it. -/
theorem covers_readingFrom (path other : String) :
    (readingFrom path).Covers (readingFrom other) :=
  ⟨rfl, rfl, fun _ held => held⟩

/-- They stand alongside each other. -/
theorem alongside_readingFrom (level : Level) (path other : String) :
    Reading.Alongside level (readingFrom path) (readingFrom other) (readingFrom path)
      (readingFrom other) :=
  .refl rfl rfl

/-- The flags take nothing away: the path stays the operand, and the switch for JSON is given. -/
theorem given_of_readToEnd {level : Level} {flags : List String} {reading : Reading}
    (read : readToEnd level flags (readingFrom path) = .ok reading) :
    reading.operand = some path ∧ reading.has "json" = true := by
  obtain ⟨_, _, along⟩ := (alongside_readingFrom level path path).readToEnd
    (covers_readingFrom path path) flags reading read
  obtain ⟨since, hgiven, _, _⟩ := along.given
  exact ⟨along.operand, by rw [Reading.has_of_given hgiven]; rfl⟩

/-- Nothing is left to count once the flags are read to the end. -/
theorem pending_of_readToEnd {level : Level} {flags : List String} {start reading : Reading}
    (read : readToEnd level flags start = .ok reading) : reading.pending = none := by
  obtain ⟨_, _, hclose⟩ := ok_of_bind read
  exact Reading.pending_of_settle (Reading.settle_of_closeLevel hclose)

/-- Flags that are read only add to what is known after the path. -/
theorem covers_of_readToEnd {level : Level} {flags : List String} {reading : Reading}
    (read : readToEnd level flags (readingFrom path) = .ok reading) (other : String) :
    reading.Covers (readingFrom other) where
  operand := by rw [(given_of_readToEnd read).1]; rfl
  otherOperand := rfl
  names name held := by
    have hname : ("json" == name) = true := by
      rwa [Reading.has, readingFrom, List.any_cons, List.any_nil, Bool.or_false] at held
    exact beq_iff_eq.mp hname ▸ (given_of_readToEnd read).2

/-- The whole command line asks for what its flags are read as. -/
theorem map_task_readInvocation (operand : IsOperand path) (flags : List String) :
    (readInvocation Main.sharedOptions pluginNames (summaryArguments path flags)).map (·.task) =
      (readToEnd (summaryLevel pluginNames) flags (readingFrom path)).map fun reading =>
        .summary (choicesOf path reading) := by
  have htop : readLevel (topLevel (commonOptions pluginNames)) (summaryArguments path flags)
      .start = .ok (.start, some ("summary", path :: "--json" :: flags)) := rfl
  have hinner : (readInvocation Main.sharedOptions pluginNames (summaryArguments path flags)).map
      (·.task) = (readTask (commonOptions pluginNames) "summary" (path :: "--json" :: flags)).map
        (·.2) := by
    rw [commonOptions] at htop ⊢
    rw [readInvocation, htop]
    change Except.map _ (readTask _ _ _ >>= _) = _
    cases readTask (Main.sharedOptions ++ pluginNames.map pluginOption) "summary"
      (path :: "--json" :: flags) <;> rfl
  rw [hinner, readTask_summary operand]
  cases hread : readToEnd (summaryLevel pluginNames) flags (readingFrom path) with
  | error stop => rfl
  | ok reading =>
    simp only [Except.bind, (given_of_readToEnd hread).1, Except.map]

/-- If the whole command line is accepted, its flags are read to the end. -/
theorem readToEnd_of_accepted (operand : IsOperand path) {flags : List String}
    (accepted : (readInvocation Main.sharedOptions pluginNames
      (summaryArguments path flags)).isOk) :
    ∃ reading, readToEnd (summaryLevel pluginNames) flags (readingFrom path) = .ok reading := by
  have hmap : (readInvocation Main.sharedOptions pluginNames (summaryArguments path flags)).map
      (·.task) = _ := map_task_readInvocation operand flags
  cases hread : readInvocation Main.sharedOptions pluginNames (summaryArguments path flags) with
  | error stop =>
    rw [hread] at accepted
    cases accepted
  | ok invocation =>
    rw [hread] at hmap
    obtain ⟨reading, hreading, _⟩ := ok_of_map hmap.symm
    exact ⟨reading, hreading⟩

/-! ### What is printed -/

variable {World Session : Type}

/-- A command line is accepted, and all that is done is that a text is printed. -/
def Prints (host : Host) (remote : Config → Browser World Session) (world : World)
    (pluginNames arguments : List String) (text : String) : Prop :=
  ∃ invocation, readInvocation Main.sharedOptions pluginNames arguments = .ok invocation ∧
    conduct host remote world invocation = ⟨[.print text], .returned 0⟩

/-- The filter that the options ask for. -/
def filterFor (reading : Reading) : Filter := filterOf (choicesOf "" reading)

/-- A saved result is shown as JSON without the reports that its filter takes away. -/
theorem conduct_of_task (host : Host) (remote : Config → Browser World Session) (world : World)
    {invocation : Invocation} {reading : Reading} (json : reading.has "json" = true)
    (task : invocation.task = .summary (choicesOf path reading)) :
    conduct host remote world invocation = match loadSummary host path with
      | .error error => .failing error
      | .ok summary =>
        ⟨[.print ((summary.filterBy (filterFor reading).selects).prettyText ++ "\n")],
          .returned 0⟩ := by
  have hjson : (choicesOf path reading).json = true := json
  rw [conduct, task]
  dsimp only
  rw [conductSummary, hjson]
  rfl

/-- A command line for a saved result prints what its filter leaves of the result. -/
theorem prints_iff (operand : IsOperand path) {host : Host}
    {remote : Config → Browser World Session} {world : World} {flags : List String}
    {text : String} :
    Prints host remote world pluginNames (summaryArguments path flags) text ↔
      ∃ reading summary, readToEnd (summaryLevel pluginNames) flags (readingFrom path) =
        .ok reading ∧ loadSummary host path = .ok summary ∧
        text = (summary.filterBy (filterFor reading).selects).prettyText ++ "\n" := by
  have hmap : (readInvocation Main.sharedOptions pluginNames (summaryArguments path flags)).map
      (·.task) = _ := map_task_readInvocation operand flags
  constructor
  · rintro ⟨invocation, hinvocation, hconduct⟩
    rw [hinvocation] at hmap
    obtain ⟨reading, hreading, htask⟩ := ok_of_map hmap.symm
    rw [conduct_of_task host remote world (given_of_readToEnd hreading).2 htask.symm] at hconduct
    cases hload : loadSummary host path with
    | error error =>
      rw [hload] at hconduct
      cases hconduct
    | ok summary =>
      rw [hload] at hconduct
      have hprinted := (List.cons.inj (Conduct.mk.inj hconduct).1).1
      exact ⟨reading, summary, hreading, rfl, (Effect.print.inj hprinted).symm⟩
  · rintro ⟨reading, summary, hreading, hload, rfl⟩
    rw [hreading] at hmap
    obtain ⟨invocation, hinvocation, htask⟩ := ok_of_map hmap
    refine ⟨invocation, hinvocation, ?_⟩
    rw [conduct_of_task host remote world (given_of_readToEnd hreading).2 htask, hload]

/-! ### Filters that are asked for -/

/-- The names of the options that say what is shown. -/
def filterNames : List String := ["browser", "type", "state", "failed", "passed", "critical"]

namespace Reading

/-- What the options select is what each of them selects. -/
theorem selects_filterFor (reading : Reading) (report : Report) :
    (filterFor reading).selects report =
      ((reading.value? "browser").all (fun name => (Filter.browser name).selects report) &&
      ((reading.value? "type").all (fun name => (Filter.validationType name).selects report) &&
      ((reading.value? "state").all (fun name => (Filter.state name).selects report) &&
      ((!reading.has "failed" || (Filter.success false).selects report) &&
      ((!reading.has "passed" || (Filter.success true).selects report) &&
      (!reading.has "critical" || Filter.critical.selects report)))))) := by
  have hvalue : ∀ (value : Option String) (filter : String → Filter),
      (value.map filter).toList.all (·.selects report) =
        value.all fun name => (filter name).selects report := by
    intro value filter
    cases value with
    | none => rfl
    | some name => exact Bool.and_true _
  have hswitch : ∀ (given : Bool) (filter : Filter),
      (if given then [filter] else []).all (·.selects report) =
        (!given || filter.selects report) := by
    intro given filter
    cases given with
    | false => rfl
    | true => exact Bool.and_true _
  rw [filterFor, filterOf, choicesOf]
  simp only [Filter.selects_all, List.all_append, hvalue, hswitch, Bool.and_assoc]

/-- The options of a reading are those of two others, and none is in both. -/
structure Joins (first second both : Reading) (name : String) : Prop where
  /-- An option with a value has it from either of them. -/
  value : both.value? name = (first.value? name).or (second.value? name)
  /-- It is not in both. -/
  once : first.value? name = none ∨ second.value? name = none
  /-- An option without a value is given if either has it. -/
  has : both.has name = (first.has name || second.has name)

/-- A condition on a value holds where it holds in both readings. -/
theorem Joins.all_eq {first second both : Reading} {name : String}
    (joins : Joins first second both name) (condition : String → Bool) :
    (both.value? name).all condition =
      ((first.value? name).all condition && (second.value? name).all condition) := by
  rw [joins.value]
  rcases joins.once with hnone | hnone
  · rw [hnone, Option.none_or]
    rfl
  · rw [hnone, Option.or_none]
    exact (Bool.and_true _).symm

/-- A condition on a switch holds where it holds in both readings. -/
theorem Joins.not_or_eq {first second both : Reading} {name : String}
    (joins : Joins first second both name) (condition : Bool) :
    (!both.has name || condition) =
      ((!first.has name || condition) && (!second.has name || condition)) := by
  rw [joins.has, Bool.not_or, Bool.or_and_distrib_right]

/-- Options that are those of two readings select what is selected for both. -/
theorem selects_of_joins {first second both : Reading}
    (joins : ∀ name ∈ filterNames, Joins first second both name) (report : Report) :
    (filterFor both).selects report =
      ((filterFor first).selects report && (filterFor second).selects report) := by
  rw [selects_filterFor, selects_filterFor, selects_filterFor]
  rw [(joins "browser" (by decide)).all_eq, (joins "type" (by decide)).all_eq,
    (joins "state" (by decide)).all_eq, (joins "failed" (by decide)).not_or_eq,
    (joins "passed" (by decide)).not_or_eq, (joins "critical" (by decide)).not_or_eq]
  ac_rfl

/-- Without an option there is no value of it. -/
theorem value?_eq_none {given : List (String × String)} {name : String}
    (absent : ∀ option ∈ given, option.1 ≠ name) : given.lookup name = none :=
  List.lookup_eq_none_iff.mpr fun option mem => bne_iff_ne.mpr (absent option mem).symm

/-- Flags that are read after others, and alone, make options that join those of the others. -/
theorem joins_of_alongside {first second both : Reading}
    (along : Alongside (summaryLevel pluginNames) first (readingFrom path) both second)
    {name : String} (once : name ≠ "verbose") (own : name ≠ "json") :
    Joins first second both name := by
  obtain ⟨since, hboth, hsecond, hfresh⟩ := along.given
  have hvalue : second.value? name = since.lookup name := by
    have hjson : (readingFrom path).given.lookup name = none :=
      value?_eq_none (List.forall_mem_singleton.mpr own.symm)
    rw [value?, hsecond, List.lookup_append, hjson, Option.none_or]
  have hhas : second.has name = since.any (·.1 == name) := by
    have hjson : (readingFrom path).has name = false := by
      rw [has, readingFrom, List.any_cons, List.any_nil, Bool.or_false]
      exact beq_false_of_ne own.symm
    rw [has_of_given hsecond, hjson, Bool.false_or]
  refine ⟨?_, ?_, ?_⟩
  · rw [hvalue, value?, hboth, List.lookup_append, value?]
  · rw [hvalue]
    cases hfirst : first.has name with
    | true =>
      right
      refine value?_eq_none fun option hmem heq => once ?_
      exact eq_verbose_of_repeats (heq ▸ hfresh option hmem (heq ▸ hfirst))
    | false =>
      left
      refine value?_eq_none fun option hmem heq => ?_
      rw [has, List.any_eq_false] at hfirst
      exact hfirst option hmem (beq_iff_eq.mpr heq)
  · rw [hhas, has_of_given hboth]

/-- Together with the others they select what both select. -/
theorem selects_of_alongside {first second both : Reading}
    (along : Alongside (summaryLevel pluginNames) first (readingFrom path) both second) :
    (filterFor both).selects = fun report =>
      (filterFor first).selects report && (filterFor second).selects report := by
  have hnames : ∀ name ∈ filterNames, name ≠ "verbose" ∧ name ≠ "json" := by decide
  funext report
  exact selects_of_joins (fun name hmem =>
    joins_of_alongside along (hnames name hmem).1 (hnames name hmem).2) report

end Reading

/-! ### Saved again -/

/-- A result that is read has fewer reports than there are words. -/
def Countable (host : Host) (path : String) : Prop :=
  ∀ summary, loadSummary host path = .ok summary → summary.reports.length < wordLimit

/-- A summary that is printed and saved is read again. -/
theorem loadSummary_of_printed {host : Host} {summary : ReportSummary} (words : summary.InWords)
    (saved : host.read path = .ok (summary.prettyText ++ "\n")) :
    loadSummary host path = .ok summary := by
  have hblank : Json.Blanks ['\n'] := List.forall_mem_singleton.mpr rfl
  have hparse : Json.parse (summary.prettyText ++ "\n") = .ok summary.toJson :=
    (words.portable_toJson.mono (by decide)).parse_append_of_mem
      (List.mem_pair.mpr (.inr rfl)) hblank
  rw [loadSummary, saved]
  change ReportSummary.ofText _ = _
  rw [ReportSummary.ofText_of_parse hparse, summary.decode_toJson]
  rfl

/-- Every number in a result that is read is a word. -/
theorem inWords_of_loadSummary {host : Host} (countable : Countable host path)
    {summary : ReportSummary} (loaded : loadSummary host path = .ok summary) :
    summary.InWords := by
  obtain ⟨text, _, htext⟩ := ok_of_bind loaded
  exact ⟨ReportSummary.indices_of_ofText htext, countable summary loaded⟩

section

variable {host later : Host} {remote : Config → Browser World Session} {world : World}
variable {saved : String} (operand : IsOperand path) (later_operand : IsOperand saved)
variable (countable : Countable host path)

include operand later_operand countable

/-- The same flags print the same text again. -/
theorem Prints.again {flags : List String} {text : String}
    (prints : Prints host remote world pluginNames (summaryArguments path flags) text)
    (kept : later.read saved = .ok text) :
    Prints later remote world pluginNames (summaryArguments saved flags) text := by
  obtain ⟨reading, summary, hreading, hload, rfl⟩ := (prints_iff operand).mp prints
  obtain ⟨other, hother, along⟩ := (alongside_readingFrom _ path saved).readToEnd
    (covers_readingFrom path saved) flags reading hreading
  have hgiven : other.given = reading.given := by
    obtain ⟨since, hreading, hother, _⟩ := along.given
    rw [hreading, hother]
    rfl
  have hfilter : filterFor other = filterFor reading := by
    simp only [filterFor, choicesOf, Reading.value?, Reading.has, hgiven]
  have hwords := inWords_of_loadSummary countable hload
  refine (prints_iff later_operand).mpr ⟨other, _, hother,
    loadSummary_of_printed (hwords.filterBy (filterFor reading).selects) kept, ?_⟩
  rw [hfilter, ReportSummary.filterBy_filterBy]
  simp only [Bool.and_self]

/-- Flags after others print what they print together, if they are accepted together. There the second
ones start where the first ones end, and alone they start afresh. -/
theorem Prints.further {first second : List String} {shown : String}
    (prints : Prints host remote world pluginNames (summaryArguments path first) shown)
    (kept : later.read saved = .ok shown)
    (together : (readInvocation Main.sharedOptions pluginNames
      (summaryArguments path (first ++ second))).isOk) :
    ∃ text, Prints host remote world pluginNames (summaryArguments path (first ++ second)) text ∧
      Prints later remote world pluginNames (summaryArguments saved second) text := by
  obtain ⟨reading, summary, hreading, hload, rfl⟩ := (prints_iff operand).mp prints
  obtain ⟨both, hboth⟩ := readToEnd_of_accepted operand together
  have hsecond : readToEnd (summaryLevel pluginNames) second reading = .ok both :=
    Reading.readToEnd_append (alongside_readingFrom _ path path) (covers_readingFrom path path)
      hreading hboth
  obtain ⟨other, hother, along⟩ := (Reading.Alongside.refl (pending_of_readToEnd hreading)
    rfl).readToEnd (covers_of_readToEnd hreading saved) second both hsecond
  have hwords := inWords_of_loadSummary countable hload
  refine ⟨_, (prints_iff operand).mpr ⟨both, summary, hboth, hload, rfl⟩,
    (prints_iff later_operand).mpr ⟨other, _, hother,
      loadSummary_of_printed (hwords.filterBy (filterFor reading).selects) kept, ?_⟩⟩
  rw [ReportSummary.filterBy_filterBy, Reading.selects_of_alongside along]

end

/-- **Filters, views and counts agree.** However filters are ordered, nested and repeated, they
leave the same of a summary, with every group in its place. The views are what the filters for them
leave, and the counts are their lengths, also where they are written. So a command line for a saved
result prints the same text again for its own output, and with further flags what all of them print
together if they are accepted together. -/
theorem summaries_consistent :
    (∀ (summary : ReportSummary) (filters : List Filter), summary.FiltersAgree filters) ∧
    (∀ summary : ReportSummary, summary.ViewsAgree) ∧
    (∀ summary : ReportSummary, summary.CountsAgree) ∧
    ∀ {World Session : Type} (remote : Config → Browser World Session) (world : World)
      (host later : Host) (pluginNames : List String) (path saved : String),
      IsOperand path → IsOperand saved → Countable host path →
      (∀ flags text,
        Prints host remote world pluginNames (summaryArguments path flags) text →
        later.read saved = .ok text →
        Prints later remote world pluginNames (summaryArguments saved flags) text) ∧
      (∀ first second shown,
        Prints host remote world pluginNames (summaryArguments path first) shown →
        later.read saved = .ok shown →
        (readInvocation Main.sharedOptions pluginNames
          (summaryArguments path (first ++ second))).isOk →
        ∃ text,
          Prints host remote world pluginNames (summaryArguments path (first ++ second)) text ∧
          Prints later remote world pluginNames (summaryArguments saved second) text) := by
  refine ⟨ReportSummary.filters_agree, ReportSummary.views_agree, ReportSummary.counts_agree, ?_⟩
  intro World Session remote world host later pluginNames path saved operand later_operand countable
  exact ⟨fun _ _ prints kept => prints.again operand later_operand countable kept,
    fun _ _ _ prints kept together =>
      prints.further operand later_operand countable kept together⟩

/-- A result in which one validation holds, another one does not, and a step failed. -/
def mixed : ReportSummary :=
  ⟨[⟨"Firefox", [.validation ⟨"Firefox", "Title", "page", "Exists", true, none⟩,
      .validation ⟨"Firefox", "Title", "page", "Missing", false, some "it is there"⟩]⟩,
    ⟨"Chrome", [.stepFailure ⟨"Chrome", 0, "Click", "no such element"⟩]⟩]⟩

/-- What is left of it without the successes. -/
def mixedFailures : ReportSummary :=
  ⟨[⟨"Firefox", [.validation ⟨"Firefox", "Title", "page", "Missing", false,
      some "it is there"⟩]⟩,
    ⟨"Chrome", [.stepFailure ⟨"Chrome", 0, "Click", "no such element"⟩]⟩]⟩

/-- A host with a single file that holds a summary. -/
def holding (path : String) (summary : ReportSummary) : Host where
  read asked := if asked = path then .ok (summary.prettyText ++ "\n") else .error Files.missing
  environment := []
  registry := .empty
  colored := false

/-- The failures of a saved result are shown, the same again from what was printed, and the step
failure alone with a further flag. -/
theorem summaries_consistent_mixed :
    Prints (holding "run.json" mixed) (fun _ => Scripted.browser .empty) .empty []
      (summaryArguments "run.json" ["--failed"]) (mixedFailures.prettyText ++ "\n") ∧
    Prints (holding "failed.json" mixedFailures) (fun _ => Scripted.browser .empty) .empty []
      (summaryArguments "failed.json" ["--failed"]) (mixedFailures.prettyText ++ "\n") ∧
    ∃ text,
      Prints (holding "run.json" mixed) (fun _ => Scripted.browser .empty) .empty []
        (summaryArguments "run.json" ["--failed", "--critical"]) text ∧
      Prints (holding "failed.json" mixedFailures) (fun _ => Scripted.browser .empty) .empty []
        (summaryArguments "failed.json" ["--critical"]) text := by
  have hrun : IsOperand "run.json" :=
    ⟨by decide, fun _ _ begins => absurd (List.cons.inj begins).1 (by decide)⟩
  have hfailed : IsOperand "failed.json" :=
    ⟨by decide, fun _ _ begins => absurd (List.cons.inj begins).1 (by decide)⟩
  have hwords : mixed.InWords := by
    refine ⟨?_, by decide⟩
    refine List.forall_mem_cons.mpr ⟨?_, List.forall_mem_cons.mpr ⟨?_,
      List.forall_mem_singleton.mpr ?_⟩⟩
    · rintro _ ⟨⟩
    · rintro _ ⟨⟩
    · rintro _ ⟨⟩
      decide
  have hload : loadSummary (holding "run.json" mixed) "run.json" = .ok mixed :=
    loadSummary_of_printed hwords rfl
  have hcountable : Countable (holding "run.json" mixed) "run.json" := by
    intro summary hsummary
    rw [hload] at hsummary
    cases hsummary
    decide
  have hprints : Prints (holding "run.json" mixed) (fun _ => Scripted.browser .empty) .empty []
      (summaryArguments "run.json" ["--failed"]) (mixedFailures.prettyText ++ "\n") :=
    (prints_iff hrun).mpr ⟨⟨[("json", ""), ("failed", "")], some "run.json", none⟩, mixed, rfl,
      hload, rfl⟩
  have hkept : (holding "failed.json" mixedFailures).read "failed.json" =
      .ok (mixedFailures.prettyText ++ "\n") := rfl
  obtain ⟨hagain, hfurther⟩ := summaries_consistent.2.2.2 (fun _ => Scripted.browser .empty) .empty
    (holding "run.json" mixed) (holding "failed.json" mixedFailures) [] "run.json" "failed.json"
    hrun hfailed hcountable
  exact ⟨hprints, hagain ["--failed"] _ hprints hkept,
    hfurther ["--failed"] ["--critical"] _ hprints hkept rfl⟩

end PageCheck.CommandLine
