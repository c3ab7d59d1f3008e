import PageCheck.Proofs.Browser.Operations

/-!
# What a loaded page still shows of earlier ones

A scripted session keeps the attributes that were set and the text that was typed by the position of
the element. Opening an address and loading a page anew drop what was typed; going back and forward
drop nothing, and attributes are never dropped. The main statement compares a session in which a
page has just been loaded with one that has done nothing but open the same address: it says for each
read exactly when the two answer the same.
-/

namespace PageCheck.Scripted

/-- The commands that read an element. -/
inductive Reads : Command → Prop
  | text (element : Element) : Reads (.text element)
  | displayed (element : Element) : Reads (.displayed element)
  | «attribute» (element : Element) (name : String) : Reads (.attribute element name)
  | property (element : Element) (name : String) : Reads (.property element name)

/-- The commands that load a page in a session: those that open an address or load the page anew,
and those that go to another page of the history. -/
inductive Loads (session : Session) : Command → Prop
  | navigate (url : String) : Loads session (.navigate url)
  | refresh : Loads session .refresh
  | back (moves : session.back.position ≠ session.position) : Loads session .back
  | forward (moves : session.forward.position ≠ session.position) : Loads session .forward

/-- Whether a command takes a page from the history and not from its address. -/
def fromHistory : Command → Bool
  | .back | .forward => true
  | _ => false

/-- The value that an attribute of an element was given last, after one more command. -/
def lastGiven (element : Element) (name : String) (given : Option String) :
    Command → Option String
  | .setAttribute changed which value =>
    if (changed, which) = (element, name) then some value else given
  | _ => given

/-- The text that was typed into an element since an address was opened or a page loaded anew, after
one more command. -/
def typedInto (element : Element) (typed : Option String) : Command → Option String
  | .navigate _ | .refresh => none
  | .clear changed => if changed = element then some "" else typed
  | .sendKeys changed text => if changed = element then some (typed.getD "" ++ text) else typed
  | _ => typed

/-- The reply that commands before the loading of a page make for a read. -/
def leftBehind (commands : List Command) (loading : Command) : (read : Command) → Option read.Reply
  | .attribute element name => (commands.foldl (lastGiven element name) none).map some
  | .property element name =>
    if name = "value" ∧ fromHistory loading then
      (commands.foldl (typedInto element) none).map fun text => some (.string text)
    else none
  | _ => none

/-- A session that has done nothing but open at most one address. -/
inductive Straight (site : Site) (browser : BrowserTarget) : Session → Prop
  | blank : Straight site browser (.fresh browser)
  | opened (address : String) :
    Straight site browser ((Session.fresh browser).navigate site address)

/-- A command is answered the same in two sessions, whatever is in their journals. -/
def AnsweredAlike (site : Site) (first second : Session) (command : Command) : Prop :=
  ∀ before before', (perform site command first before).1 = (perform site command second before').1

namespace Session

/-- An entry that was set is found under its key, and every other one as before. -/
theorem lookup_setEntry {α : Type} [BEq α] [LawfulBEq α] [DecidableEq α] (key other : α)
    (value : String) (entries : List (α × String)) :
    (setEntry key value entries).lookup other =
      if key = other then some value else entries.lookup other := by
  induction entries with
  | nil =>
    by_cases hkey : key = other
    · simp [setEntry, hkey]
    · have hother : (other == key) = false := beq_false_of_ne (Ne.symm hkey)
      simp [setEntry, List.lookup_cons, hother, hkey]
  | cons entry rest ih =>
    obtain ⟨held, old⟩ := entry
    by_cases hheld : held = key
    · subst hheld
      have hset : setEntry held value ((held, old) :: rest) = (held, value) :: rest := by
        simp [setEntry]
      rw [hset, List.lookup_cons, List.lookup_cons]
      by_cases hother : held = other
      · simp [hother]
      · have hdiffer : (other == held) = false := beq_false_of_ne (Ne.symm hother)
        simp [hdiffer, hother]
    · have hset : setEntry key value ((held, old) :: rest) =
          (held, old) :: setEntry key value rest := by
        simp [setEntry, hheld]
      rw [hset, List.lookup_cons, List.lookup_cons, ih]
      by_cases hother : other = held
      · have hkey : key ≠ other := fun h => hheld (hother.symm.trans h.symm)
        simp [hother, Ne.symm hheld]
      · have hdiffer : (other == held) = false := beq_false_of_ne hother
        simp [hdiffer]

variable {site : Site} {session : Session}

/-- A command that returns changes the attributes of an element as it says. -/
theorem attributes_carryOut (element : Element) (name : String) {command : Command}
    {reply : command.Reply} (returned : (session.carryOut site command).1 = .ok reply) :
    (session.carryOut site command).2.attributes.lookup (element, name) =
      lastGiven element name (session.attributes.lookup (element, name)) command := by
  cases command with
  | setAttribute changed which value =>
    dsimp only [carryOut] at returned ⊢
    split at returned
    · exact lookup_setEntry _ _ value session.attributes
    · cases returned
  | «attribute» read which | property read which | clear read | sendKeys read text =>
    dsimp only [carryOut]
    split <;> rfl
  | forward =>
    dsimp only [carryOut, forward]
    split <;> rfl
  | _ => rfl

/-- A command that returns changes what was typed into an element as it says. -/
theorem typed_carryOut (element : Element) {command : Command} {reply : command.Reply}
    (returned : (session.carryOut site command).1 = .ok reply) :
    (session.carryOut site command).2.typed.lookup element =
      typedInto element (session.typed.lookup element) command := by
  cases command with
  | clear changed =>
    dsimp only [carryOut] at returned ⊢
    split at returned
    · exact lookup_setEntry changed element "" session.typed
    · cases returned
  | sendKeys changed text =>
    dsimp only [carryOut] at returned ⊢
    split at returned
    · rw [lookup_setEntry, typedInto]
      split
      next same => rw [same]
      · rfl
    · cases returned
  | setAttribute read which value | «attribute» read which | property read which =>
    dsimp only [carryOut]
    split <;> rfl
  | forward =>
    dsimp only [carryOut, forward]
    split <;> rfl
  | _ => rfl

/-- At the same address every handle stands for the same element. -/
theorem element_of_current (site : Site) {other : Session}
    (here : other.current? = session.current?) (name : Element) :
    other.element site name = session.element site name := by
  have hpage : other.page site = session.page site := by rw [page, page, here]
  rw [element, element, hpage]

end Session

section

variable {site : Site} {browser : BrowserTarget} {plain : Session}

/-- A session that has done nothing but open an address has no attributes set and nothing typed. -/
theorem Straight.unmarked (straight : Straight site browser plain) :
    plain.browser = browser ∧ plain.attributes = [] ∧ plain.typed = [] := by
  cases straight <;> exact ⟨rfl, rfl, rfl⟩

/-- Two sessions of one browser answer a command the same just if a rule spoils it or both make the
same of it. -/
theorem answeredAlike_iff {first second : Session} (same : first.browser = second.browser)
    (command : Command) : AnsweredAlike site first second command ↔
      (spoil site first.browser (Session.entry command).1).isSome ∨
        (first.carryOut site command).1 = (second.carryOut site command).1 := by
  cases hspoil : spoil site first.browser (Session.entry command).1 with
  | some fault =>
    have hspoil' : spoil site second.browser (Session.entry command).1 = some fault := by
      rw [← same, hspoil]
    refine iff_of_true (fun before before' => ?_) (.inl rfl)
    cases fault <;> simp [perform, hspoil, hspoil']
  | none =>
    have hspoil' : spoil site second.browser (Session.entry command).1 = none := by
      rw [← same, hspoil]
    have hanswers : ∀ before before', (perform site command first before).1 =
        (perform site command second before').1 ↔
          (first.carryOut site command).1 = (second.carryOut site command).1 := by
      intro before before'
      rw [perform_of_unspoiled hspoil, perform_of_unspoiled hspoil']
      cases (first.carryOut site command).1 <;> cases (second.carryOut site command).1 <;>
        simp [Attempt.ofResult]
    simp only [Option.isSome_none, Bool.false_eq_true, false_or]
    exact ⟨fun alike => (hanswers .empty .empty).mp (alike .empty .empty),
      fun same before before' => (hanswers before before').mpr same⟩

/-- What a session answers to a read that has the attributes set and the text typed that commands
tell of: the reply that they make for it, and otherwise that of a session that has done nothing but
open the same address. -/
theorem carryOut_read {session : Session} {commands : List Command} {loading : Command}
    (attributes : ∀ element name, session.attributes.lookup (element, name) =
      commands.foldl (lastGiven element name) none)
    (typed : ∀ element, session.typed.lookup element =
      if fromHistory loading then commands.foldl (typedInto element) none else none)
    (straight : Straight site browser plain) (here : plain.current? = session.current?)
    {read : Command} (reads : Reads read) :
    (session.carryOut site read).1 = (match leftBehind commands loading read with
      | some reply => .ok reply
      | none => (plain.carryOut site read).1) := by
  obtain ⟨-, hattributes, htyped⟩ := straight.unmarked
  have helement := Session.element_of_current site here
  cases reads with
  | text element =>
    dsimp only [Session.carryOut, leftBehind]
    rw [helement]
  | displayed element =>
    dsimp only [Session.carryOut, leftBehind]
    rw [helement]
  | «attribute» element name =>
    dsimp only [Session.carryOut, leftBehind]
    rw [attributes element name, hattributes, helement]
    cases commands.foldl (lastGiven element name) none <;> rfl
  | property element name =>
    dsimp only [Session.carryOut, leftBehind]
    rw [typed element, htyped, helement]
    by_cases hname : name = "value"
    · subst hname
      cases fromHistory loading with
      | true =>
        simp only [if_true, and_self]
        cases commands.foldl (typedInto element) none <;> rfl
      | false => simp
    · simp only [hname, false_and, if_false]

end

/-- **What a loaded page still shows.** Let a page be loaded in a session after any operations on
it, and compare it with a session that has done nothing but open the same address. A read is
answered the same in both exactly if a rule spoils it, or the commands before leave no reply behind
for it, or only the one that the page gives by itself. What is left behind are the attributes that
were set at any time, and, if the page was taken from the history, the text that was typed since the
last time that a page was taken from its address. -/
theorem read_afresh_iff {site : Site} {browser : BrowserTarget} {journal : Journal}
    {operations : List Operation} {loading : Command}
    (loads : Loads (after site operations (.fresh browser, journal)).1 loading)
    (returned : ((Operation.command loading).carryOut site
      (after site operations (.fresh browser, journal))).1 = .returned)
    {plain : Session} (straight : Straight site browser plain)
    (here : plain.current? =
      (after site (operations ++ [.command loading]) (.fresh browser, journal)).1.current?)
    {read : Command} (reads : Reads read) :
    AnsweredAlike site
        (after site (operations ++ [.command loading]) (.fresh browser, journal)).1 plain read ↔
      (spoil site browser (Session.entry read).1).isSome ∨
      ∀ reply, leftBehind (completed site operations (.fresh browser, journal)) loading read =
          some reply → (plain.carryOut site read).1 = .ok reply := by
  have hcompleted : completed site (operations ++ [.command loading]) (.fresh browser, journal) =
      completed site operations (.fresh browser, journal) ++ [loading] := by
    rw [completed_append, completed, completed, Operation.completed?, if_pos returned]
    rfl
  have hattributes : ∀ element name, (after site (operations ++ [.command loading])
      (.fresh browser, journal)).1.attributes.lookup (element, name) =
        (completed site operations (.fresh browser, journal)).foldl (lastGiven element name)
          none := by
    intro element name
    rw [told_by_completed site
      (fun session given => session.attributes.lookup (element, name) = given)
      (fun _ _ _ _ tells reply => by rw [Session.attributes_carryOut element name reply, tells])
      (operations ++ [Operation.command loading]) (.fresh browser, journal) rfl, hcompleted,
      List.foldl_append]
    cases loads <;> rfl
  have htyped : ∀ element, (after site (operations ++ [.command loading])
      (.fresh browser, journal)).1.typed.lookup element =
        if fromHistory loading then
          (completed site operations (.fresh browser, journal)).foldl (typedInto element) none
        else none := by
    intro element
    rw [told_by_completed site (fun session typed => session.typed.lookup element = typed)
      (fun _ _ _ _ tells reply => by rw [Session.typed_carryOut element reply, tells])
      (operations ++ [Operation.command loading]) (.fresh browser, journal) rfl, hcompleted,
      List.foldl_append]
    cases loads <;> rfl
  have hbrowser := (journal_after site (operations ++ [.command loading])
    (.fresh browser, journal)).1
  have hread := carryOut_read hattributes htyped straight here reads
  rw [answeredAlike_iff (hbrowser.trans straight.unmarked.1.symm), hbrowser, hread]
  cases leftBehind (completed site operations (.fresh browser, journal)) loading read with
  | none => simp
  | some reply =>
    simp only [Option.some.injEq, forall_eq']
    exact or_congr_right eq_comm

/-- A field into which nothing has been typed. -/
def field : PageElement := ⟨"//input", "", true, [("class", "plain")], [("value", .string "")], 0⟩

/-- A site of two pages, each with the field as its only element. -/
def twoForms : Site where
  pages := [("http://one", [field]), ("http://two", [field])]
  redirects := []
  failingStarts := []
  faults := []

/-- Opening both pages, and typing a name into the field of the second one. -/
def typingOnSecond : List Operation :=
  [.command (.navigate "http://one"), .command (.navigate "http://two"),
    .command (.sendKeys "0" "ada")]

/-- Going back to the first page, its field shows what was typed into that of the second one. -/
theorem read_afresh_iff_typed :
    Loads (after twoForms typingOnSecond (.fresh .firefox, .empty)).1 .back ∧
      ((Operation.command .back).carryOut twoForms
        (after twoForms typingOnSecond (.fresh .firefox, .empty))).1 = .returned ∧
      ((Session.fresh .firefox).navigate twoForms "http://one").current? =
        (after twoForms (typingOnSecond ++ [.command .back]) (.fresh .firefox, .empty)).1.current? ∧
      ¬ AnsweredAlike twoForms
        (after twoForms (typingOnSecond ++ [.command .back]) (.fresh .firefox, .empty)).1
        ((Session.fresh .firefox).navigate twoForms "http://one") (.property "0" "value") := by
  have hloads : Loads (after twoForms typingOnSecond (.fresh .firefox, .empty)).1 .back :=
    .back (by decide)
  have hreturned : ((Operation.command .back).carryOut twoForms
      (after twoForms typingOnSecond (.fresh .firefox, .empty))).1 = .returned := rfl
  have hhere : ((Session.fresh .firefox).navigate twoForms "http://one").current? =
      (after twoForms (typingOnSecond ++ [.command .back])
        (.fresh .firefox, .empty)).1.current? := rfl
  refine ⟨hloads, hreturned, hhere, ?_⟩
  rw [read_afresh_iff hloads hreturned (.opened "http://one") hhere (.property "0" "value")]
  rintro (hspoiled | hshown)
  · cases hspoiled
  · have hplain : (((Session.fresh .firefox).navigate twoForms "http://one").carryOut twoForms
        (.property "0" "value")).1 = .ok (some (.string "")) := rfl
    have htyped := hshown (some (.string "ada")) rfl
    rw [hplain] at htyped
    simp at htyped

/-- Setting an attribute of the field of the first page. -/
def markingFirst : List Operation :=
  [.command (.navigate "http://one"), .command (.setAttribute "0" "class" "wide")]

/-- An attribute that was set on one page is read of the element of another one, and a handle that is
not on the page at all is not stale for it. -/
theorem attribute_left_behind :
    (perform twoForms (.attribute "0" "class")
        (after twoForms (markingFirst ++ [.command (.navigate "http://two")])
          (.fresh .firefox, .empty)).1 .empty).1 = .returned (some "wide") ∧
      (perform twoForms (.attribute "0" "class")
        ((Session.fresh .firefox).navigate twoForms "http://two") .empty).1 =
          .returned (some "plain") ∧
      (perform twoForms (.attribute "0" "class")
        (after twoForms (markingFirst ++ [.command (.navigate "http://none")])
          (.fresh .firefox, .empty)).1 .empty).1 = .returned (some "wide") ∧
      (perform twoForms (.attribute "0" "class")
        ((Session.fresh .firefox).navigate twoForms "http://none") .empty).1 =
          .failed (.session "stale element reference '0'") :=
  ⟨rfl, rfl, rfl, rfl⟩

end PageCheck.Scripted
