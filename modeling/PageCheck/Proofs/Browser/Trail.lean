import PageCheck.Proofs.Browser.Operations
import PageCheck.Proofs.Fallible

/-!
# The history of a scripted session

A scripted session keeps the addresses that were opened in one list, with the position of the
current one. The history as one knows it is what lies behind the current page, that page, and what
lies ahead: opening a page drops what lay ahead, and at either end going on does nothing. The main
statement says that after every sequence of calls, whatever rules spoil some of them, the session is
at the page of the history that the commands which no rule spoils have made, that every call has
written one line, and that a call that does not return has changed nothing. A call returns unless a
rule spoils it or it asks an element that is not on the page for something that only the page can
tell.
-/

namespace PageCheck.Scripted

/-- The history of a browser as one knows it. -/
inductive Trail
  /-- Nothing has been opened. -/
  | blank
  /-- A page is open, with what lies behind it and ahead of it, nearest first. -/
  | page (behind : List String) (current : String) (ahead : List String)
deriving Repr, DecidableEq

namespace Trail

/-- Open a page. What lay ahead is dropped. -/
def visit (url : String) : Trail → Trail
  | blank => page [] url []
  | page behind current _ => page (current :: behind) url []

/-- Go back, unless nothing lies behind. -/
def back : Trail → Trail
  | page (last :: behind) current ahead => page behind last (current :: ahead)
  | trail => trail

/-- Go forward, unless nothing lies ahead. -/
def forward : Trail → Trail
  | page behind current (next :: ahead) => page (current :: behind) next ahead
  | trail => trail

/-- The address of the page that is open. -/
def url? : Trail → Option String
  | blank => none
  | page _ current _ => some current

/-- What a command does to the history. An address is opened where it leads. -/
def follow (site : Site) (trail : Trail) : Command → Trail
  | .navigate url => trail.visit ((site.redirects.lookup url).getD url)
  | .back => trail.back
  | .forward => trail.forward
  | _ => trail

end Trail

namespace Session

/-- The addresses and the position of a session are those of a history. -/
inductive Follows (session : Session) : Trail → Prop
  /-- Nothing has been opened. -/
  | blank (empty : session.history = []) (start : session.position = 0) : Follows session .blank
  /-- The current page stands after all that lies behind it. -/
  | page {behind : List String} {current : String} {ahead : List String}
    (history : session.history = behind.reverse ++ current :: ahead)
    (position : session.position = behind.length) :
    Follows session (.page behind current ahead)

variable {site : Site} {session : Session} {trail : Trail}

/-- A session at a page of a history has it as its current one. -/
theorem Follows.current? (follows : session.Follows trail) : session.current? = trail.url? := by
  cases follows with
  | blank empty start => simp [Session.current?, Trail.url?, empty]
  | page history position => simp [Session.current?, Trail.url?, history, position]

/-- The position is one of the history, unless there is none. -/
theorem Follows.inside (follows : session.Follows trail) :
    session.position < session.history.length ∨ session.history = [] ∧ session.position = 0 := by
  cases follows with
  | blank empty start => exact .inr ⟨empty, start⟩
  | page history position =>
    left
    rw [history, position, List.length_append, List.length_reverse, List.length_cons]
    omega

/-- Opening an address in a session opens the page that it leads to. -/
theorem Follows.navigate (follows : session.Follows trail) (url : String) :
    (session.navigate site url).Follows
      (trail.visit ((site.redirects.lookup url).getD url)) := by
  cases follows with
  | blank empty start =>
    refine .page ?_ ?_
    · simp [Session.navigate, empty]
    · simp [Session.navigate, empty]
  | @page behind current ahead history position =>
    have hkept : session.history.take (session.position + 1) = (current :: behind).reverse := by
      have hsplit : session.history = (current :: behind).reverse ++ ahead := by
        rw [history, List.reverse_cons, List.append_assoc, List.singleton_append]
      have hlength : session.position + 1 = (current :: behind).reverse.length := by
        rw [position, List.length_reverse, List.length_cons]
      rw [hsplit, hlength, List.take_left]
    refine .page ?_ ?_
    · simp only [Session.navigate, hkept]
    · simp [Session.navigate, hkept]

/-- Going back in a session goes back in the history. -/
theorem Follows.back (follows : session.Follows trail) : session.back.Follows trail.back := by
  cases follows with
  | blank empty start => exact .blank empty (by simp [Session.back, start])
  | @page behind current ahead history position =>
    cases behind with
    | nil => exact .page history (by simp [Session.back, position])
    | cons last behind =>
      refine .page ?_ ?_
      · simp [Session.back, history]
      · simp [Session.back, position]

/-- Going forward in a session goes forward in the history. -/
theorem Follows.forward (follows : session.Follows trail) :
    session.forward.Follows trail.forward := by
  cases follows with
  | blank empty start =>
    have hend : ¬ session.position + 1 < session.history.length := by simp [empty]
    rw [Session.forward, if_neg hend]
    exact .blank empty start
  | @page behind current ahead history position =>
    have hlength : session.history.length = behind.length + 1 + ahead.length := by
      rw [history, List.length_append, List.length_reverse, List.length_cons]
      omega
    cases ahead with
    | nil =>
      have hend : ¬ session.position + 1 < session.history.length := by
        rw [hlength, position, List.length_nil]
        omega
      rw [Session.forward, if_neg hend]
      exact .page history position
    | cons next ahead =>
      have hmore : session.position + 1 < session.history.length := by
        rw [hlength, position, List.length_cons]
        omega
      rw [Session.forward, if_pos hmore]
      refine .page ?_ ?_
      · simp [history]
      · simp [position]

/-- A session with the same addresses at the same position is at the same page. -/
theorem Follows.of_same {other : Session} (follows : session.Follows trail)
    (history : other.history = session.history) (position : other.position = session.position) :
    other.Follows trail := by
  cases follows with
  | blank empty start => exact .blank (history.trans empty) (position.trans start)
  | page kept placed => exact .page (history.trans kept) (position.trans placed)

/-- Carrying out a command takes the session to the page to which the command takes the history. -/
theorem Follows.carryOut (follows : session.Follows trail) (command : Command) :
    (session.carryOut site command).2.Follows (trail.follow site command) := by
  cases command with
  | navigate url => exact follows.navigate url
  | back => exact follows.back
  | forward => exact follows.forward
  | «attribute» element name | property element name | setAttribute element name value
  | clear element | sendKeys element text =>
    dsimp only [Session.carryOut]
    split <;> exact follows.of_same rfl rfl
  | _ => exact follows.of_same rfl rfl

end Session

/-! ### Calls that are spoiled -/

/-- A rule spoils the calls of a browser that have a name. -/
def FaultRule.Spoils (rule : FaultRule) (browser : BrowserTarget) (name : String) : Prop :=
  rule.operation = name ∧ ∀ only ∈ rule.browser, Unicode.lower only = Unicode.lower browser.name

instance (rule : FaultRule) (browser : BrowserTarget) (name : String) :
    Decidable (rule.Spoils browser name) :=
  inferInstanceAs (Decidable (_ ∧ _))

/-- A rule of the site spoils an operation of a browser. -/
def Operation.Spoiled (site : Site) (browser : BrowserTarget) (operation : Operation) : Prop :=
  ∃ rule ∈ site.faults, rule.Spoils browser operation.entry.1

instance (site : Site) (browser : BrowserTarget) (operation : Operation) :
    Decidable (operation.Spoiled site browser) :=
  inferInstanceAs (Decidable (∃ rule ∈ site.faults, _))

/-- The commands among operations that no rule spoils, in order. -/
def unspoiled (site : Site) (browser : BrowserTarget) (operations : List Operation) :
    List Command :=
  operations.filterMap fun
    | .command issued =>
      if (Operation.command issued).Spoiled site browser then none else some issued
    | .quit => none

theorem unspoiled_cons_command {site : Site} {browser : BrowserTarget} {issued : Command}
    {rest : List Operation} :
    unspoiled site browser (.command issued :: rest) =
      if (Operation.command issued).Spoiled site browser then unspoiled site browser rest
      else issued :: unspoiled site browser rest := by
  split
  next hspoiled => exact List.filterMap_cons_none (if_pos hspoiled)
  next hunspoiled => exact List.filterMap_cons_some (if_neg hunspoiled)

theorem spoil_eq_none_iff {site : Site} {browser : BrowserTarget} (operation : Operation) :
    spoil site browser operation.entry.1 = none ↔ ¬ operation.Spoiled site browser := by
  simp only [spoil, Option.map_eq_none_iff, List.find?_eq_none, Operation.Spoiled,
    FaultRule.Spoils, Option.mem_def]
  constructor
  · rintro hnone ⟨rule, hrule, hname, honly⟩
    refine hnone rule hrule ?_
    cases hbrowser : rule.browser <;> simp_all
  · intro hnone rule hrule hspoils
    refine hnone ⟨rule, hrule, ?_⟩
    cases hbrowser : rule.browser <;> simp_all

/-! ### Calls that return -/

/-- The element that a command is about. -/
def subject? : Command → Option Element
  | .text element | .displayed element | .attribute element _ | .property element _
  | .setAttribute element _ _ | .click element | .hover element | .clear element
  | .sendKeys element _ => some element
  | _ => none

namespace Session

/-- An element is on the current page: its name is the position of one. -/
def Shows (site : Site) (session : Session) (element : Element) : Prop :=
  ∃ position found, Decimal.word? element.toList = some position ∧
    (session.page site)[position]? = some found

/-- The session has the answer to a question about an element from an earlier command, which gave
the element this attribute or typed into it. -/
def Remembers (session : Session) : Command → Prop
  | .attribute element name => ∃ value, session.attributes.lookup (element, name) = some value
  | .property element name => name = "value" ∧ ∃ text, session.typed.lookup element = some text
  | _ => False

variable {site : Site} {session : Session}

theorem element_ok_iff {name : Element} :
    (∃ found, session.element site name = .ok found) ↔ session.Shows site name := by
  rw [Session.element, Shows]
  cases hword : Decimal.word? name.toList with
  | none => simp
  | some position => cases hfound : (session.page site)[position]? <;> simp [hfound]

/-- A command succeeds if the element that it is about is on the page, or if the answer is known
without it. -/
theorem carryOut_ok_iff {command : Command} :
    (∃ reply, (session.carryOut site command).1 = .ok reply) ↔
      session.Remembers command ∨ ∀ element ∈ subject? command, session.Shows site element := by
  have hpage : ∀ {α : Type} {element : Element} {answer : PageElement → α},
      (∃ reply, (session.element site element).map answer = .ok reply) ↔
        session.Shows site element := by
    intro α element answer
    rw [exists_map_eq_ok_iff, element_ok_iff]
  have honly : ∀ element, (∀ other ∈ some element, session.Shows site other) ↔
      session.Shows site element := by simp
  cases command with
  | text element | displayed element | click element | hover element =>
    simp only [subject?, Remembers, false_or, honly]
    exact hpage
  | «attribute» element name =>
    simp only [subject?, Remembers, honly]
    dsimp only [Session.carryOut]
    cases session.attributes.lookup (element, name) with
    | some value => simp
    | none => simpa using hpage
  | property element name =>
    simp only [subject?, Remembers, honly]
    dsimp only [Session.carryOut]
    by_cases hvalue : name = "value"
    · cases htyped : session.typed.lookup element with
      | some text => simp [hvalue]
      | none => simpa [hvalue, htyped] using hpage
    · simpa [hvalue] using hpage
  | setAttribute element name value | clear element | sendKeys element text =>
    simp only [subject?, Remembers, false_or, honly]
    rw [← element_ok_iff]
    dsimp only [Session.carryOut]
    split <;> simp [*]
  | _ => simp [subject?, Session.carryOut]

end Session

namespace Operation

variable {site : Site} {moment : Moment}

/-- The session can answer an operation: it knows the element that a command is about, or it needs
none. -/
def Answerable (site : Site) (session : Session) : Operation → Prop
  | command issued =>
    session.Remembers issued ∨ ∀ element ∈ subject? issued, session.Shows site element
  | quit => True

/-- An operation returns just if no rule spoils it and the session can answer it. -/
theorem returns_iff {operation : Operation} :
    (operation.carryOut site moment).1 = .returned ↔
      ¬ operation.Spoiled site moment.1.browser ∧ operation.Answerable site moment.1 := by
  rw [← spoil_eq_none_iff]
  cases operation with
  | command issued => exact returned_iff.trans (and_congr_right' Session.carryOut_ok_iff)
  | quit =>
    have hname : Operation.quit.entry.1 = "quit" := rfl
    rw [hname]
    dsimp only [carryOut, Scripted.quit]
    cases spoil site moment.1.browser "quit" with
    | none => simp [Answerable]
    | some fault => cases fault <;> simp

end Operation

/-! ### Sequences of calls -/

/-- The history that commands make of another one. -/
def Trail.along (site : Site) (commands : List Command) (trail : Trail) : Trail :=
  commands.foldl (Trail.follow site) trail

/-- A session goes along with the history that the commands make which no rule spoils. -/
theorem Session.Follows.after {site : Site} {browser : BrowserTarget} {operations : List Operation}
    (moment : Moment) {trail : Trail} (plays : moment.1.browser = browser)
    (follows : moment.1.Follows trail) :
    (after site operations moment).1.Follows
      (trail.along site (unspoiled site browser operations)) := by
  induction operations generalizing moment trail with
  | nil => exact follows
  | cons operation rest ih =>
    have hplays := (operation.browser_session site moment).trans plays
    rw [after_cons]
    cases operation with
    | quit => exact ih _ hplays follows
    | command issued =>
      have hspoil : spoil site moment.1.browser (Session.entry issued).1 = none ↔
          ¬ (Operation.command issued).Spoiled site browser := by
        rw [plays]
        exact spoil_eq_none_iff (.command issued)
      rw [unspoiled_cons_command]
      split
      next hspoiled =>
        obtain ⟨fault, hfault⟩ := Option.ne_none_iff_exists'.mp fun hnone =>
          hspoil.mp hnone hspoiled
        refine ih _ hplays ?_
        dsimp only [Operation.carryOut]
        rw [(perform_of_spoiled hfault).2]
        exact follows
      next hunspoiled =>
        refine ih _ hplays ?_
        dsimp only [Operation.carryOut]
        rw [perform_of_unspoiled (hspoil.mpr hunspoiled)]
        exact follows.carryOut issued

/-- What is known of a session that operations were carried out on since it started. -/
structure Browsed (site : Site) (start : Moment) (operations : List Operation) : Prop where
  /-- The current page is that of the history which the commands have made that no rule spoils. -/
  current : (after site operations start).1.current? =
    (Trail.blank.along site (unspoiled site start.1.browser operations)).url?
  /-- Unless a rule spoils the question, the session tells the address of that page. -/
  told : ¬ (Operation.command .currentUrl).Spoiled site start.1.browser →
    (perform site .currentUrl (after site operations start).1 (after site operations start).2).1 =
      .returned ((Trail.blank.along site
        (unspoiled site start.1.browser operations)).url?.getD "about:blank")
  /-- The position is inside the addresses, unless nothing was opened. -/
  inside : (after site operations start).1.position <
      (after site operations start).1.history.length ∨
    (after site operations start).1.history = [] ∧ (after site operations start).1.position = 0
  /-- Every operation has written one line, however it ended. -/
  written : (after site operations start).2.lines =
    start.2.lines ++ (operations.map fun operation =>
      line start.1.browser operation.entry.1 operation.entry.2).toArray
  /-- Another operation returns just if no rule spoils it and the session can answer it. -/
  returns : ∀ operation : Operation,
    (operation.carryOut site (after site operations start)).1 = .returned ↔
      ¬ operation.Spoiled site start.1.browser ∧
        operation.Answerable site (after site operations start).1
  /-- One that does not return changes nothing in the session. -/
  kept : ∀ operation : Operation,
    (operation.carryOut site (after site operations start)).1 ≠ .returned →
    (operation.carryOut site (after site operations start)).2.1 = (after site operations start).1

/-- **A scripted session keeps a browser history.** After every sequence of operations on a session
that has just started, with every set of rules that spoil operations, the current page is that of
the history in which opening a page drops what lay ahead and going on at either end does nothing;
the position stays inside; every operation writes exactly one line; an operation returns unless a
rule spoils it or the element that it asks is not on the page; and an operation that does not return
leaves the addresses, the position, the number of look-ups, the cookies, what was typed and the
attributes as they were. -/
theorem browsed (site : Site) (browser : BrowserTarget) (journal : Journal)
    (operations : List Operation) : Browsed site (.fresh browser, journal) operations := by
  have hstart : (Session.fresh browser).Follows .blank := .blank rfl rfl
  have hfollows : (after site operations (.fresh browser, journal)).1.Follows
      (Trail.blank.along site (unspoiled site browser operations)) :=
    Session.Follows.after (.fresh browser, journal) rfl hstart
  obtain ⟨hbrowser, hlines⟩ := journal_after site operations (.fresh browser, journal)
  refine ⟨hfollows.current?, fun hunspoiled => ?_, hfollows.inside, hlines, fun operation => ?_,
    fun operation => Operation.session_of_not_returned⟩
  · have hspoil : spoil site (after site operations (.fresh browser, journal)).1.browser
        (Session.entry .currentUrl).1 = none := by
      rw [hbrowser]
      exact (spoil_eq_none_iff _).mpr hunspoiled
    rw [perform_of_unspoiled hspoil]
    exact congrArg (fun url => Attempt.returned (url.getD "about:blank")) hfollows.current?
  · rw [Operation.returns_iff, hbrowser]

/-- A site at which one address leads to another, and at which Firefox cannot go back. -/
def oneWay : Site where
  pages := []
  redirects := [("/old", "/new")]
  failingStarts := []
  faults := [⟨some "firefox", "back", .error "stuck"⟩]

/-- Opening a page that leads elsewhere, going back twice and opening another page. -/
def wandering : List Operation :=
  [.command (.navigate "/"), .command (.navigate "/old"), .command .back, .command .back,
    .command .forward, .command (.navigate "/about"), .command .back]

/-- Where Firefox cannot go back, it stays on the page that it opened last. Chrome can, and it is
back on the page that it went forward to. -/
theorem browsed_wandering :
    (after oneWay wandering (.fresh .firefox, .empty)).1.current? = some "/about" ∧
      (after oneWay wandering (.fresh .chrome, .empty)).1.current? = some "/new" ∧
      ((Operation.command .back).carryOut oneWay
        (after oneWay wandering (.fresh .firefox, .empty))).1 ≠ .returned ∧
      ((Operation.command .back).carryOut oneWay
        (after oneWay wandering (.fresh .chrome, .empty))).1 = .returned := by
  have hfirefox := browsed oneWay .firefox .empty wandering
  have hchrome := browsed oneWay .chrome .empty wandering
  refine ⟨hfirefox.current.trans ?_, hchrome.current.trans ?_, ?_, (hchrome.returns _).mpr ?_⟩
  · decide +kernel
  · decide +kernel
  · intro hreturned
    have hunspoiled := ((hfirefox.returns _).mp hreturned).1
    exact hunspoiled (by decide +kernel)
  · refine ⟨by decide +kernel, .inr ?_⟩
    rintro _ ⟨⟩

end PageCheck.Scripted
