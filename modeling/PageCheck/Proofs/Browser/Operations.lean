import PageCheck.Proofs.Browser.Record

/-!
# Operations on scripted sessions

A scripted session is operated on call by call. A call is a command or the end of the session; a
session that was ended can still be asked. What one call does is said once: it writes its line into
the journal, and unless it returns, it leaves the session as it is. Whatever can be told of a
session from the commands that returned, one after the other, can then be told after any sequence
of calls.
-/

namespace PageCheck.Scripted

/-- A call on a session that has started. -/
inductive Operation
  /-- Issuing a command. -/
  | command (issued : Command)
  /-- Ending the session. -/
  | quit
deriving Repr, DecidableEq

/-- A session and the journal that it writes. -/
abbrev Moment := Session × Journal

namespace Session

variable {site : Site} {session : Session} {command : Command}

/-- A command that fails leaves the session as it is. -/
theorem carryOut_of_error {error : Error}
    (failed : (session.carryOut site command).1 = .error error) :
    (session.carryOut site command).2 = session := by
  cases command with
  | navigate | currentUrl | back | forward | refresh | find | addCookie | cookies | deleteCookie
  | deleteAllCookies | setWindowSize => cases failed
  | text | displayed | click | hover => rfl
  | «attribute» element name | property element name =>
    dsimp only [carryOut]
    split <;> rfl
  | setAttribute element name value | clear element | sendKeys element text =>
    dsimp only [carryOut] at failed ⊢
    split at failed
    · cases failed
    · rfl

/-- Commands do not change which browser the session plays. -/
theorem browser_carryOut (site : Site) (session : Session) (command : Command) :
    (session.carryOut site command).2.browser = session.browser := by
  cases command with
  | forward =>
    dsimp only [carryOut, forward]
    split <;> rfl
  | «attribute» element name | property element name | setAttribute element name value
  | clear element | sendKeys element text =>
    dsimp only [carryOut]
    split <;> rfl
  | _ => rfl

end Session

section

variable {site : Site} {command : Command} {session : Session} {journal : Journal}

/-- A command that no rule spoils is carried out. -/
theorem perform_of_unspoiled
    (unspoiled : spoil site session.browser (Session.entry command).1 = none) :
    perform site command session journal = (.ofResult (session.carryOut site command).1,
      (session.carryOut site command).2, journal.write
        (line session.browser (Session.entry command).1 (Session.entry command).2)) := by
  simp only [perform, unspoiled]

/-- A command that a rule spoils ends without a reply and leaves the session as it is. -/
theorem perform_of_spoiled {fault : Fault}
    (spoiled : spoil site session.browser (Session.entry command).1 = some fault) :
    (perform site command session journal).1.ending ≠ .returned ∧
      (perform site command session journal).2 = (session, journal.write
        (line session.browser (Session.entry command).1 (Session.entry command).2)) := by
  cases fault <;> simp [perform, spoiled]

/-- A command returns just if no rule spoils it and it does not fail. -/
theorem returned_iff : (perform site command session journal).1.ending = .returned ↔
    spoil site session.browser (Session.entry command).1 = none ∧
      ∃ reply, (session.carryOut site command).1 = .ok reply := by
  cases hspoil : spoil site session.browser (Session.entry command).1 with
  | some fault => simp [perform_of_spoiled hspoil]
  | none =>
    rw [perform_of_unspoiled hspoil]
    cases (session.carryOut site command).1 <;> simp [Attempt.ofResult]

end

namespace Operation

variable {site : Site}

/-- What the journal calls an operation, and what it adds. -/
def entry : Operation → String × String
  | command issued => Session.entry issued
  | quit => ("quit", "")

/-- How an operation ends, and what it leaves. -/
def carryOut (site : Site) (moment : Moment) : Operation → Ending × Moment
  | command issued =>
    let (attempt, after) := perform site issued moment.1 moment.2
    (attempt.ending, after)
  | quit =>
    let (attempt, journal) := Scripted.quit site moment.1 moment.2
    (attempt.ending, moment.1, journal)

/-- An operation writes exactly one line, however it ends. -/
theorem journal_carryOut (site : Site) (moment : Moment) (operation : Operation) :
    (operation.carryOut site moment).2.2 =
      moment.2.write (line moment.1.browser operation.entry.1 operation.entry.2) := by
  cases operation with
  | command issued =>
    cases hspoil : spoil site moment.1.browser (Session.entry issued).1 with
    | none =>
      dsimp only [carryOut]
      rw [perform_of_unspoiled hspoil]
      rfl
    | some fault =>
      dsimp only [carryOut]
      rw [(perform_of_spoiled hspoil).2]
      rfl
  | quit =>
    dsimp only [carryOut, Scripted.quit]
    split <;> rfl

/-- An operation that does not return leaves the session as it is. -/
theorem session_of_not_returned {moment : Moment} {operation : Operation}
    (refused : (operation.carryOut site moment).1 ≠ .returned) :
    (operation.carryOut site moment).2.1 = moment.1 := by
  cases operation with
  | quit => rfl
  | command issued =>
    dsimp only [carryOut] at refused ⊢
    cases hspoil : spoil site moment.1.browser (Session.entry issued).1 with
    | some fault => rw [(perform_of_spoiled hspoil).2]
    | none =>
      rw [perform_of_unspoiled hspoil] at refused ⊢
      cases hresult : (moment.1.carryOut site issued).1 with
      | ok reply => simp [hresult, Attempt.ofResult] at refused
      | error error => exact Session.carryOut_of_error hresult

/-- A command that returns leaves what carrying it out leaves. -/
theorem session_of_returned {moment : Moment} {issued : Command}
    (returned : ((command issued).carryOut site moment).1 = .returned) :
    ((command issued).carryOut site moment).2.1 = (moment.1.carryOut site issued).2 := by
  dsimp only [carryOut] at returned ⊢
  rw [perform_of_unspoiled (returned_iff.mp returned).1]

/-- Operations do not change which browser the session plays. -/
theorem browser_session (site : Site) (moment : Moment) (operation : Operation) :
    (operation.carryOut site moment).2.1.browser = moment.1.browser := by
  by_cases hreturned : (operation.carryOut site moment).1 = .returned
  · cases operation with
    | quit => rfl
    | command issued =>
      rw [session_of_returned hreturned]
      exact Session.browser_carryOut site moment.1 issued
  · rw [session_of_not_returned hreturned]

end Operation

/-- What operations leave, one after the other. -/
def after (site : Site) (operations : List Operation) (moment : Moment) : Moment :=
  operations.foldl (fun reached operation => (operation.carryOut site reached).2) moment

/-- The command that an operation issues, if it returns. -/
def Operation.completed? (site : Site) (moment : Moment) : Operation → Option Command
  | command issued =>
    if ((command issued).carryOut site moment).1 = .returned then some issued else none
  | quit => none

/-- The commands among operations that return, in order. -/
def completed (site : Site) : List Operation → Moment → List Command
  | [], _ => []
  | operation :: rest, moment =>
    (operation.completed? site moment).toList ++
      completed site rest (operation.carryOut site moment).2

variable {site : Site} {moment : Moment}

@[simp] theorem after_nil : after site [] moment = moment := rfl

@[simp] theorem after_cons (operation : Operation) (rest : List Operation) :
    after site (operation :: rest) moment =
      after site rest (operation.carryOut site moment).2 := rfl

/-- The commands that return among operations after others. -/
theorem completed_append (first second : List Operation) (moment : Moment) :
    completed site (first ++ second) moment =
      completed site first moment ++ completed site second (after site first moment) := by
  induction first generalizing moment with
  | nil => rfl
  | cons operation rest ih =>
    rw [List.cons_append, completed, completed, ih, after_cons, List.append_assoc]

/-- A command that returns has been carried out; every other operation leaves the session as it
is. -/
theorem Operation.session_carryOut (site : Site) (moment : Moment) (operation : Operation) :
    (operation.completed? site moment = none ∧
      (operation.carryOut site moment).2.1 = moment.1) ∨
    ∃ issued reply, operation.completed? site moment = some issued ∧
      (moment.1.carryOut site issued).1 = .ok reply ∧
      (operation.carryOut site moment).2.1 = (moment.1.carryOut site issued).2 := by
  cases operation with
  | quit => exact .inl ⟨rfl, rfl⟩
  | command issued =>
    by_cases hreturned : ((command issued).carryOut site moment).1 = .returned
    · obtain ⟨-, reply, hreply⟩ := returned_iff.mp hreturned
      exact .inr ⟨issued, reply, if_pos hreturned, hreply, session_of_returned hreturned⟩
    · exact .inl ⟨if_neg hreturned, session_of_not_returned hreturned⟩

/-- Every operation of a sequence writes one line, in order, and none of them changes which browser
the session plays. -/
theorem journal_after (site : Site) (operations : List Operation) (moment : Moment) :
    (after site operations moment).1.browser = moment.1.browser ∧
      (after site operations moment).2.lines = moment.2.lines ++ (operations.map fun operation =>
        line moment.1.browser operation.entry.1 operation.entry.2).toArray := by
  induction operations generalizing moment with
  | nil => simp
  | cons operation rest ih =>
    obtain ⟨hbrowser, hlines⟩ := ih (operation.carryOut site moment).2
    have hsame := operation.browser_session site moment
    have hline := operation.journal_carryOut site moment
    constructor
    · rw [after_cons, hbrowser, hsame]
    · rw [after_cons, hlines, hsame, hline]
      simp [Journal.write]

/-- **What the commands that returned tell of a session.** A relation between sessions and values
that every command that returns takes to the next value still holds after any sequence of
operations, whatever rules spoil some of them. -/
theorem told_by_completed {α : Type} (site : Site) (tells : Session → α → Prop)
    {next : α → Command → α}
    (step : ∀ session value command reply, tells session value →
      (session.carryOut site command).1 = .ok reply →
      tells (session.carryOut site command).2 (next value command))
    (operations : List Operation) (moment : Moment) {value : α} (start : tells moment.1 value) :
    tells (after site operations moment).1
      ((completed site operations moment).foldl next value) := by
  induction operations generalizing moment value with
  | nil => exact start
  | cons operation rest ih =>
    rw [completed, after_cons, List.foldl_append]
    obtain ⟨hnone, hsession⟩ | ⟨issued, reply, hissued, hreply, hsession⟩ :=
      operation.session_carryOut site moment
    · rw [hnone]
      refine ih _ ?_
      rw [hsession]
      exact start
    · rw [hissued]
      refine ih _ ?_
      rw [hsession]
      exact step moment.1 value issued reply start hreply

end PageCheck.Scripted
