import PageCheck.Browser.Command
import PageCheck.Decimal.Reading
import PageCheck.Unicode.Casing

/-!
# Scripted browsers

A scripted browser serves a fixed set of pages from memory. A page is a list of elements, found by
their exact selector whatever the strategy. Every call writes a line into a journal that outlives
the sessions, before it does anything else; rules can make a call fail or give up at that point.
An element is known by its position on the current page.
-/

namespace PageCheck.Scripted

open Decimal (word?)

/-- An element of a scripted page. -/
structure PageElement where
  /-- The selector by which it is found. -/
  selector : String
  /-- Its text. -/
  text : String
  /-- Whether it can be seen. -/
  visible : Bool
  /-- Its attributes. -/
  attributes : List (String × String)
  /-- Its properties; null counts as absent. -/
  properties : Members
  /-- The number of look-ups of the session before it is found. -/
  appearsAfter : Nat
deriving Repr

/-- What a rule does to a call. -/
inductive Fault
  | error (message : String)
  | panic (message : String)
deriving Repr

/-- A rule that spoils an operation. -/
structure FaultRule where
  /-- The only browser it applies to, if there is one. -/
  browser : Option String
  /-- The operation it applies to. -/
  operation : String
  /-- What it does. -/
  fault : Fault
deriving Repr

/-- What scripted sessions serve and how they are spoiled. -/
structure Site where
  /-- The elements of each address. -/
  pages : List (String × List PageElement)
  /-- Where addresses lead instead of to themselves. -/
  redirects : List (String × String)
  /-- The browsers that do not start. -/
  failingStarts : List String
  /-- The rules, of which the first that applies counts. -/
  faults : List FaultRule
deriving Repr

/-- A site without pages. -/
def Site.empty : Site := ⟨[], [], [], []⟩

/-- What outlives scripted sessions. -/
structure Journal where
  /-- One line for each call. -/
  lines : Array String
  /-- The milliseconds that have passed. -/
  elapsed : Nat
deriving Repr

namespace Journal

/-- A journal in which nothing has happened. -/
def empty : Journal := ⟨#[], 0⟩

/-- Write a line. -/
def write (journal : Journal) (line : String) : Journal :=
  { journal with lines := journal.lines.push line }

/-- The number of lines about an operation of a browser. -/
def count (journal : Journal) (browser operation : String) : Nat :=
  let beginning := browser ++ " " ++ operation
  (journal.lines.toList.filter fun line =>
    line == beginning || (beginning ++ " ").isPrefixOf line).length

end Journal

/-- A scripted session. -/
structure Session where
  /-- The browser that it plays. -/
  browser : BrowserTarget
  /-- The addresses that were opened. -/
  history : List String
  /-- The position of the current one. -/
  position : Nat
  /-- The number of look-ups so far. -/
  lookups : Nat
  /-- The cookies, oldest first. -/
  cookies : List Cookie
  /-- What was typed into elements since the page was loaded. -/
  typed : List (Element × String)
  /-- The attributes that were set, by element and name. -/
  attributes : List ((Element × String) × String)
deriving Repr

namespace Session

/-- A session that has just started. -/
def fresh (browser : BrowserTarget) : Session := ⟨browser, [], 0, 0, [], [], []⟩

/-- The current address. -/
def current? (session : Session) : Option String := session.history[session.position]?

/-- The elements of the current page. -/
def page (site : Site) (session : Session) : List PageElement :=
  match session.current? with
  | some url => (site.pages.lookup url).getD []
  | none => []

/-- The element that a name stands for on the current page. -/
def element (site : Site) (session : Session) (name : Element) : Result PageElement :=
  match do (session.page site)[(← word? name.toList)]? with
  | some element => .ok element
  | none => .error (.session ("stale element reference '" ++ name ++ "'"))

/-- Open an address: what lay ahead in the history is dropped. -/
def navigate (site : Site) (url : String) (session : Session) : Session :=
  let landed := (site.redirects.lookup url).getD url
  let history := session.history.take (session.position + 1) ++ [landed]
  { session with history, position := history.length - 1, typed := [] }

/-- Go back, unless there is nothing behind. -/
def back (session : Session) : Session := { session with position := session.position - 1 }

/-- Go forward, unless there is nothing ahead. -/
def forward (session : Session) : Session :=
  if session.position + 1 < session.history.length then
    { session with position := session.position + 1 }
  else session

/-- The positions of the elements with a property, the first of which is at `position`. -/
def positionsFrom (property : PageElement → Bool) : Nat → List PageElement → List Nat
  | _, [] => []
  | position, element :: rest =>
    let others := positionsFrom property (position + 1) rest
    if property element then position :: others else others

/-- The elements that a selector finds, this being the look-up number `lookups`. -/
def find (selector : String) (lookups : Nat) (elements : List PageElement) : List Element :=
  (positionsFrom (fun element =>
    element.selector == selector && element.appearsAfter < lookups) 0 elements).map toString

/-- Set the entry of a key: in place if it is there, as a new last one otherwise. -/
def setEntry {α : Type} [BEq α] (key : α) (value : String) :
    List (α × String) → List (α × String)
  | [] => [(key, value)]
  | (k, old) :: rest => if k == key then (k, value) :: rest else (k, old) :: setEntry key value rest

/-- Add a cookie in place of the one of the same name. -/
def addCookie (cookie : Cookie) (cookies : List Cookie) : List Cookie :=
  cookies.filter (·.name != cookie.name) ++ [cookie]

/-- What the journal calls a command, and what it adds. -/
def entry : Command → String × String
  | .navigate url => ("navigate", url)
  | .currentUrl => ("current_url", "")
  | .back => ("back", "")
  | .forward => ("forward", "")
  | .refresh => ("refresh", "")
  | .find locator => ("find", locator.selector)
  | .text element => ("text", element)
  | .displayed element => ("displayed", element)
  | .attribute _ name => ("attribute", name)
  | .property _ name => ("property", name)
  | .setAttribute _ name value => ("set_attribute", name ++ "=" ++ value)
  | .click element => ("click", element)
  | .hover element => ("hover", element)
  | .clear element => ("clear", element)
  | .sendKeys _ text => ("send_keys", text)
  | .addCookie cookie => ("add_cookie", cookie.name)
  | .cookies => ("cookies", "")
  | .deleteCookie name => ("delete_cookie", name)
  | .deleteAllCookies => ("delete_all_cookies", "")
  | .setWindowSize width height => ("set_window_size", toString width ++ "x" ++ toString height)

/-- What a command does once it is written down and no rule spoils it. -/
def carryOut (site : Site) (session : Session) :
    (command : Command) → Result command.Reply × Session
  | .navigate url => (.ok (), session.navigate site url)
  | .currentUrl => (.ok (session.current?.getD "about:blank"), session)
  | .back => (.ok (), session.back)
  | .forward => (.ok (), session.forward)
  | .refresh => (.ok (), { session with typed := [] })
  | .find locator =>
    let lookups := session.lookups + 1
    (.ok (find locator.selector lookups (session.page site)), { session with lookups })
  | .text element => ((session.element site element).map (·.text), session)
  | .displayed element => ((session.element site element).map (·.visible), session)
  | .attribute element name =>
    match session.attributes.lookup (element, name) with
    | some value => (.ok (some value), session)
    | none => ((session.element site element).map (·.attributes.lookup name), session)
  | .property element name =>
    match if name = "value" then session.typed.lookup element else none with
    | some text => (.ok (some (.string text)), session)
    | none => ((session.element site element).map fun found =>
        (Members.get? name found.properties).filter (!·.isNull), session)
  | .setAttribute element name value =>
    match session.element site element with
    | .ok _ =>
      (.ok (), { session with attributes := setEntry (element, name) value session.attributes })
    | .error error => (.error error, session)
  | .click element => ((session.element site element).map fun _ => (), session)
  | .hover element => ((session.element site element).map fun _ => (), session)
  | .clear element =>
    match session.element site element with
    | .ok _ => (.ok (), { session with typed := setEntry element "" session.typed })
    | .error error => (.error error, session)
  | .sendKeys element text =>
    match session.element site element with
    | .ok _ =>
      let typed := (session.typed.lookup element).getD "" ++ text
      (.ok (), { session with typed := setEntry element typed session.typed })
    | .error error => (.error error, session)
  | .addCookie cookie => (.ok (), { session with cookies := addCookie cookie session.cookies })
  | .cookies => (.ok session.cookies, session)
  | .deleteCookie name =>
    (.ok (), { session with cookies := session.cookies.filter (·.name != name) })
  | .deleteAllCookies => (.ok (), { session with cookies := [] })
  | .setWindowSize _ _ => (.ok (), session)

end Session

/-- The line that a call writes. -/
def line (browser : BrowserTarget) (operation detail : String) : String :=
  if detail.isEmpty then browser.name ++ " " ++ operation
  else browser.name ++ " " ++ operation ++ " " ++ detail

/-- What the rules make of a call. -/
def spoil (site : Site) (browser : BrowserTarget) (operation : String) : Option Fault :=
  let name := Unicode.lower browser.name
  (site.faults.find? fun rule =>
    rule.operation == operation && (match rule.browser with
      | some only => Unicode.lower only == name
      | none => true)).map (·.fault)

/-- Start a session. -/
def start (site : Site) (browser : BrowserTarget) (options : RunOptions) (journal : Journal) :
    Attempt Session × Journal :=
  let name := Unicode.lower browser.name
  if site.failingStarts.any (Unicode.lower · == name) then
    (.failed (.sessionStart browser.name "scripted start failure"),
      journal.write (browser.name ++ " start-failed"))
  else
    (.returned (.fresh browser), journal.write (browser.name ++ " start headless=" ++
      (if options.headless then "true" else "false")))

/-- Carry out a command. -/
def perform (site : Site) (command : Command) (session : Session) (journal : Journal) :
    Attempt command.Reply × Session × Journal :=
  let (operation, detail) := Session.entry command
  let journal := journal.write (line session.browser operation detail)
  match spoil site session.browser operation with
  | some (.error message) => (.failed (.session message), session, journal)
  | some (.panic message) => (.panicked message, session, journal)
  | none =>
    let (result, session) := session.carryOut site command
    (.ofResult result, session, journal)

/-- End a session. -/
def quit (site : Site) (session : Session) (journal : Journal) : Attempt Unit × Journal :=
  let journal := journal.write (line session.browser "quit" "")
  match spoil site session.browser "quit" with
  | some (.error message) => (.failed (.session message), journal)
  | some (.panic message) => (.panicked message, journal)
  | none => (.returned (), journal)

/-- The scripted browser of a site. -/
def browser (site : Site) : Browser Journal Session where
  start := start site
  target := Session.browser
  perform := perform site
  quit := quit site
  pause := fun milliseconds journal => { journal with elapsed := journal.elapsed + milliseconds }

end PageCheck.Scripted
