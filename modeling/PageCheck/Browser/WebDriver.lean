import PageCheck.Browser.Command
import PageCheck.Browser.Http
import PageCheck.Config
import PageCheck.Unicode.Casing

/-!
# Remote browsers

A remote browser is reached through the WebDriver protocol: every operation is one request with a
JSON body below the address of the session, and the value of the response is the answer. A value
that carries an error is that error, whatever the status. How requests travel comes from outside.
-/

namespace PageCheck.WebDriver

open Http (Method Request Response)

/-- The key under which references to elements stand. -/
def elementKey : String := "element-6066-11e4-a52e-4f735466cecf"

/-- What every request says of the program that sends it. -/
def agent : String := "ui-validation"

/-- A request of a session: its method, the address below that of the session, and its body. -/
structure Call where
  /-- What it wants done. -/
  method : Method
  /-- The end of the address. -/
  path : String
  /-- The body, if there is one. -/
  body : Option Json
deriving Repr

/-- The request of a call. -/
def Call.request (base : String) (call : Call) : Request :=
  ⟨call.method, base ++ call.path, call.body⟩

/-- A call that asks. -/
def get (path : String) : Call := ⟨.get, path, none⟩

/-- A call that does something. -/
def post (path : String) (body : Members) : Call := ⟨.post, path, some (.object body)⟩

/-- A call that removes something. -/
def delete (path : String) : Call := ⟨.delete, path, none⟩

/-- The address of something about an element. -/
def elementPath (element : Element) (rest : String) : String :=
  "/element/" ++ element ++ "/" ++ rest

/-- A reference to an element. -/
def reference (element : Element) : Json := .object [(elementKey, .string element)]

/-- The way to look elements up, and what to look for. Identifiers and names are looked up as the
values of their attributes. -/
def lookup (locator : Locator) : String × String :=
  match locator.strategy with
  | .xpath => ("xpath", locator.selector)
  | .css => ("css selector", locator.selector)
  | .id => ("css selector", "[id=\"" ++ locator.selector ++ "\"]")
  | .name => ("css selector", "[name=\"" ++ locator.selector ++ "\"]")
  | .tagName => ("tag name", locator.selector)
  | .linkText => ("link text", locator.selector)

/-- The body of the call that looks elements up. -/
def lookupBody (locator : Locator) : Members :=
  let (using_, value) := lookup locator
  [("using", .string using_), ("value", .string value)]

/-- The script that sets an attribute. -/
def setAttributeScript : String := "arguments[0].setAttribute(arguments[1], arguments[2]);"

/-- The body of the call that moves the pointer onto an element. -/
def hoverBody (element : Element) : Members :=
  let move := Json.object [("type", .string "pointerMove"), ("duration", Json.ofNat 0),
    ("origin", reference element), ("x", Json.ofNat 0), ("y", Json.ofNat 0)]
  let source := Json.object [("type", .string "pointer"), ("id", .string "mouse"),
    ("parameters", .object [("pointerType", .string "mouse")]), ("actions", .array [move])]
  [("actions", .array [source])]

/-- The call of a command. -/
def Call.ofCommand : Command → Call
  | .navigate url => post "/url" [("url", .string url)]
  | .currentUrl => get "/url"
  | .back => post "/back" []
  | .forward => post "/forward" []
  | .refresh => post "/refresh" []
  | .find locator => post "/elements" (lookupBody locator)
  | .text element => get (elementPath element "text")
  | .displayed element => get (elementPath element "displayed")
  | .attribute element name => get (elementPath element ("attribute/" ++ name))
  | .property element name => get (elementPath element ("property/" ++ name))
  | .setAttribute element name value =>
    post "/execute/sync" [("script", .string setAttributeScript),
      ("args", .array [reference element, .string name, .string value])]
  | .click element => post (elementPath element "click") []
  | .hover element => post "/actions" (hoverBody element)
  | .clear element => post (elementPath element "clear") []
  | .sendKeys element text => post (elementPath element "value") [("text", .string text)]
  | .addCookie cookie => post "/cookie" [("cookie", cookie.toJson)]
  | .cookies => get "/cookie"
  | .deleteCookie name => delete ("/cookie/" ++ name)
  | .deleteAllCookies => delete "/cookie"
  | .setWindowSize width height =>
    post "/window/rect" [("width", Json.ofNat width), ("height", Json.ofNat height)]

/-- The call that ends a session. -/
def Call.quit : Call := delete ""

/-- The error that a response carries, if it carries one. -/
def carriedError? (payload : Json) : Option Error := do
  let value ← payload.get? "value"
  let kind ← (← value.get? "error").string?
  let message := ((value.get? "message").bind Json.string?).getD ""
  return if kind = "no such element" then .elementNotFound message
    else .session (kind ++ ": " ++ message)

/-- The value of a response to a call. -/
def Call.answer (call : Call) (response : Response) : Result Json :=
  match Json.parse response.content with
  | .error error => .error (.http error.message)
  | .ok payload =>
    match carriedError? payload with
    | some error => .error error
    | none =>
      if Http.isSuccess response.status then .ok ((payload.get? "value").getD .null)
      else .error (.session (call.method.text ++ " " ++ call.path ++ " returned status " ++
        Http.statusText response.status))

/-- What the value of a response means for a command. -/
def replyOf : (command : Command) → Json → Result command.Reply
  | .currentUrl, value =>
    match value.string? with
    | some url => .ok url
    | none => .error (.session ("unexpected URL value " ++ value.text))
  | .find _, value =>
    .ok ((value.items?.getD []).filterMap fun item => (item.get? elementKey).bind Json.string?)
  | .text _, value => .ok (value.string?.getD "")
  | .displayed _, value => .ok (value.bool?.getD false)
  | .attribute _ _, value => .ok value.string?
  | .property _ _, value => .ok (if value.isNull then none else some value)
  | .cookies, value => (Cookie.listOfJson value).mapError .json
  | .navigate _, _ | .back, _ | .forward, _ | .refresh, _ | .setAttribute _ _ _, _ | .click _, _
  | .hover _, _ | .clear _, _ | .sendKeys _ _, _ | .addCookie _, _ | .deleteCookie _, _
  | .deleteAllCookies, _ | .setWindowSize _ _, _ => .ok ()

/-- A session of a remote browser. -/
structure Session where
  /-- The address of the session. -/
  base : String
  /-- The browser that it drives. -/
  browser : BrowserTarget
deriving Repr

/-- The way between the program and remote browsers. -/
structure Link (World : Type) where
  /-- Send a request and wait for the response, or for the news that there is none. -/
  exchange : Request → World → Except String Response × World
  /-- Let a number of milliseconds pass. -/
  pause : Nat → World → World

/-- Send a request. One whose address is no URL is not sent. -/
def Link.send {World : Type} (link : Link World) (request : Request) (world : World) :
    Except String Response × World :=
  if request.target?.isSome then link.exchange request world else (.error "builder error", world)

/-- The arguments with which browsers of one family are started. -/
def chromiumArguments (options : RunOptions) : List String :=
  (if options.headless then ["--headless=new"] else []) ++
    (if options.noSandbox then ["--no-sandbox"] else [])

/-- What a new session must be able to do. -/
def capabilities (browser : BrowserTarget) (options : RunOptions) : Members :=
  let withArguments (name key : String) (arguments : List String) : Members :=
    [("browserName", .string name),
      (key, .object [("args", .array (arguments.map Json.string))])]
  match browser with
  | .firefox => withArguments "firefox" "moz:firefoxOptions"
      (if options.headless then ["-headless"] else [])
  | .chrome => withArguments "chrome" "goog:chromeOptions" (chromiumArguments options)
  | .edge => withArguments "MicrosoftEdge" "ms:edgeOptions" (chromiumArguments options)
  | .extension name => [("browserName", .string (Unicode.lower name))]

/-- An address without the slashes at its end. -/
def withoutLastSlashes (address : String) : String :=
  String.ofList (address.toList.reverse.dropWhile (· == '/')).reverse

/-- The request that starts a session. -/
def startRequest (endpoint : String) (browser : BrowserTarget) (options : RunOptions) : Request :=
  ⟨.post, endpoint ++ "/session",
    some (.object [("capabilities",
      .object [("alwaysMatch", .object (capabilities browser options))])])⟩

/-- The name of the session that a response tells of. -/
def sessionName? (payload : Json) : Option String :=
  match (payload.get? "value").bind (Json.get? "sessionId") with
  | some name => name.string?
  | none => (payload.get? "sessionId").bind Json.string?

/-- What the response to a start means: the name of the session, or why there is none. -/
def startAnswer (response : Response) : Except String String :=
  match Json.parse response.content with
  | .error _ => .error "invalid response: error decoding response body"
  | .ok payload =>
    match carriedError? payload with
    | some error => .error error.message
    | none =>
      if !Http.isSuccess response.status then
        .error ("WebDriver returned status " ++ Http.statusText response.status)
      else
        match sessionName? payload with
        | some name => .ok name
        | none => .error "response has no session id"

variable {World : Type}

/-- Start a session. -/
def start (endpoints : Endpoints) (link : Link World) (browser : BrowserTarget)
    (options : RunOptions) (world : World) : Attempt Session × World :=
  let endpoint := withoutLastSlashes (endpoints.endpointFor browser.name)
  match link.send (startRequest endpoint browser options) world with
  | (.error reason, world) =>
    (.failed (.sessionStart browser.name (endpoint ++ ": " ++ reason)), world)
  | (.ok response, world) =>
    match startAnswer response with
    | .error reason => (.failed (.sessionStart browser.name reason), world)
    | .ok name => (.returned ⟨endpoint ++ "/session/" ++ name, browser⟩, world)

/-- Make a call. -/
def make (link : Link World) (session : Session) (call : Call) (world : World) :
    Result Json × World :=
  match link.send (call.request session.base) world with
  | (.error reason, world) => (.error (.http reason), world)
  | (.ok response, world) => (call.answer response, world)

/-- Carry out a command. -/
def perform (link : Link World) (command : Command) (session : Session) (world : World) :
    Attempt command.Reply × Session × World :=
  let (answer, world) := make link session (.ofCommand command) world
  (.ofResult (answer.bind (replyOf command)), session, world)

/-- End a session. -/
def quit (link : Link World) (session : Session) (world : World) : Attempt Unit × World :=
  let (answer, world) := make link session .quit world
  (.ofResult (answer.map fun _ => ()), world)

/-- Remote browsers at the end of a link. -/
def browser (endpoints : Endpoints) (link : Link World) : Browser World Session where
  start := start endpoints link
  target := Session.browser
  perform := perform link
  quit := quit link
  pause := link.pause

end PageCheck.WebDriver
