import PageCheck.Json.Writer
import PageCheck.Url.Basic

/-!
# HTTP messages

Requests with JSON bodies, and their responses. A server sees the path and the query of an address
as they are once the address has been read as a URL.
-/

namespace PageCheck.Http

/-- What a request wants done. -/
inductive Method
  | get | post | delete
deriving Repr, DecidableEq

/-- The word for a method. -/
def Method.text : Method → String
  | get => "GET"
  | post => "POST"
  | delete => "DELETE"

/-- A request. -/
structure Request where
  /-- What it wants done. -/
  method : Method
  /-- The address. -/
  address : String
  /-- The body, if there is one. -/
  body : Option Json
deriving Repr

namespace Request

/-- The text of the body. -/
def bodyText (request : Request) : String := (request.body.map Json.text).getD ""

/-- The path and query that the server sees, unless the address is no URL. -/
def target? (request : Request) : Option String :=
  match Url.parse request.address with
  | .error _ => none
  | .ok url => some (String.ofList (url.path ++ (url.query.map ('?' :: ·)).getD []))

end Request

/-- A response. -/
structure Response where
  /-- Its status. -/
  status : Nat
  /-- Its body. -/
  body : String
deriving Repr, DecidableEq

/-- Whether a status tells of success. -/
def isSuccess (status : Nat) : Bool := 200 ≤ status && status < 300

/-- The usual phrase for a status, if there is one. -/
def phrase? : Nat → Option String
  | 100 => some "Continue"
  | 101 => some "Switching Protocols"
  | 102 => some "Processing"
  | 103 => some "Early Hints"
  | 200 => some "OK"
  | 201 => some "Created"
  | 202 => some "Accepted"
  | 203 => some "Non Authoritative Information"
  | 204 => some "No Content"
  | 205 => some "Reset Content"
  | 206 => some "Partial Content"
  | 207 => some "Multi-Status"
  | 208 => some "Already Reported"
  | 226 => some "IM Used"
  | 300 => some "Multiple Choices"
  | 301 => some "Moved Permanently"
  | 302 => some "Found"
  | 303 => some "See Other"
  | 304 => some "Not Modified"
  | 305 => some "Use Proxy"
  | 307 => some "Temporary Redirect"
  | 308 => some "Permanent Redirect"
  | 400 => some "Bad Request"
  | 401 => some "Unauthorized"
  | 402 => some "Payment Required"
  | 403 => some "Forbidden"
  | 404 => some "Not Found"
  | 405 => some "Method Not Allowed"
  | 406 => some "Not Acceptable"
  | 407 => some "Proxy Authentication Required"
  | 408 => some "Request Timeout"
  | 409 => some "Conflict"
  | 410 => some "Gone"
  | 411 => some "Length Required"
  | 412 => some "Precondition Failed"
  | 413 => some "Payload Too Large"
  | 414 => some "URI Too Long"
  | 415 => some "Unsupported Media Type"
  | 416 => some "Range Not Satisfiable"
  | 417 => some "Expectation Failed"
  | 418 => some "I'm a teapot"
  | 421 => some "Misdirected Request"
  | 422 => some "Unprocessable Entity"
  | 423 => some "Locked"
  | 424 => some "Failed Dependency"
  | 425 => some "Too Early"
  | 426 => some "Upgrade Required"
  | 428 => some "Precondition Required"
  | 429 => some "Too Many Requests"
  | 431 => some "Request Header Fields Too Large"
  | 451 => some "Unavailable For Legal Reasons"
  | 500 => some "Internal Server Error"
  | 501 => some "Not Implemented"
  | 502 => some "Bad Gateway"
  | 503 => some "Service Unavailable"
  | 504 => some "Gateway Timeout"
  | 505 => some "HTTP Version Not Supported"
  | 506 => some "Variant Also Negotiates"
  | 507 => some "Insufficient Storage"
  | 508 => some "Loop Detected"
  | 510 => some "Not Extended"
  | 511 => some "Network Authentication Required"
  | _ => none

/-- The text of a status. -/
def statusText (status : Nat) : String :=
  toString status ++ " " ++ (phrase? status).getD "<unknown status code>"

/-- The body that comes with a status; some come without one, whatever the server sends. -/
def Response.content (response : Response) : String :=
  if response.status = 204 || response.status = 304 then "" else response.body

end PageCheck.Http
