import PageCheck.Error
import PageCheck.Unicode.Prose
import PageCheck.Url.Basic

/-!
# Components of a URL

A validation can look at the whole URL, exactly as the browser reports it, or at one component of
it, as the parsed URL has it. A component that the URL lacks is empty.
-/

namespace PageCheck.Url

/-- A component that can be named. -/
inductive Component
  /-- What stands before the first colon. -/
  | scheme
  /-- The host. -/
  | host
  /-- The port, also if it goes without saying. -/
  | port
  /-- The path. -/
  | path
  /-- The query without its question mark. -/
  | query
  /-- The fragment without its hash sign. -/
  | fragment
deriving Repr, DecidableEq

/-- The component that a name in lower case means. -/
def Component.ofName? (name : String) : Option Component :=
  match name with
  | "scheme" | "protocol" => some .scheme
  | "host" | "hostname" => some .host
  | "port" => some .port
  | "path" | "pathname" => some .path
  | "query" | "search" => some .query
  | "fragment" | "hash" => some .fragment
  | _ => none

/-- A component of a URL. -/
def get (url : Url) : Component → List Char
  | .scheme => url.scheme
  | .host => url.hostText
  | .port => (url.portOrUsual?.map fun port => Nat.toDigits 10 port).getD []
  | .path => url.path
  | .query => url.query.getD []
  | .fragment => url.fragment.getD []

/-- The part of a URL text that a name asks for. Only a real component needs the URL to be one. -/
def part (url name : String) : Result String :=
  let name := Unicode.asciiLower (Unicode.trim name)
  if name = "" || name = "url" || name = "href" then .ok url
  else match parse url with
    | .error fault => .error (.session
        ("current URL '" ++ url ++ "' cannot be parsed: " ++ fault.message))
    | .ok parsed =>
      match Component.ofName? name with
      | some component => .ok (String.ofList (parsed.get component))
      | none => .error (.invalidStep "URL" ("unknown URL component '" ++ name ++ "'"))

end PageCheck.Url
