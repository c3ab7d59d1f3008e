import PageCheck.Error
import PageCheck.Pattern.Matcher
import PageCheck.Pattern.Parser
import PageCheck.Pattern.Size

/-!
# Searching and matching texts

A pattern is sought anywhere in a text, or has to match all of it. To match all of a text means to
find the pattern between a sign for the start of the text and one for its end; the pattern is read
in that company, as one text.
-/

namespace PageCheck.Pattern

/-- Why a text is not a usable pattern. -/
inductive CompileError
  /-- It is no pattern. -/
  | malformed (fault : Fault)
  /-- It grows too large. -/
  | tooLarge
deriving Repr, DecidableEq

/-- The wording of an error in the pattern that was read. -/
def CompileError.message (source : String) : CompileError → String
  | malformed fault => fault.text source
  | tooLarge => "Compiled regex exceeds size limit of " ++ toString sizeLimit ++ " bytes."

/-- The pattern that a text writes. -/
def compile (source : String) : Except CompileError Pattern :=
  match parse source with
  | .error fault => .error (.malformed fault)
  | .ok part =>
    match meaning Flags.start part with
    | .error fault => .error (.malformed fault)
    | .ok (pattern, _) => if isTooLarge pattern then .error .tooLarge else .ok pattern

/-- The pattern that a text writes; an error names the pattern that was asked for. -/
def ofText (source pattern : String) : Result Pattern :=
  (compile source).mapError fun error => .invalidPattern pattern (error.message source)

/-- The text that is read where a pattern has to match all of a text. -/
def anchored (pattern : String) : String := "^(?:" ++ pattern ++ ")$"

/-- Whether a pattern matches all of a text. -/
def fullMatch (pattern text : String) : Result Bool := do
  return (← ofText (anchored pattern) pattern).occursIn text.toList

/-- Whether a pattern matches anywhere in a text. -/
def search (pattern text : String) : Result Bool := do
  return (← ofText pattern pattern).occursIn text.toList

end PageCheck.Pattern
