import PageCheck.Expression.Resolver
import PageCheck.Options
import PageCheck.Store

/-!
# Contexts

A context is what the steps of a run share: the definitions, the values captured so far, the
options and the timeouts. Expressions are resolved against the stores as they are at that moment;
the environment and the roots of plugins come from outside.
-/

namespace PageCheck

open Expression (Environment Resolver Root)

/-- What the steps of a run share. -/
structure Context where
  /-- The definitions. -/
  data : Members
  /-- The captured values. -/
  outputs : Members
  /-- The switches of the run. -/
  options : RunOptions
  /-- The times that the run waits. -/
  timeouts : Timeouts
deriving Repr

namespace Context

/-- A context with empty stores. -/
def new (options : RunOptions) : Context := ⟨[], [], options, .standard⟩

/-- Lay definitions over those already loaded. -/
def load (context : Context) (definitions : Members) : Context :=
  { context with data := Members.merge context.data definitions }

/-- Put definitions under those already loaded, which win. -/
def loadBase (context : Context) (definitions : Members) : Context :=
  { context with data := Members.merge definitions context.data }

/-- Load the text of a definitions file. -/
def loadText (context : Context) (path text : String) : Result Context :=
  match Json.decodeText Json.decodeMap text with
  | .ok definitions => .ok (context.load definitions)
  | .error error => .error (.invalidFile (path ++ ": " ++ error.message))

/-- Keep a captured value under a dotted name. What a refused attempt has already created stays. -/
def capture (context : Context) (name : String) (value : Json) : Context × Result Unit :=
  let placement := Store.place name value context.outputs
  ({ context with outputs := placement.store },
    if placement.placed then .ok () else .error (.invalidOutputName name))

/-- The resolver over the stores of a context. -/
def resolver (context : Context) (environment : Environment) (roots : List Root) : Resolver :=
  ⟨context.data, context.outputs, environment, roots⟩

end Context

end PageCheck
