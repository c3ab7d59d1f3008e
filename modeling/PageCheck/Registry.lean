import PageCheck.Context
import PageCheck.Validation.Basic

/-!
# Registries

A registry holds what plugins contribute, one list for each kind of contribution, in registration
order. Built-in names come before those of plugins. Among plugins the first one that answers wins.
-/

namespace PageCheck

open Expression (Root)

/-- The contributions of plugins. -/
structure Registry where
  /-- Meanings of action names. -/
  actionNames : List (String → Option ActionType)
  /-- Meanings of validation type names. -/
  validationTypeNames : List (String → Option ValidationType)
  /-- Meanings of state names. -/
  stateNames : List (String → Option ValidationState)
  /-- Meanings of browser names. -/
  browserNames : List (String → Option BrowserTarget)
  /-- Meanings of source names. -/
  sourceNames : List (String → Option OutputSource)
  /-- Handlers of actions. -/
  stepHandlers : List (ActionType → Option StepHandler)
  /-- Handlers of validation types. -/
  validationHandlers : List (ValidationType → Option ValidationHandler)
  /-- Roots of paths. -/
  roots : List Root
  /-- Contexts to start from. -/
  contexts : List (RunOptions → Option Context)
  /-- Names of command line options that take a value. -/
  commandOptions : List String
  /-- Changes to the context once the command line is read; an option's value is looked up by its
  name. -/
  configure : List ((String → Option String) → Context → Context)
  /-- The plugins that watch a pass before it starts. -/
  before : List String
  /-- The plugins that watch a pass after it ended. -/
  after : List String

/-- A type of names whose meanings plugins can add to. -/
class Nameable (α : Type) extends Vocabulary α where
  /-- The meanings that plugins add, in registration order. -/
  contributed : Registry → List (String → Option α)

instance : Nameable ActionType := ⟨Registry.actionNames⟩
instance : Nameable ValidationType := ⟨Registry.validationTypeNames⟩
instance : Nameable ValidationState := ⟨Registry.stateNames⟩
instance : Nameable BrowserTarget := ⟨Registry.browserNames⟩
instance : Nameable OutputSource := ⟨Registry.sourceNames⟩

namespace Registry

/-- The registry without plugins. -/
def empty : Registry := ⟨[], [], [], [], [], [], [], [], [], [], [], [], []⟩

/-- A registry followed by the contributions of another one. -/
def append (first second : Registry) : Registry where
  actionNames := first.actionNames ++ second.actionNames
  validationTypeNames := first.validationTypeNames ++ second.validationTypeNames
  stateNames := first.stateNames ++ second.stateNames
  browserNames := first.browserNames ++ second.browserNames
  sourceNames := first.sourceNames ++ second.sourceNames
  stepHandlers := first.stepHandlers ++ second.stepHandlers
  validationHandlers := first.validationHandlers ++ second.validationHandlers
  roots := first.roots ++ second.roots
  contexts := first.contexts ++ second.contexts
  commandOptions := first.commandOptions ++ second.commandOptions
  configure := first.configure ++ second.configure
  before := first.before ++ second.before
  after := first.after ++ second.after

instance : Append Registry := ⟨append⟩

/-- The meaning of a name: a built-in one, or else the first one that a plugin gives it. -/
def resolve {α : Type} [Nameable α] (registry : Registry) (name : String) : Result α :=
  match Vocabulary.builtin? name with
  | some meaning => .ok meaning
  | none =>
    match (Nameable.contributed registry).findSome? fun meaning => meaning name with
    | some meaning => .ok meaning
    | none => .error (.unknownName (Vocabulary.category α) name)

/-- The context that a run starts from: the first one that a plugin supplies, or else one with
empty stores. -/
def newContext (registry : Registry) (options : RunOptions) : Context :=
  (registry.contexts.findSome? fun supply => supply options).getD (Context.new options)

/-- Let every plugin change the context, in registration order. -/
def configureContext (registry : Registry) (option : String → Option String) (context : Context) :
    Context :=
  registry.configure.foldl (fun context change => change option context) context

end Registry

end PageCheck
