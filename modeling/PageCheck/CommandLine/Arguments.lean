/-!
# Command line arguments

The arguments of one level of the command line: options in their long and short spellings, at most
one operand, and subcommands, whose own level begins right after their name. The value of an option
can be attached to it or be the next argument. A value counts only once the argument after it is
looked at, so of two faults the later one can be the one that is told.
-/

namespace PageCheck.CommandLine

/-- What is wrong with a command line. -/
inductive Fault
  | missingSubcommand
  | invalidSubcommand
  | missingRequiredArgument
  | unknownArgument
  /-- An option lacks its value, or a path is empty. -/
  | invalidValue
  /-- A value is attached to a switch. -/
  | tooManyValues
  /-- Options exclude each other, or one is given twice. -/
  | argumentConflict
deriving Repr, DecidableEq

/-- Why a command line is not carried out. -/
inductive Stop
  /-- It asks how the program is used. -/
  | help
  /-- It asks for the version of the program. -/
  | version
  /-- It cannot be understood. -/
  | fault (fault : Fault)
deriving Repr, DecidableEq

/-- What follows an option. -/
inductive OptionKind
  /-- Nothing; it is given at most once. -/
  | switch
  /-- Nothing; it can be repeated. -/
  | counter
  /-- A text; it is given at most once. -/
  | text
  /-- A path, which is not empty; it is given at most once. -/
  | path
  /-- A text; it can be repeated. -/
  | texts
  /-- A path; it can be repeated. -/
  | paths
  /-- Nothing; it asks how the program is used. -/
  | help
  /-- Nothing; it asks for the version of the program. -/
  | version
deriving Repr, DecidableEq

namespace OptionKind

/-- Whether a value follows. -/
def takesValue : OptionKind → Bool
  | text | path | texts | paths => true
  | switch | counter | help | version => false

/-- Whether the option can be given again. -/
def repeats : OptionKind → Bool
  | counter | texts | paths => true
  | switch | text | path | help | version => false

/-- Whether a value will do. -/
def admits (kind : OptionKind) (value : String) : Bool :=
  match kind with
  | path | paths => value != ""
  | _ => true

end OptionKind

/-- An option. -/
structure OptionSpec where
  /-- The spelling after two hyphens, by which the option is known. -/
  long : String
  /-- The letter after one hyphen, if there is one. -/
  short : Option Char
  /-- What follows. -/
  kind : OptionKind
deriving Repr, DecidableEq

/-- One level of the command line. -/
structure Level where
  /-- The options. -/
  options : List OptionSpec
  /-- The pairs of options that exclude each other. -/
  exclusive : List (String × String)
  /-- What the operand is, if the level has one. -/
  operand : Option OptionKind
  /-- The subcommands. -/
  subcommands : List String
deriving Repr

/-- An argument whose value does not count yet. -/
inductive Pending
  /-- An option that waits for its value. -/
  | awaiting (option : OptionSpec)
  /-- An option and its value. -/
  | given (option : OptionSpec) (value : String)
  /-- The operand. -/
  | operand (value : String)
deriving Repr

/-- What is known of a level so far. -/
structure Reading where
  /-- The options with their values, in order; the value of a switch is empty. -/
  given : List (String × String)
  /-- The operand. -/
  operand : Option String
  /-- The argument that was looked at last, if its value does not count yet. -/
  pending : Option Pending
deriving Repr

/-- Why the arguments end here. -/
abbrev Halted (α : Type) := Except Stop α

namespace Reading

/-- Nothing is known yet. -/
def start : Reading := ⟨[], none, none⟩

/-- Whether an option is given. -/
def has (reading : Reading) (name : String) : Bool := reading.given.any (·.1 == name)

/-- The value of an option that is given at most once. -/
def value? (reading : Reading) (name : String) : Option String := reading.given.lookup name

/-- The values of an option in order. -/
def values (reading : Reading) (name : String) : List String :=
  (reading.given.filter (·.1 == name)).map (·.2)

/-- Whether the next argument is the value of an option. -/
def isAwaiting (reading : Reading) : Bool :=
  match reading.pending with
  | some (.awaiting _) => true
  | _ => false

/-- Count an option and its value. -/
def accept (reading : Reading) (option : OptionSpec) (value : String) : Halted Reading :=
  if option.kind = .help then .error .help
  else if option.kind = .version then .error .version
  else if reading.has option.long && !option.kind.repeats then .error (.fault .argumentConflict)
  else if option.kind.admits value then
    .ok { reading with given := reading.given ++ [(option.long, value)] }
  else .error (.fault .invalidValue)

/-- Count the argument that was looked at last. -/
def settle (level : Level) (reading : Reading) : Halted Reading :=
  let settled := { reading with pending := none }
  match reading.pending with
  | none => .ok settled
  | some (.awaiting _) => .error (.fault .invalidValue)
  | some (.given option value) => settled.accept option value
  | some (.operand value) =>
    if level.operand.all (·.admits value) then .ok { settled with operand := some value }
    else .error (.fault .invalidValue)

/-- Take an option, with the value that is attached to it. -/
def takeOption (level : Level) (option : OptionSpec) (attached : Option String)
    (reading : Reading) : Halted Reading := do
  let reading ← reading.settle level
  match attached with
  | some value => reading.accept option value
  | none =>
    if option.kind.takesValue then .ok { reading with pending := some (.awaiting option) }
    else reading.accept option ""

/-- Take an argument that begins with two hyphens. -/
def takeLong (level : Level) (name : String) (attached : Option String) (reading : Reading) :
    Halted Reading :=
  match level.options.find? (·.long == name), attached with
  | none, _ => .error (.fault .unknownArgument)
  | some option, some value =>
    if option.kind.takesValue then reading.takeOption level option (some value)
    else .error (.fault .tooManyValues)
  | some option, none => reading.takeOption level option none

/-- Take the letters after one hyphen. What follows the letter of an option with a value is that
value; an equals sign in between is left out. -/
def takeShorts (level : Level) : List Char → Reading → Halted Reading
  | [], reading => .ok reading
  | c :: rest, reading =>
    match level.options.find? (·.short == some c) with
    | none => .error (.fault .unknownArgument)
    | some option =>
      if option.kind.takesValue then
        match rest with
        | [] => reading.takeOption level option none
        | '=' :: value => reading.takeOption level option (some (String.ofList value))
        | value => reading.takeOption level option (some (String.ofList value))
      else do takeShorts level rest (← reading.takeOption level option none)

/-- What is said of an argument that has no place. -/
def misplaced (level : Level) (afterHyphens : Bool) (argument : String) : Fault :=
  if level.subcommands.isEmpty || (afterHyphens && level.subcommands.contains argument) then
    .unknownArgument
  else .invalidSubcommand

/-- Take an argument that is no option. -/
def takeOperand (level : Level) (afterHyphens : Bool) (argument : String) (reading : Reading) :
    Halted Reading :=
  match level.operand, reading.operand, reading.pending with
  | some _, none, some (.operand _) => .error (.fault (misplaced level afterHyphens argument))
  | some _, none, _ => do
    let reading ← reading.settle level
    return { reading with pending := some (.operand argument) }
  | _, _, _ => .error (.fault (misplaced level afterHyphens argument))

/-- Take an argument that does not begin with a hyphen, or is nothing but one. -/
def takePlain (level : Level) (argument : String) (reading : Reading) : Halted Reading :=
  match reading.pending with
  | some (.awaiting option) => .ok { reading with pending := some (.given option argument) }
  | _ => reading.takeOperand level false argument

/-- A long option and the value that is attached to it. -/
def splitAttached (text : List Char) : String × Option String :=
  match text.dropWhile (· != '=') with
  | [] => (String.ofList text, none)
  | _ :: value => (String.ofList (text.takeWhile (· != '=')), some (String.ofList value))

/-- Take an argument before two hyphens that stand alone. -/
def take (level : Level) (argument : String) (reading : Reading) : Halted Reading :=
  match argument.toList with
  | '-' :: '-' :: text =>
    let (name, attached) := splitAttached text
    reading.takeLong level name attached
  | '-' :: c :: rest => reading.takeShorts level (c :: rest)
  | _ => reading.takePlain level argument

end Reading

/-- Read the arguments of a level up to its end, or to a subcommand, which comes with the arguments
after it. -/
def readLevel (level : Level) :
    List String → Reading → Halted (Reading × Option (String × List String))
  | [], reading => .ok (reading, none)
  | argument :: rest, reading =>
    if !reading.isAwaiting && level.subcommands.contains argument then
      .ok (reading, some (argument, rest))
    else if argument = "--" then do
      return (← rest.foldlM (fun reading argument => reading.takeOperand level true argument)
        reading, none)
    else do readLevel level rest (← reading.take level argument)

/-- Close a level: count what was looked at last, and see that no options exclude each other. -/
def closeLevel (level : Level) (reading : Reading) : Halted Reading := do
  let reading ← reading.settle level
  if level.exclusive.any fun pair => reading.has pair.1 && reading.has pair.2 then
    throw (.fault .argumentConflict)
  return reading

end PageCheck.CommandLine
