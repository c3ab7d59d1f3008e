import PageCheck.Context
import PageCheck.Unicode.CodePoints

/-!
# Files

What the program needs of a file system: reading a path yields a text or the reason why there is
none, and so does writing. A directory can also be given by the texts of its files, which is how a
run is repeated without one. Of what surrounds that directory little is known: that there are
directories above it, and a few that are everywhere.
-/

namespace PageCheck

/-- Reading a path: its text, or why it cannot be read. -/
abbrev FileReader := String → Except String String

/-- The texts of files by their paths, most of which start from one directory. -/
abbrev Files := List (String × String)

namespace Files

/-! ### Reasons -/

/-- What is said of a path that leads nowhere. -/
def missing : String := "No such file or directory (os error 2)"

/-- What is said of a directory that is read like a file. -/
def isDirectory : String := "Is a directory (os error 21)"

/-- What is said of a path that goes through a file. -/
def notDirectory : String := "Not a directory (os error 20)"

/-- What is said of a path that is too long, or has a name that is. -/
def tooLong : String := "File name too long (os error 36)"

/-- What is said of a path with a character that ends texts. -/
def endsEarly : String := "file name contained an unexpected NUL byte"

/-- The greatest number of bytes of a name. -/
def nameLimit : Nat := 255

/-- The greatest number of bytes of a path. -/
def pathLimit : Nat := 4095

/-! ### Places -/

/-- Where a path leads when all of its directories are there. -/
structure Place where
  /-- Whether it starts from the root, and not from the directory of the files. -/
  fromRoot : Bool
  /-- The number of directories to go up first. -/
  up : Nat
  /-- The names to follow from there. -/
  names : List String
deriving Repr, DecidableEq

namespace Place

/-- Where a path starts. -/
def start (path : String) : Place := ⟨path.startsWith "/", 0, []⟩

/-- The place that a name leads to. -/
def enter (place : Place) (name : String) : Place :=
  if name = "." then place
  else if name = ".." then
    if place.names.isEmpty && !place.fromRoot then { place with up := place.up + 1 }
    else { place with names := place.names.dropLast }
  else { place with names := place.names ++ [name] }

/-- Whether a place is another one or lies below it. -/
def isWithin (place other : Place) : Bool :=
  place.fromRoot == other.fromRoot && place.up == other.up && other.names.isPrefixOf place.names

end Place

/-- The names of a path in order. -/
def namesOf (path : String) : List String :=
  ((Unicode.splitOnChar '/' path.toList).filter fun name => !name.isEmpty).map String.ofList

/-- Where a path leads when all of its directories are there. -/
def placeOf (path : String) : Place := (namesOf path).foldl Place.enter (Place.start path)

/-- What can be at a place. -/
inductive Kind
  /-- A directory. -/
  | directory
  /-- A file with its text. -/
  | file (text : String)
deriving Repr, DecidableEq

/-- What is at the places that are everywhere: some directories, and the file that stays empty. -/
def everywhere? (names : List String) : Option Kind :=
  if names = ["dev", "null"] then some (.file "")
  else if [[], ["dev"], ["etc"], ["tmp"], ["usr"]].contains names then some .directory
  else none

/-- What is at a place. -/
def kind? (files : Files) (place : Place) : Option Kind :=
  match files.find? fun file => placeOf file.1 == place with
  | some (_, text) => some (.file text)
  | none =>
    if files.any fun file => (placeOf file.1).isWithin place then some .directory
    else if place.fromRoot then everywhere? place.names
    else if place.names.isEmpty then some .directory
    else none

/-- Follow names from a place. Every place on the way has to be a directory. -/
def follow (files : Files) (place : Place) : List String → Except String Place
  | [] => .ok place
  | name :: rest =>
    match kind? files place with
    | none => .error missing
    | some (.file _) => .error notDirectory
    | some .directory =>
      if nameLimit < name.utf8ByteSize then .error tooLong else follow files (place.enter name) rest

/-- Refuse a text that is no path. -/
def checkPath (path : String) : Except String Unit :=
  if path.toList.contains '\x00' then .error endsEarly
  else if path.isEmpty then .error missing
  else if pathLimit < path.utf8ByteSize then .error tooLong
  else .ok ()

/-! ### Reading and writing -/

/-- The text of a file. A path that ends in a slash has to lead to a directory. -/
def read (files : Files) : FileReader := fun path => do
  checkPath path
  match kind? files (← follow files (Place.start path) (namesOf path)) with
  | none => throw missing
  | some .directory => throw isDirectory
  | some (.file text) => if path.endsWith "/" then throw notDirectory else return text

/-- Set the text of the file at a path, whether or not there is one. -/
def set (path text : String) : Files → Files
  | [] => [(path, text)]
  | (name, old) :: rest =>
    if placeOf name == placeOf path then (name, text) :: rest else (name, old) :: set path text rest

/-- Write a file. The directories that lead there have to be there. -/
def write (files : Files) (path text : String) : Except String Files := do
  checkPath path
  match (namesOf path).getLast? with
  | none => throw isDirectory
  | some name =>
    let directory ← follow files (Place.start path) (namesOf path).dropLast
    match kind? files directory with
    | none => throw missing
    | some (.file _) => throw notDirectory
    | some .directory =>
      if path.endsWith "/" || name = "." || name = ".." then throw isDirectory
      else if nameLimit < name.utf8ByteSize then throw tooLong
      else
        let place := directory.enter name
        if kind? files place = some .directory then throw isDirectory
        else if place.fromRoot && (everywhere? place.names).isSome then return files
        else return set path text files

/-- Have a file at a path, with the directories that lead there. It is left as it is if it is there
already; there can be none where a directory is, or below a file. -/
def provide (files : Files) (path : String) : Option Files :=
  let names := namesOf path
  let onTheWay := (List.range names.length).map fun count =>
    kind? files ((names.take count).foldl Place.enter (Place.start path))
  let isOpen := onTheWay.all fun kind => kind.isNone || kind == some .directory
  if (checkPath path).isOk && isOpen && names.all (·.utf8ByteSize ≤ nameLimit) then
    match kind? files (placeOf path) with
    | some .directory => none
    | some (.file _) => some files
    | none => some (set path "" files)
  else none

end Files

/-- Whether there is anything at a path. -/
def FileReader.leadsSomewhere (read : FileReader) (path : String) : Bool :=
  match read path with
  | .ok _ => true
  | .error reason =>
    !([Files.missing, Files.notDirectory, Files.tooLong, Files.endsEarly].contains reason)

/-- Load a definitions file over those already loaded. -/
def Context.loadFile (read : FileReader) (path : String) (context : Context) : Result Context :=
  match read path with
  | .ok text => context.loadText path text
  | .error reason => .error (.fileRead path reason)

end PageCheck
