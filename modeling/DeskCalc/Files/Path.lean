import DeskCalc.Files

/-!
# Paths

A path is followed component by component, from the root or from the working directory. Each
component before the last has to be a directory, also one that `..` leaves again. Reading wants a
file. Writing and appending create the file if the location is free, and want a path that does not
end in a slash, which is seen before anything else about its last name.
-/

namespace DeskCalc.Files

/-- The longest name that a component can have, in bytes. -/
def longestName : Nat := 255

/-- The longest path, in bytes. -/
def longestPath : Nat := 4095

/-- The directory that is reached from the directory `start` through these components. -/
def walk (fs : Files) (start : Location) : List String → Except FileCause Location
  | [] => .ok start
  | name :: rest =>
    if name = "" ∨ name = "." then fs.walk start rest
    else if name = ".." then fs.walk start.dropLast rest
    else if longestName < name.utf8ByteSize then .error .nameTooLong
    else
      match fs.node? (start ++ [name]) with
      | none => .error .notFound
      | some (.file _) | some (.device _) => .error .notDirectory
      | some .directory => fs.walk (start ++ [name]) rest

/-- The parts of a path between its slashes. -/
def components (path : String) : List String :=
  (path.toList.splitOn '/').map .ofList

/-- Where a path leads. -/
structure Target where
  /-- The location. -/
  location : Location
  /-- The path can only mean a directory: it ends in a slash. -/
  slash : Bool

/-- The directory that a path starts at. -/
def origin (fs : Files) (path : String) : Location :=
  if path.toList.head? = some '/' then [] else fs.workingDirectory

/-- Where the last component of a path leads, seen from the directory before it. -/
def targetIn (directory : Location) (last : String) (slash : Bool) : Target :=
  if last = "." then ⟨directory, false⟩
  else if last = ".." then ⟨directory.dropLast, false⟩
  else ⟨directory ++ [last], slash⟩

/-- Follows a path up to its last component, which need not exist. -/
def locate (fs : Files) (path : String) : Except FileCause Target :=
  if '\x00' ∈ path.toList then .error .nullCharacter
  else if path = "" then .error .notFound
  else if longestPath < path.utf8ByteSize then .error .nameTooLong
  else
    let names := (components path).filter (· ≠ "")
    match names.getLast? with
    | none => .ok ⟨[], false⟩
    | some last => do
      let slash := decide (path.toList.getLast? = some '/')
      return targetIn (← fs.walk (fs.origin path) names.dropLast) last slash

/-- What is at a target. Nothing can have a name that is too long. -/
def nodeAt (fs : Files) (target : Target) : Except FileCause (Option Node) :=
  if longestName < (target.location.getLast?.getD "").utf8ByteSize then .error .nameTooLong
  else .ok (fs.node? target.location)

/-- The content of the file at a target. -/
def readTarget (fs : Files) (target : Target) : Except FileCause ByteArray := do
  match ← fs.nodeAt target with
  | none => .error .notFound
  | some .directory => .error .isDirectory
  | some (.file content) => if target.slash then .error .notDirectory else .ok content
  | some (.device _) => if target.slash then .error .notDirectory else .ok .empty

/-- The content of the file at a path. -/
def read (fs : Files) (path : String) : Except FileError ByteArray :=
  (fs.locate path >>= fs.readTarget).mapError (⟨·, path⟩)

/-- Replaces the content of the file at a target by a function of it, a new file being empty. -/
def updateTarget (fs : Files) (f : ByteArray → ByteArray) (target : Target) :
    Except FileCause Files := do
  if target.slash then .error .isDirectory
  else
    match ← fs.nodeAt target with
    | some .directory => .error .isDirectory
    | some (.file content) => .ok (fs.put target.location (f content))
    | some (.device .null) => .ok fs
    | some (.device .full) => if (f .empty).isEmpty then .ok fs else .error .noSpace
    | none => .ok (fs.put target.location (f .empty))

/-- Replaces the content of the file at a path by a function of it. -/
def update (fs : Files) (path : String) (f : ByteArray → ByteArray) : Except FileError Files :=
  (fs.locate path >>= fs.updateTarget f).mapError (⟨·, path⟩)

/-- Adds bytes at the end of the file at a path. -/
def append (fs : Files) (path : String) (bytes : ByteArray) : Except FileError Files :=
  fs.update path (· ++ bytes)

/-- Makes these bytes the content of the file at a path. -/
def write (fs : Files) (path : String) (bytes : ByteArray) : Except FileError Files :=
  fs.update path fun _ => bytes

/-- There is a directory at the path. Only a name that is too long leaves the question open. -/
def isDirectory (fs : Files) (path : String) : Except FileError Bool :=
  match fs.locate path >>= fs.nodeAt with
  | .ok (some .directory) => .ok true
  | .ok _ => .ok false
  | .error .nameTooLong => .error ⟨.nameTooLong, path⟩
  | .error _ => .ok false

/-- The content of the file at a path, if there is one. A device is no file. -/
def content? (fs : Files) (path : String) : Option ByteArray := do
  let target ← (fs.locate path).toOption
  match fs.node? target.location with
  | some (.file content) => if target.slash then none else some content
  | _ => none

/-- The path of a home directory, continued by a path that is empty or starts with a slash. -/
def underHome (home : String) (rest : List Char) : String :=
  let kept := (home.toList.reverse.dropWhile (· == '/')).reverse
  match kept ++ rest with
  | [] => "/"
  | path => .ofList path

/-- Writes a home directory out where a path starts with a tilde: that of the user whose name
follows the tilde, or the home directory itself if none does. A path with an unknown name stays as
it is. -/
def expandHome (fs : Files) (path : String) : Except FileError String :=
  match path.toList with
  | '~' :: rest =>
    let name := rest.takeWhile (· ≠ '/')
    let rest := rest.dropWhile (· ≠ '/')
    if name = [] then .ok (underHome fs.home rest)
    else if '\x00' ∈ name then .error ⟨.nullCharacter, path⟩
    else
      match fs.userHomes.lookup (.ofList name) with
      | some home => .ok (underHome home rest)
      | none => .ok path
  | _ => .ok path

/-- The path of the directory that a path is in, without needless slashes and dots. -/
def parent (path : String) : String :=
  let names := (components path).filter fun name => name ≠ "" ∧ name ≠ "."
  let root :=
    match path.toList.takeWhile (· == '/') with
    | [] => ""
    | ['/', '/'] => "//"
    | _ => "/"
  let text := root ++ "/".intercalate names.dropLast
  if text = "" then "." else text

end DeskCalc.Files
