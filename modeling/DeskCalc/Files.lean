import DeskCalc.Text.Quoted

/-!
# Files

A tree of files and directories as far as the program can see it: absolute locations with what is
there, a working directory for relative paths, and home directories for paths that start with a
tilde. A location not listed holds nothing; the root is always a directory. Two devices are places
to write to that keep nothing.

`node?_put_self` and `node?_put_of_ne` say that putting a file at a location changes what is there
and nothing else.
-/

namespace DeskCalc

/-- An absolute location: the components from the root. -/
abbrev Location := List String

/-- A place to write to that keeps nothing. -/
inductive Device
  /-- Takes everything, and is empty. -/
  | null
  /-- Has no space for anything. -/
  | full
  deriving DecidableEq

/-- What is at a location. -/
inductive Node
  | file (content : ByteArray)
  | directory
  | device (d : Device)

/-- Why a path cannot be read or written. -/
inductive FileCause
  | notFound
  /-- A component before the last is a file. -/
  | notDirectory
  | isDirectory
  | nameTooLong
  /-- There is no space left to write to. -/
  | noSpace
  /-- The path holds the null character, so no file can have it. -/
  | nullCharacter
  deriving DecidableEq

/-- A path that cannot be read or written. -/
structure FileError where
  /-- Why. -/
  cause : FileCause
  /-- The path as it was given, the home directory written out. -/
  path : String
  deriving DecidableEq

namespace FileError

/-- The name of the kind of error. -/
def name (e : FileError) : String :=
  match e.cause with
  | .notFound => "FileNotFoundError"
  | .notDirectory => "NotADirectoryError"
  | .isDirectory => "IsADirectoryError"
  | .nameTooLong | .noSpace => "OSError"
  | .nullCharacter => "ValueError"

/-- The error in words, with the number that the system has for it. -/
def message (e : FileError) : String :=
  let shown := Text.quoted e.path
  match e.cause with
  | .notFound => s!"[Errno 2] No such file or directory: {shown}"
  | .notDirectory => s!"[Errno 20] Not a directory: {shown}"
  | .isDirectory => s!"[Errno 21] Is a directory: {shown}"
  | .nameTooLong => s!"[Errno 36] File name too long: {shown}"
  | .noSpace => "[Errno 28] No space left on device"
  | .nullCharacter => "embedded null byte"

/-- The system refused the path. The null character is refused before it is asked. -/
def isSystem (e : FileError) : Bool :=
  e.cause != .nullCharacter

end FileError

/-- Files and directories, and where paths start. -/
structure Files where
  /-- What is where. The first entry of a location counts. -/
  nodes : List (Location × Node)
  /-- Where relative paths start. -/
  workingDirectory : Location
  /-- The path of the home directory. -/
  home : String
  /-- The paths of the home directories of the users of the machine, by their names. -/
  userHomes : List (String × String)

namespace Files

/-- What is at a location. -/
def node? (fs : Files) : Location → Option Node
  | [] => some .directory
  | l => fs.nodes.lookup l

/-- Puts a file at a location: in place of the entry there, or after all others. -/
def putNode (l : Location) (content : ByteArray) :
    List (Location × Node) → List (Location × Node)
  | [] => [(l, .file content)]
  | entry :: rest =>
    if entry.1 = l then (l, .file content) :: rest else entry :: putNode l content rest

/-- The files with this content at a location. -/
def put (fs : Files) (l : Location) (content : ByteArray) : Files :=
  { fs with nodes := putNode l content fs.nodes }

theorem lookup_putNode_self (l : Location) (content : ByteArray) (nodes : List (Location × Node)) :
    (putNode l content nodes).lookup l = some (.file content) := by
  induction nodes with
  | nil => simp [putNode]
  | cons entry rest ih =>
    obtain ⟨l', n⟩ := entry
    by_cases h : l' = l
    · simp [putNode, h]
    · have : (l == l') = false := by simpa using Ne.symm h
      simp [putNode, h, List.lookup_cons, this, ih]

theorem lookup_putNode_of_ne {l m : Location} (h : m ≠ l) (content : ByteArray)
    (nodes : List (Location × Node)) : (putNode l content nodes).lookup m = nodes.lookup m := by
  have hml : (m == l) = false := by simpa using h
  induction nodes with
  | nil => simp [putNode, List.lookup_cons, hml]
  | cons entry rest ih =>
    obtain ⟨l', n⟩ := entry
    by_cases hl : l' = l
    · subst hl
      simp [putNode, List.lookup_cons, hml]
    · simp [putNode, hl, List.lookup_cons, ih]

/-- A file is where it was put. -/
theorem node?_put_self (fs : Files) {l : Location} (h : l ≠ []) (content : ByteArray) :
    (fs.put l content).node? l = some (.file content) := by
  cases l with
  | nil => exact absurd rfl h
  | cons name rest => exact lookup_putNode_self _ _ _

/-- Putting a file changes nothing at other locations. -/
theorem node?_put_of_ne (fs : Files) {l m : Location} (h : m ≠ l) (content : ByteArray) :
    (fs.put l content).node? m = fs.node? m := by
  cases m with
  | nil => rfl
  | cons name rest => exact lookup_putNode_of_ne h _ _

end Files

end DeskCalc
