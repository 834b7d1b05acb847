import DeskCalc.Files.Host
import DeskCalc.Files.Path
import DeskCalc.Text.Line
import DeskCalc.Text.Utf8

/-!
# Addresses

A text that starts with the name of a protocol and a colon is an address and no path; spaces and
controls before the name do not count. What is at an address can only be looked at, so results sent
to one are lost; and most addresses cannot even be looked at. The program has no network: no host
but the machine itself is known, and the machine answers no call. A file of the machine is found by
its path, in which a percent sign and two hexadecimal digits stand for a byte.

A text that starts with a scheme that is no protocol, a colon and two slashes means a store, which
is another matter (`Destination`); a store can be reached through others, two colons apart.
-/

namespace DeskCalc

/-- What is named by a protocol. -/
structure Address where
  /-- The protocol. -/
  scheme : String
  /-- What stands between two slashes and the next slash, if two slashes follow the colon. -/
  host : Option String
  /-- The rest. -/
  path : String

/-- The first so many characters, which a line can be written in. -/
structure Alphabet where
  /-- Its name. -/
  name : String
  /-- The number of its characters. -/
  size : Nat

namespace Alphabet

/-- The alphabet of the first line of a request. -/
def ascii : Alphabet := ⟨"ascii", 128⟩

/-- The alphabet of the lines after it. -/
def latin : Alphabet := ⟨"latin-1", 256⟩

/-- Characters that follow each other and cannot be written. -/
structure Fault where
  /-- The first of them. -/
  first : Char
  /-- Its position. -/
  position : Nat
  /-- How many they are. -/
  count : Nat

/-- The fault in words. -/
def message (a : Alphabet) (f : Fault) : String :=
  let code := String.ofList (Text.escapedCode f.first)
  let place :=
    if f.count = 1 then s!"character '{code}' in position {f.position}"
    else s!"characters in position {f.position}-{f.position + f.count - 1}"
  s!"'{a.name}' codec can't encode {place}: ordinal not in range({a.size})"

/-- The first fault of a text that stands after so many characters of its line. -/
def fault? (a : Alphabet) (before : Nat) (text : List Char) : Option Fault :=
  let plain := text.takeWhile (·.toNat < a.size)
  match text.drop plain.length with
  | [] => none
  | c :: rest => some ⟨c, before + plain.length, (rest.takeWhile (a.size ≤ ·.toNat)).length + 1⟩

end Alphabet

/-- Why an address cannot be looked at. -/
inductive AddressError
  | host (f : Host.Fault)
  /-- There is no way to use the protocol. -/
  | unknownScheme (scheme : String)
  /-- The protocol needs a host. -/
  | noHost (transfer : Bool)
  /-- The host is not known. -/
  | unknownHost
  /-- The host does not answer. -/
  | refused
  /-- A path with two slashes at its start, after the name of another machine. -/
  | elsewhere
  /-- A file after the name of another machine. -/
  | notLocal
  | file (e : FileError)
  /-- What follows the last colon of a host is no number. -/
  | badPort (text : String)
  /-- A host or a path holds a space or a control. -/
  | control (text : String) (c : Char)
  /-- A line of a request holds characters that its alphabet has no place for. -/
  | unwritable (a : Alphabet) (f : Alphabet.Fault)

namespace AddressError

/-- The reason in words. -/
def reason : AddressError → String
  | host f => f.message
  | unknownScheme scheme => s!"unknown url type: {scheme}"
  | noHost transfer => if transfer then "ftp error: no host given" else "no host given"
  | unknownHost => "[Errno -3] Temporary failure in name resolution"
  | refused => "[Errno 111] Connection refused"
  | elsewhere => "file:// scheme is supported only on localhost"
  | notLocal => "file not on local host"
  | file e => e.message
  | badPort text => s!"nonnumeric port: '{text}'"
  | control text c =>
    s!"URL can't contain control characters. {Text.quoted text} " ++
      s!"(found at least {Text.quoted (.singleton c)})"
  | unwritable a f => a.message f

/-- The name of the kind of error. -/
def name : AddressError → String
  | host _ => "ValueError"
  | file e => if e.isSystem then "URLError" else e.name
  | badPort _ | control .. => "InvalidURL"
  | unwritable .. => "UnicodeEncodeError"
  | _ => "URLError"

/-- The error in words. A failed look says that it is one. -/
def message (e : AddressError) : String :=
  if e.name = "URLError" then s!"<urlopen error {e.reason}>" else e.reason

end AddressError

namespace Address

/-- The protocols. -/
def protocols : List String :=
  ["file", "ftp", "git", "git+ssh", "gopher", "hdl", "http", "https", "imap", "mms", "nfs", "nntp",
   "prospero", "rsync", "rtsp", "rtsps", "rtspu", "sftp", "shttp", "sip", "sips", "snews", "svn",
   "svn+ssh", "tel", "telnet", "wais", "ws", "wss"]

/-- The number of the machine itself. -/
def ownNumber : String := "127.0.0.1"

/-- The names by which the machine knows itself. -/
def ownNames : List String := ["localhost", ownNumber, "::1"]

/-- The character can stand in a scheme. -/
def isSchemeChar (c : Char) : Bool :=
  c.isAlphanum || c == '+' || c == '-' || c == '.'

/-- The scheme that a text starts with, and what follows the colon after it. -/
def splitScheme? (text : List Char) : Option (List Char × List Char) :=
  let scheme := text.takeWhile (· ≠ ':')
  match text.dropWhile (· ≠ ':') with
  | [] => none
  | _ :: rest =>
    if scheme.head?.any Char.isAlpha ∧ scheme.all isSchemeChar then some (scheme, rest) else none

/-- The text without what does not count when a scheme is looked for: spaces and controls at its
start, and tabs and line ends anywhere. -/
def unbroken (text : List Char) : List Char :=
  (text.dropWhile (· ≤ ' ')).filter fun c => c ≠ '\t' ∧ c ≠ '\n' ∧ c ≠ '\r'

/-- The character ends a host. -/
def endsHost (c : Char) : Bool :=
  c == '/' || c == '?' || c == '#'

/-- The host after two slashes, and what follows it. -/
def splitHost (text : List Char) : Option (List Char) × List Char :=
  match text with
  | '/' :: '/' :: rest =>
    let path := rest.dropWhile (!endsHost ·)
    (some (rest.takeWhile (!endsHost ·)),
      if path = [] ∨ path.head? = some '/' then path else '/' :: path)
  | _ => (none, text)

/-- The value of a hexadecimal digit. -/
def hexValue? (c : Char) : Option Nat :=
  if c.isDigit then some (c.toNat - '0'.toNat)
  else if 'a' ≤ c ∧ c ≤ 'f' then some (c.toNat - 'a'.toNat + 10)
  else if 'A' ≤ c ∧ c ≤ 'F' then some (c.toNat - 'A'.toNat + 10)
  else none

/-- The byte of two hexadecimal digits. -/
def hexByte? (high low : Char) : Option UInt8 := do
  return .ofNat (16 * (← hexValue? high) + (← hexValue? low))

/-- The bytes of a text in which a percent sign and two digits stand for a byte. -/
def percentBytes : List Char → List UInt8
  | [] => []
  | '%' :: high :: low :: more =>
    match hexByte? high low with
    | some b => b :: percentBytes more
    | none => 0x25 :: percentBytes (high :: low :: more)
  | c :: rest => (String.singleton c).toUTF8.toList ++ percentBytes rest

/-- The text without percent signs for bytes. -/
def unescape (text : List Char) : String :=
  Text.Utf8.decodeLossy (percentBytes text)

/-- The text before the last number sign, or the whole text if there is none. -/
def withoutFragment (text : List Char) : List Char :=
  match text.reverse.dropWhile (· ≠ '#') with
  | [] => text
  | _ :: kept => kept.reverse

/-- The parts of an address. -/
def ofText (text : List Char) : Address :=
  let text := withoutFragment (Text.trim text)
  let (host, path) := splitHost ((text.dropWhile (· ≠ ':')).drop 1)
  ⟨.ofList ((text.takeWhile (· ≠ ':')).map Char.toLower), host.map unescape, .ofList path⟩

/-- The address has a host that is not empty. -/
def hasHost (a : Address) : Bool :=
  a.host.getD "" != ""

/-- The name of a host and the number of a port, which follows the last colon after all brackets. -/
def splitPort (host : List Char) : List Char × Option (List Char) :=
  let port := (host.reverse.takeWhile fun c => c ≠ ':' ∧ c ≠ ']').reverse
  let name := host.take (host.length - port.length)
  if name.getLast? = some ':' then (name.dropLast, some port) else (host, none)

/-- The first space or control of a text, where there can be none. -/
def control? (text : List Char) : Option Char :=
  text.find? fun c => c ≤ ' ' || c = '\x7f'

/-- The characters of a request before its path. -/
def requestStart : Nat := 4

/-- What is wrong with the lines of a request: its path comes first, then the host. -/
def lineError? (host path : List Char) : Option AddressError :=
  match control? path with
  | some c => some (.control (.ofList path) c)
  | none =>
    match Alphabet.ascii.fault? requestStart path with
    | some f => some (.unwritable .ascii f)
    | none => (Alphabet.latin.fault? 0 host).map (.unwritable .latin)

/-- Calls a host by its name. -/
def answer (name : List Char) : AddressError :=
  if String.ofList (name.map Char.toLower) ∈ ownNames then .refused else .unknownHost

/-- Transfers a file from the host. What follows a colon belongs to the name unless it is a
number. -/
def transferFile (a : Address) : AddressError :=
  let host := (a.host.getD "").toList
  let (name, port) := splitPort host
  if !a.hasHost then .noHost true
  else answer (if (port.getD []).all Char.isDigit then name else host)

/-- Requests a page from the host. -/
def requestPage (a : Address) : AddressError :=
  let host := (a.host.getD "").toList
  let (name, port) := splitPort host
  let name :=
    if name.head? = some '[' ∧ name.getLast? = some ']' then (name.drop 1).dropLast else name
  if !a.hasHost then .noHost false
  else if !(port.getD []).all Char.isDigit then .badPort (.ofList (port.getD []))
  else
    match control? name with
    | some c => .control (.ofList name) c
    | none => (lineError? host a.path.toList).getD (answer name)

/-- The host is the machine itself. -/
def isOwn (a : Address) : Bool :=
  let (name, port) := splitPort (a.host.getD "").toList
  (port.getD []).isEmpty &&
    (name.isEmpty || ownNames.contains (.ofList (name.map Char.toLower)))

/-- Looks at a file of the machine. -/
def openFile (fs : Files) (a : Address) : Except AddressError Unit :=
  if a.path.toList.take 2 = ['/', '/'] ∧ a.path.toList[2]? ≠ some '/' ∧ a.hasHost ∧
      a.host ≠ some "localhost" then
    .error (if a.host = some ownNumber then .unknownScheme a.scheme else .elsewhere)
  else
    match fs.read (unescape a.path.toList) with
    | .ok _ => if a.isOwn then .ok () else .error .notLocal
    | .error e =>
      if e.cause = .isDirectory ∧ !a.isOwn then .error .notLocal else .error (.file e)

/-- Looks at what is at an address. -/
def look (fs : Files) (a : Address) : Except AddressError Unit :=
  match a.scheme with
  | "file" => a.openFile fs
  | "http" | "https" => .error a.requestPage
  | "ftp" => .error a.transferFile
  | scheme => .error (.unknownScheme scheme)

end Address

/-- What a text names as a place to write to. -/
inductive Destination
  | path
  | address (a : Address)
  /-- A store that is neither a file nor at an address. -/
  | store

namespace Destination

open Address

/-- What follows the first letter of schemes with two colons between them, up to a colon and two
slashes. `opened` says that two colons have just been read, so that a scheme has to follow. -/
def endsSchemes (opened : Bool) : List Char → Bool
  | ':' :: '/' :: '/' :: _ => !opened
  | ':' :: ':' :: rest => !opened && endsSchemes true rest
  | c :: rest => isSchemeChar c && endsSchemes false rest
  | [] => false

/-- The text names a store: schemes of which the first starts with a letter, a colon and two
slashes. -/
def isStore (text : List Char) : Bool :=
  match text with
  | c :: rest => c.isAlpha && endsSchemes false rest
  | [] => false

/-- What a text names. -/
def ofText (text : List Char) : Except AddressError Destination :=
  let seen := unbroken text
  let (scheme, rest) := (splitScheme? seen).getD ([], seen)
  match Host.fault? ((splitHost rest).1.getD []) with
  | some f => .error (.host f)
  | none =>
    if String.ofList (scheme.map Char.toLower) ∈ protocols then .ok (.address (.ofText text))
    else if isStore text then .ok .store
    else .ok .path

end Destination

end DeskCalc
