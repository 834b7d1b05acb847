import DeskCalc.Text.Quoted

/-!
# Hosts

What can stand between the two slashes of an address and the next slash. Brackets come in pairs and
hold an address of numbers: eight groups of hexadecimal digits, of which two colons can leave out
any number of zeros and the last two can be written as four decimal numbers, or a later kind of
address, marked by a `v`. A character that is compatible with a mark of an address, such as a wide
colon, is refused.
-/

namespace DeskCalc.Host

/-- What is wrong with a host. -/
inductive Fault
  /-- A bracket has no counterpart. -/
  | brackets
  /-- No address of a later kind. -/
  | future
  /-- No address of numbers. -/
  | noAddress (text : String)
  /-- Four decimal numbers between brackets. -/
  | fourNumbers
  /-- A character that is compatible with a mark. -/
  | compatible (host : String)
  deriving DecidableEq

/-- The fault in words. -/
def Fault.message : Fault → String
  | brackets => "Invalid IPv6 URL"
  | future => "IPvFuture address is invalid"
  | noAddress text => s!"{Text.quoted text} does not appear to be an IPv4 or IPv6 address"
  | fourNumbers => "An IPv4 address cannot be in brackets"
  | compatible host => s!"netloc '{host}' contains invalid characters under NFKC normalization"

/-- The character is a hexadecimal digit. -/
def isHexDigit (c : Char) : Bool :=
  c.isDigit || ('a' ≤ c && c ≤ 'f') || ('A' ≤ c && c ≤ 'F')

/-- A number below 256 without needless zeros. -/
def isOctet (s : List Char) : Bool :=
  !s.isEmpty && s.all Char.isDigit && s.length ≤ 3 && (s.length = 1 || s.head? != some '0') &&
    s.foldl (fun n c => 10 * n + (c.toNat - '0'.toNat)) 0 ≤ 255

/-- Four decimal numbers with points between them. -/
def isFourNumbers (s : List Char) : Bool :=
  let numbers := s.splitOn '.'
  numbers.length = 4 && numbers.all isOctet

/-- One to four hexadecimal digits. -/
def isGroup (s : List Char) : Bool :=
  !s.isEmpty && s.length ≤ 4 && s.all isHexDigit

/-- The groups of a text, where four decimal numbers at its end count as two groups. -/
def groups (s : List Char) : List (List Char) :=
  let parts := s.splitOn ':'
  match parts.getLast? with
  | some last => if isFourNumbers last then parts.dropLast ++ [['0'], ['0']] else parts
  | none => parts

/-- The groups before a gap, if the text starts with the gap or with a group. -/
def beforeGap (parts : List (List Char)) : List (List Char) :=
  if parts = [[]] then [] else parts

/-- Eight groups, or fewer with one gap between two colons. -/
def isEightGroups (s : List Char) : Bool :=
  let parts := groups s
  let inner := (parts.drop 1).dropLast
  match inner.count [] with
  | 0 => parts.length = 8 && parts.all isGroup
  | 1 =>
    let gap := inner.idxOf [] + 1
    let known := beforeGap (parts.take gap) ++ beforeGap (parts.drop (gap + 1))
    known.length < 8 && known.all isGroup
  | _ => false

/-- An address of eight groups, possibly with a zone after a percent sign. -/
def isNumeric (s : List Char) : Bool :=
  match s.splitOn '%' with
  | [address] => isEightGroups address
  | [address, zone] => !zone.isEmpty && isEightGroups address
  | _ => false

/-- A `v`, hexadecimal digits, a point and something after it. -/
def isFuture (s : List Char) : Bool :=
  match s with
  | 'v' :: rest =>
    match rest.takeWhile isHexDigit, rest.dropWhile isHexDigit with
    | _ :: _, '.' :: _ :: _ => true
    | _, _ => false
  | _ => false

/-- The text between the first opening bracket and the closing one after it. -/
def bracketed (host : List Char) : List Char :=
  ((host.dropWhile (· ≠ '[')).drop 1).takeWhile (· ≠ ']')

/-- What is wrong between brackets. -/
def bracketFault? (s : List Char) : Option Fault :=
  if s.head? = some 'v' then if isFuture s then none else some .future
  else if isFourNumbers s then some .fourNumbers
  else if isNumeric s then none
  else some (.noAddress (.ofList s))

/-- The characters that are compatible with a text that has a mark in it. -/
def compatibles : List Char :=
  ['⁇', '⁈', '⁉', '℀', '℁', '℅', '℆', '⩴', '︓', '︖', '﹕', '﹖', '﹟', '﹫', '＃', '／', '：', '？', '＠']

/-- What is wrong with a host. -/
def fault? (host : List Char) : Option Fault :=
  if host.contains '[' != host.contains ']' then some .brackets
  else
    match if host.contains '[' then bracketFault? (bracketed host) else none with
    | some f => some f
    | none =>
      if host.any compatibles.contains then some (.compatible (.ofList host)) else none

end DeskCalc.Host
