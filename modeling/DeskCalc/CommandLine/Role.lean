import DeskCalc.CommandLine.Flag
import DeskCalc.Text.Class

/-!
# Roles of words

What a word of the command line is by itself: a plain word, a word with flags, a word that starts
like a flag and is none, or a flag misused, which is an error only when it is read.

A word that looks like a negative number, or holds a space, is plain although it starts with a dash,
unless its first letter is a short flag. Short switches can share one dash (`-ms`), and a short
setting can have its value attached (`-ffile`). A long flag may be cut short; a word that could be
several of them has no role.

The rules for what is attached to a flag have changed, so they are a parameter (`Rules`). Which of
them hold is a matter of the machine that the program is run on. They differ on letters behind a
short switch that are no flags (`-ax`), on an equals sign behind a short switch (`-a=s`), and on two
dashes attached to a setting, which were taken for a mark and dropped, so that the setting was given
no value at all (`Value.absent`).
-/

namespace DeskCalc.CommandLine

/-- The points in which the rules for what is attached to a flag have changed. -/
structure Rules where
  /-- Two dashes attached to a setting are its value. -/
  keepsDashes : Bool
  /-- Letters behind a short switch that are no flags are left over, with a dash in front, and an
  equals sign behind a short switch is refused. -/
  leavesLetters : Bool

/-- The first rules: dashes are dropped, letters that are no flags are refused, and an equals sign
behind the first switch is passed over. -/
def Rules.early : Rules := ⟨false, false⟩

/-- The rules now. -/
def Rules.late : Rules := ⟨true, true⟩

/-- What a setting is given. -/
inductive Value
  | text (s : String)
  /-- Nothing, although something was there. -/
  | absent

/-- The text, if there is one. -/
def Value.text? : Value → Option String
  | text s => some s
  | absent => none

/-- What is given by a text attached to a flag. -/
def Value.ofAttached (rules : Rules) (text : List Char) : Value :=
  if text = ['-', '-'] ∧ rules.keepsDashes = false then .absent else .text (.ofList text)

/-- What is behind the switches of a word. -/
inductive Tail
  | nothing
  /-- A setting, with its value unless that is the next word. -/
  | setting (s : Setting) (value : Option Value)
  /-- Letters that are no flags, with a dash in front. They are left over. -/
  | letters (word : String)

/-- What a word with flags asks for. -/
structure Use where
  /-- Switches, from left to right. -/
  switches : List Switch
  tail : Tail

/-- The role of a word. -/
inductive Role
  /-- No flag, but possibly a value. -/
  | plain
  /-- Starts as a flag does, but is none. -/
  | unknown
  | flags (u : Use)
  /-- A switch with more behind it than switches can have, which is refused when it is read. -/
  | misused

/-- A single flag without an attached value. -/
def Use.ofFlag : Flag → Use
  | .switch s => ⟨[s], .nothing⟩
  | .setting s => ⟨[], .setting s none⟩

/-- What is left of a text without an equals sign in front. -/
def afterSign : List Char → List Char
  | '=' :: text => text
  | text => text

/-- The value attached to a short setting behind switches, if there is one. -/
def Value.ofCluster? (rules : Rules) (text : List Char) : Option Value :=
  if text = [] then none
  else some (.ofAttached rules (if rules.leavesLetters then afterSign text else text))

/-- The flags in the letters after a switch and its dash. -/
def cluster? (rules : Rules) : List Char → Option Use
  | [] => some ⟨[], .nothing⟩
  | c :: rest =>
    match Flag.ofSpelling? (.ofList ['-', c]) with
    | some (.switch s) => (cluster? rules rest).map fun u => { u with switches := s :: u.switches }
    | some (.setting s) => some ⟨[], .setting s (Value.ofCluster? rules rest)⟩
    | none =>
      if rules.leavesLetters ∧ c ≠ '=' ∧ c ≠ '-' then
        some ⟨[], .letters (.ofList ('-' :: c :: rest))⟩
      else none

/-- The role of a long flag with a text after an equals sign. -/
def Role.ofInline (rules : Rules) (text : List Char) : Flag → Role
  | .switch _ => .misused
  | .setting s => .flags ⟨[], .setting s (some (.ofAttached rules text))⟩

/-- The role of a short flag with a text attached. -/
def Role.ofAttached (rules : Rules) (text : List Char) : Flag → Role
  | .switch s =>
    let letters := if rules.leavesLetters then text else afterSign text
    match if letters = [] then none else cluster? rules letters with
    | some u => .flags { u with switches := s :: u.switches }
    | none => .misused
  | .setting s => .flags ⟨[], .setting s (some (.ofAttached rules (afterSign text)))⟩

/-- A decimal digit of any script. -/
def isDecimal (c : Char) : Bool :=
  (Text.decimalDigit? c).isSome

/-- A dash, digits, and possibly a point with digits after it. One line feed at the end does not
matter, and with a point there need not be digits before it. -/
def isNegativeNumber (word : List Char) : Bool :=
  match word with
  | '-' :: rest =>
    let body := if rest.getLast? = some '\n' then rest.dropLast else rest
    match body.dropWhile isDecimal with
    | [] => !body.isEmpty
    | '.' :: fraction => !fraction.isEmpty && fraction.all isDecimal
    | _ => false
  | _ => false

/-- The role of a word that is no flag and starts with a dash. -/
def Role.ofDashed (word : String) : Role :=
  if isNegativeNumber word.toList || word.toList.contains ' ' then .plain else .unknown

/-- The role of a word, `none` where it could be several long flags. -/
def role? (rules : Rules) (word : String) : Option Role :=
  match word.toList with
  | '-' :: c :: rest =>
    match Flag.ofSpelling? word with
    | some f => some (.flags (.ofFlag f))
    | none =>
      let inline := (Flag.inlineValue? word).map String.toList
      if c = '-' then
        match Flag.ofSpelling? (Flag.stem word), inline with
        | some f, some text => some (.ofInline rules text f)
        | _, _ =>
          match Flag.startingWith (Flag.stem word), inline with
          | [], _ => some (.ofDashed word)
          | [f], none => some (.flags (.ofFlag f))
          | [f], some text => some (.ofInline rules text f)
          | _, _ => none
      else
        match Flag.ofSpelling? (.ofList ['-', c]) with
        | some f => some (.ofAttached rules rest f)
        | none => some (.ofDashed word)
  | _ => some .plain

end DeskCalc.CommandLine
