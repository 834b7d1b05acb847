/-!
# Flags

The words of the command line that choose something. A switch stands for itself; a setting takes a
value. Each has one or two spellings, and a long spelling may be cut short as long as it is the
only one that starts so; what follows an equals sign is then the value.

The words that are no flags and no values of flags are the expression, in their order. Two dashes
alone end the flags: every word after them belongs to the expression.
-/

namespace DeskCalc.CommandLine

/-- A flag without a value. -/
inductive Switch
  /-- Explain the command line and stop. -/
  | help
  /-- Ask for one expression. -/
  | single
  /-- Ask for expressions until told to stop. -/
  | multiple
  /-- Take the expression from the command line. -/
  | argument
  /-- Record nothing. -/
  | noHistory
  /-- Show the postfix form before the result. -/
  | showPostfix
  deriving DecidableEq

/-- A flag with a value. -/
inductive Setting
  /-- Evaluate every line of a file. -/
  | batchFile
  /-- Write the results of a batch to a file. -/
  | outputPath
  /-- Record expressions in this file. -/
  | historyPath
  /-- The base of `log`. -/
  | logBase
  /-- The least level of log lines. -/
  | logLevel
  deriving DecidableEq

/-- A flag. -/
inductive Flag
  | switch (s : Switch)
  | setting (s : Setting)
  deriving DecidableEq

namespace Flag

/-- All spellings, in the order in which the flags are explained. -/
def spellings : List (String × Flag) :=
  [("-h", switch .help), ("--help", switch .help),
   ("-s", switch .single),
   ("-m", switch .multiple),
   ("-a", switch .argument),
   ("-f", setting .batchFile), ("--batch_file", setting .batchFile),
   ("--output_path", setting .outputPath),
   ("--history_path", setting .historyPath),
   ("--no_history", switch .noHistory),
   ("--log_base", setting .logBase),
   ("--show_postfix", switch .showPostfix),
   ("--log_level", setting .logLevel)]

/-- The flag of a full spelling. -/
def ofSpelling? (word : String) : Option Flag :=
  spellings.lookup word

/-- The last spelling of the flag. -/
def spelling (f : Flag) : String :=
  ((spellings.filter (·.2 = f)).getLast?.map Prod.fst).getD ""

/-- The flag takes a value. -/
def takesValue : Flag → Bool
  | switch _ => false
  | setting _ => true

/-- A long spelling, possibly cut short, starts with two dashes. -/
def isLong (word : String) : Bool :=
  ['-', '-'].isPrefixOf word.toList

/-- The word up to its first equals sign. -/
def stem (word : String) : String :=
  .ofList (word.toList.takeWhile (· ≠ '='))

/-- What follows the first equals sign of the word. -/
def inlineValue? (word : String) : Option String :=
  match word.toList.dropWhile (· ≠ '=') with
  | [] => none
  | _ :: value => some (.ofList value)

/-- The flags with a spelling that starts like the word. -/
def startingWith (word : String) : List Flag :=
  (spellings.filter fun s => word.toList.isPrefixOf s.1.toList).map Prod.snd

/-- The flag that a word means on its own, and whether it brings its value along. A full spelling
counts first, then the spelling before the equals sign, then the only one that starts so. -/
def find? (word : String) : Option (Flag × Bool) :=
  match ofSpelling? word with
  | some f => some (f, false)
  | none =>
    if isLong word then
      let inline := (inlineValue? word).isSome
      match ofSpelling? (stem word) with
      | some f => some (f, inline)
      | none =>
        match startingWith (stem word) with
        | [f] => some (f, inline)
        | _ => none
    else none

end Flag

/-- The words of the expression. -/
def expressionWords : List String → List String
  | [] => []
  | word :: rest =>
    if word = "--" then rest
    else
      match Flag.find? word with
      | none => word :: expressionWords rest
      | some (f, inline) =>
        if f.takesValue && !inline then
          match rest with
          | [] => []
          | _ :: rest => expressionWords rest
        else expressionWords rest

/-- The expression, with single spaces between the words. -/
def expression (arguments : List String) : String :=
  " ".intercalate (expressionWords arguments)

end DeskCalc.CommandLine
