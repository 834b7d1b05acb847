import DeskCalc.Proofs.CommandLine.Value
import DeskCalc.Proofs.Report.Table
import DeskCalc.Proofs.Session.Dialog

/-!
# How a session ends

A session that is no batch ends with status 0 or 1, and with 1 exactly if it has one expression and
this has no value, about which one line is reported (`EndsInOrder`). Neither the lines it is given
nor the files it finds can change that, and of the command line only two settings can (`Usable`):
the level of the log, which must not be one of two reserved names, and the base of `log`; both have
to be there. So `run_endsInOrder_iff` has an equivalence in it. It holds under any rules for what is
attached to a flag; under rules that keep dashes both settings are always there, and only the
reserved names are left. Words and lines are texts of Unicode characters, so the history can write
all of them.
-/

namespace DeskCalc

open Text Calculator

/-- The name is, in capitals, one that the log knows and that stands for no level. -/
def Log.IsReserved (name : String) : Prop :=
  String.ofList (name.toList.flatMap Log.capitals) ∈ ["BASIC_FORMAT", "_STYLES"]

instance (name : String) : Decidable (Log.IsReserved name) :=
  inferInstanceAs (Decidable (_ ∈ [_, _]))

/-- Only names that are reserved are no thresholds. -/
theorem Log.exists_threshold_iff {name : String} :
    (∃ rank, Log.threshold name = .ok rank) ↔ ¬ IsReserved name := by
  have hnames : reserved.map Prod.fst = ["BASIC_FORMAT", "_STYLES"] := rfl
  rw [IsReserved, ← hnames, threshold]
  cases hlookup : reserved.lookup (String.ofList (name.toList.flatMap capitals)) with
  | some r =>
    obtain ⟨before, after, hs, -⟩ := List.lookup_eq_some_iff.1 hlookup
    refine iff_of_false nofun fun hnot => hnot ?_
    rw [hs, List.map_append]
    exact List.mem_append_right _ (.head _)
  | none =>
    refine iff_of_true ⟨_, rfl⟩ fun hmem => ?_
    obtain ⟨p, hp, hname⟩ := List.mem_map.1 hmem
    have hne := List.lookup_eq_none_iff.1 hlookup p hp
    exact bne_iff_ne.1 hne hname.symm

namespace Session

/-- The choices are there, and name a level of the log. -/
structure Usable (choices : CommandLine.Choices) : Prop where
  logBase : choices.logBase ≠ none
  logLevel : ∃ level, choices.logLevel = some level ∧ ¬ Log.IsReserved level

/-- The calculator of the choices. -/
def calculatorOf (choices : CommandLine.Choices) : Calculator :=
  { standard with logBase := choices.logBase.getD standard.logBase }

/-- The expression of a session that has one at most: that of the command line, or the first
line. -/
def onlyExpression? (mode : Option CommandLine.Mode) (expression : String) (lines : List String) :
    Option String :=
  match mode with
  | some .multiple => none
  | some .single => lines.head?
  | some .argument | none => if expression = "" then lines.head? else some expression

/-- A session with one expression at most ends in order. -/
structure EndsInOrder (calculator : Calculator) (only : Option String) (ending : Ending) :
    Prop where
  status : ending.exit = .ok 0 ∨ ending.exit = .ok 1
  /-- It fails exactly if its expression does. -/
  fails_iff : ending.exit = .ok 1 ↔
    ∃ e cause, only = some e ∧ calculator.evaluate e = .error cause
  /-- Then one line is reported, the words of the error. -/
  reported : ending.exit = .ok 1 →
    ∃ e cause error, only = some e ∧ calculator.evaluate e = .error cause ∧
      cause.toExpressionError? = some error ∧ '\n' ∉ error.description.toList ∧
      Event.failureText ending.events = "Error: " ++ error.description ++ "\n"

section
variable {setup : Setup} {files : Files} {e : String} {only : Option String} {ending : Ending}
  {t : Turn} {lines arguments : List String} {reading : CommandLine.Reading} {fault : Fault}
  {rank : Nat} {rules : CommandLine.Rules}

/-! ## One expression at most -/

/-- Without an expression there is nothing to fail. -/
theorem endsInOrder_none {calculator : Calculator} (hexit : ending.exit = .ok 0) :
    EndsInOrder calculator none ending := by
  have hne : ending.exit ≠ .ok 1 := by rw [hexit]; nofun
  exact ⟨.inl hexit, iff_of_false hne nofun, fun h => absurd h hne⟩

/-- A session that ends after the run of an expression, with what the run reported. -/
theorem endsInOrder_of_process (hsound : Sound setup files)
    (hexit : ending.exit = (process setup files e).outcome.map fun ok => if ok then 0 else 1)
    (hevents : Event.failureText ending.events =
      Event.failureText (process setup files e).events) :
    EndsInOrder setup.calculator (some e) ending := by
  obtain ⟨outcome, hanswer⟩ := exists_answer hsound.places e
  obtain ⟨houtcome, hreport⟩ := process_of_answer hsound hanswer
  rw [houtcome] at hexit
  rw [hreport] at hevents
  cases hanswer with
  | value hvalue =>
    have hne : ending.exit ≠ .ok 1 := by rw [hexit]; nofun
    refine ⟨.inl hexit, iff_of_false hne ?_, fun h => absurd h hne⟩
    rintro ⟨_, cause, hsame, hcause⟩
    cases hsame
    rw [hvalue] at hcause
    cases hcause
  | @error cause error herror hcause =>
    have hplain := List.all_eq_true.1 (all_isPlain_of_evaluate herror hcause)
    refine ⟨.inr hexit, iff_of_true hexit ⟨e, cause, rfl, herror⟩, fun _ => ?_⟩
    refine ⟨e, cause, error, rfl, herror, hcause, fun hmem => ?_, hevents⟩
    exact absurd (hplain _ hmem) (by decide)

/-- The only line is run, if there is one. -/
theorem endsInOrder_ask (hsound : Sound setup files) (lines : List String) :
    EndsInOrder setup.calculator lines.head? (converse setup ⟨[], files, .ask .only⟩ lines) := by
  cases lines with
  | nil => exact endsInOrder_none rfl
  | cons line rest =>
    refine endsInOrder_of_process hsound ?_ ?_ <;>
      rw [converse_cons, answer, showOnly, converse_stop]
    simp [Question.prompt, Event.failurePart]

/-- The expression of the command line is run. -/
theorem endsInOrder_showOnly (hsound : Sound setup files) (e : String) (lines : List String) :
    EndsInOrder setup.calculator (some e) (converse setup (showOnly setup files e) lines) := by
  refine endsInOrder_of_process hsound ?_ ?_ <;> rw [showOnly, converse_stop]

/-- Without an expression on the command line the only line is run. -/
theorem endsInOrder_argument (hsound : Sound setup files) (e : String) (lines : List String) :
    EndsInOrder setup.calculator (if e = "" then lines.head? else some e)
      (converse setup (if e = "" then ⟨[], files, .ask .only⟩ else showOnly setup files e)
        lines) := by
  split
  · exact endsInOrder_ask hsound lines
  · exact endsInOrder_showOnly hsound e lines

/-- What is logged first makes no difference. -/
theorem EndsInOrder.log {calculator : Calculator}
    (h : EndsInOrder calculator only (converse setup t lines)) (r : Log.Record) :
    EndsInOrder calculator only
      (converse setup { t with events := .log r :: t.events } lines) := by
  obtain ⟨events, files, next⟩ := t
  rw [converse_events] at h ⊢
  obtain ⟨hstatus, hfails, hreported⟩ := h
  refine ⟨hstatus, hfails, ?_⟩
  simpa [Event.failurePart] using hreported

/-! ## Sessions -/

/-- In each of its modes a session ends in order. -/
theorem endsInOrder_modeTurn (hsound : Sound setup files) (expression : String)
    (lines : List String) :
    EndsInOrder setup.calculator (onlyExpression? setup.choices.mode expression lines)
      (converse setup (modeTurn setup files expression) lines) := by
  rw [modeTurn]
  refine EndsInOrder.log ?_ _
  cases setup.choices.mode with
  | none =>
    have hends := endsInOrder_argument hsound expression lines
    rw [Option.getD_none, onlyExpression?]
    split at hends
    · next hempty => rwa [if_pos hempty, if_pos hempty]
    · next hempty => rwa [if_neg hempty, if_neg hempty, if_neg hempty]
  | some mode =>
    cases mode with
    | single => exact endsInOrder_ask hsound lines
    | multiple =>
      obtain ⟨expressions, events, -, hconverse⟩ := exists_dialog lines hsound
      exact endsInOrder_none (congrArg Ending.exit hconverse)
    | argument => exact endsInOrder_argument hsound expression lines

/-- So it does with a base of `log` and without a batch file. -/
theorem endsInOrder_firstTurn (hsound : Sound setup files) (hbase : setup.choices.logBase ≠ none)
    (hbatch : setup.choices.batchFile.getD "" = "") (expression : String) (lines : List String) :
    EndsInOrder setup.calculator (onlyExpression? setup.choices.mode expression lines)
      (converse setup (firstTurn setup files expression) lines) := by
  rw [firstTurn]
  refine EndsInOrder.log ?_ _
  rw [Option.isNone_eq_false_iff.2 (Option.isSome_iff_ne_none.2 hbase), hbatch]
  exact endsInOrder_modeTurn hsound expression lines

/-- Without a base of `log` it breaks off. -/
theorem exit_firstTurn (hbase : setup.choices.logBase = none) (expression : String)
    (lines : List String) :
    (converse setup (firstTurn setup files expression) lines).exit =
      .error (.unsupportedLogBase nothing) := by
  have hfirst : (firstTurn setup files expression).next =
      .stop (.error (.unsupportedLogBase nothing)) := by
    rw [firstTurn, hbase]
    rfl
  rw [converse_events, hfirst, converse_stop]

/-- A path that comes from words without the null character is without it. -/
theorem nullFree_historyPath (h : CommandLine.read rules arguments = .ok reading)
    (hwords : ∀ word ∈ arguments, NullFree word) :
    NullFree (reading.choices.historyPath.getD "") := by
  cases hpath : reading.choices.historyPath with
  | none => decide
  | some path =>
    rcases CommandLine.historyPath_of_read h path hpath with hstandard | ⟨word, hword, hsuffix⟩
    · cases hstandard
      decide
    · exact fun hmem => hwords word hword (hsuffix.subset hmem)

/-- A session with choices that are not usable breaks off before anything else. -/
theorem start_of_threshold_error (h : CommandLine.read rules arguments = .ok reading)
    (hthreshold : threshold reading.choices = .error fault) :
    start rules arguments files =
      .ok (⟨reading.choices, calculatorOf reading.choices, 0⟩,
        ⟨[], files, .stop (.error fault)⟩) := by
  rw [start, h]
  simp only [bind, Except.bind, hthreshold]
  rfl

theorem start_of_threshold (h : CommandLine.read rules arguments = .ok reading)
    (hthreshold : threshold reading.choices = .ok rank) :
    start rules arguments files =
      .ok (⟨reading.choices, calculatorOf reading.choices, rank⟩,
        firstTurn ⟨reading.choices, calculatorOf reading.choices, rank⟩ files
          (CommandLine.expression arguments)) := by
  rw [start, h]
  simp only [bind, Except.bind, hthreshold]
  rfl

theorem not_endsInOrder {calculator : Calculator} (hexit : ending.exit = .error fault) :
    ¬ EndsInOrder calculator only ending := by
  rintro ⟨hstatus, -, -⟩
  rw [hexit] at hstatus
  rcases hstatus with h | h <;> cases h

/-- The choices have a threshold if they name a level. -/
theorem exists_threshold_iff {choices : CommandLine.Choices} :
    (∃ rank, threshold choices = .ok rank) ↔
      ∃ level, choices.logLevel = some level ∧ ¬ Log.IsReserved level := by
  rw [threshold]
  cases choices.logLevel with
  | none => exact iff_of_false nofun nofun
  | some level =>
    simp only [Option.some.injEq, exists_eq_left', ← Log.exists_threshold_iff, mapError_eq_ok_iff]

/-- With a base of `log` and a level of the log only reserved names make choices unusable. -/
theorem usable_iff_of_complete {choices : CommandLine.Choices} (h : choices.Complete) :
    Usable choices ↔ ¬ Log.IsReserved (choices.logLevel.getD "") := by
  obtain ⟨level, hlevel⟩ := Option.ne_none_iff_exists'.1 h.logLevel
  rw [hlevel, Option.getD_some]
  constructor
  · rintro ⟨-, name, hname, hreserved⟩
    rw [hlevel] at hname
    cases hname
    exact hreserved
  · exact fun hreserved => ⟨h.logBase, level, hlevel, hreserved⟩

/-- **When a session ends in order.** On a command line that is in order and names no batch file,
whatever the lines and the files: exactly if the choices are usable. Where dashes are kept, that is
if the level of the log is no reserved name. -/
theorem run_endsInOrder_iff (h : CommandLine.read rules arguments = .ok reading)
    (hbatch : reading.choices.batchFile.getD "" = "") (hwords : ∀ word ∈ arguments, NullFree word)
    (hhomes : files.NullFreeHomes) (lines : List String) :
    (∃ rank ending,
      run arguments lines files rules =
        .ok (⟨reading.choices, calculatorOf reading.choices, rank⟩, ending) ∧
      (EndsInOrder (calculatorOf reading.choices)
          (onlyExpression? reading.choices.mode (CommandLine.expression arguments) lines) ending ↔
        Usable reading.choices)) ∧
    (rules.keepsDashes = true →
      (Usable reading.choices ↔ ¬ Log.IsReserved (reading.choices.logLevel.getD ""))) := by
  refine ⟨?_, fun hrules => usable_iff_of_complete (CommandLine.complete_of_read hrules h)⟩
  have hrun {setup : Setup} {turn : Turn}
      (hstart : start rules arguments files = .ok (setup, turn)) :
      run arguments lines files rules = .ok (setup, converse setup turn lines) := by
    rw [run, hstart]
    rfl
  cases hthreshold : threshold reading.choices with
  | error fault =>
    refine ⟨_, _, hrun (start_of_threshold_error h hthreshold), iff_of_false ?_ ?_⟩
    · exact not_endsInOrder (congrArg Ending.exit (converse_stop lines))
    · rintro ⟨-, hlevel⟩
      obtain ⟨rank, hrank⟩ := exists_threshold_iff.2 hlevel
      rw [hthreshold] at hrank
      cases hrank
  | ok rank =>
    have hlevel := exists_threshold_iff.1 ⟨rank, hthreshold⟩
    refine ⟨_, _, hrun (start_of_threshold h hthreshold), ?_⟩
    cases hbase : reading.choices.logBase with
    | none =>
      refine iff_of_false ?_ fun husable => husable.logBase hbase
      exact not_endsInOrder (exit_firstTurn hbase _ lines)
    | some base =>
      have hbase : reading.choices.logBase ≠ none := by rw [hbase]; nofun
      have hsound : Sound ⟨reading.choices, calculatorOf reading.choices, rank⟩ files :=
        ⟨rfl, nullFree_historyPath h hwords, hhomes⟩
      exact iff_of_true (endsInOrder_firstTurn hsound hbase hbatch _ lines) ⟨hbase, hlevel⟩

end

/-- A quotient without a value, although the history is a directory and the level of the log is no
name of one. -/
theorem run_quotient_by_zero :
    ∃ setup ending,
      run ["-s", "--history_path=/home", "--log_level", "loud"] ["5/0", "6"] emptyHome .late =
        .ok (setup, ending) ∧
      EndsInOrder (calculatorOf .standard) (some "5/0") ending := by
  obtain ⟨⟨rank, ending, hrun, hends⟩, husable⟩ :=
    @run_endsInOrder_iff emptyHome ["-s", "--history_path=/home", "--log_level", "loud"] _ .late
      rfl rfl (by decide) ⟨by decide, nofun⟩ ["5/0", "6"]
  exact ⟨_, ending, hrun, hends.2 ((husable rfl).2 (by decide))⟩

/-- A name that is reserved for a layout, in small letters, is no unknown one: the session breaks
off, whatever the rules. -/
theorem reserved_level_escapes :
    ∃ setup ending,
      run ["--no_history", "--log_level", "basic_format", "1+2"] [] emptyHome .late =
        .ok (setup, ending) ∧
      run ["--no_history", "--log_level", "basic_format", "1+2"] [] emptyHome .early =
        .ok (setup, ending) ∧
      ending.exit = .error (.reservedLevel .layout) :=
  ⟨_, _, rfl, rfl, rfl⟩

end Session

end DeskCalc
