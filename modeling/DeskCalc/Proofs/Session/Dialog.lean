import DeskCalc.Proofs.Session.Expression
import DeskCalc.Proofs.Session.History
import DeskCalc.Session

/-!
# What becomes of the lines of a dialog

A dialog reads its lines in turns. Where an expression is asked for, a blank line is asked for
again, a command ends the dialog, and any other line is an expression; the line after it is the
answer to the question whether to go on, whatever it holds. `Dialog` says this of a list of lines,
and with it what is evaluated and what is shown.

Every list of lines is read so (`converse_dialog`). The session ends in good order, each expression
shows what it shows on its own, and the history has each of them, failed ones included.
-/

namespace DeskCalc.Session

open DeskCalc.Text

/-- The line is a command that ends the dialog, in any case of its letters. -/
def IsCommand (line : String) : Prop :=
  (trim line.toList).map Char.toLower ∈ ["exit".toList, "quit".toList]

/-- The line is evaluated where an expression is asked for. -/
structure IsExpression (line : String) : Prop where
  not_blank : trimmed line ≠ ""
  not_command : ¬ IsCommand line

/-- The answer ends the dialog. -/
def Declines (answer : String) : Prop :=
  trimmed answer = "n" ∨ trimmed answer = "N"

instance (line : String) : Decidable (IsCommand line) :=
  inferInstanceAs (Decidable (_ ∈ [_, _]))

instance (answer : String) : Decidable (Declines answer) :=
  inferInstanceAs (Decidable (_ ∨ _))

/-- What is shown for a line that is evaluated, the questions before and after it included. -/
def exchange (shows : String → List Event) (line : String) : List Event :=
  Question.expression.prompt :: shows (trimmed line) ++
    [.output (texts.separator ++ "\n"), Question.goOn.prompt]

/-- The lines of a dialog from where an expression is asked for, the expressions that are evaluated,
and what is shown. -/
inductive Dialog (shows : String → List Event) : List String → List String → List Event → Prop
  /-- The input ends. -/
  | ended : Dialog shows [] [] [Question.expression.prompt]
  /-- A blank line is asked for again. -/
  | blank {line : String} {rest expressions : List String} {events : List Event}
    (hline : trimmed line = "") (hrest : Dialog shows rest expressions events) :
    Dialog shows (line :: rest) expressions (Question.expression.prompt :: events)
  /-- No line after a command is read. -/
  | command {line : String} {rest : List String} (hline : IsCommand line) :
    Dialog shows (line :: rest) [] [Question.expression.prompt]
  /-- The input ends in place of an answer. -/
  | unanswered {line : String} (hline : IsExpression line) :
    Dialog shows [line] [trimmed line] (exchange shows line)
  /-- No line after such an answer is read. -/
  | declined {line answer : String} {rest : List String} (hline : IsExpression line)
    (hanswer : Declines answer) :
    Dialog shows (line :: answer :: rest) [trimmed line] (exchange shows line)
  /-- Any other answer is passed over. -/
  | goesOn {line answer : String} {rest expressions : List String} {events : List Event}
    (hline : IsExpression line) (hanswer : ¬ Declines answer)
    (hrest : Dialog shows rest expressions events) :
    Dialog shows (line :: answer :: rest) (trimmed line :: expressions)
      (exchange shows line ++ events)

/-- How a dialog over these lines ends when these expressions are evaluated. -/
structure DialogEnds (setup : Setup) (files : Files) (lines expressions : List String)
    (ending : Ending) : Prop where
  /-- The lines are read as those of a dialog, in which each expression shows what it shows on its
  own. -/
  dialog : Dialog (shows setup files) lines expressions ending.events
  /-- The expressions are lines without the blanks at their ends, in the order of the lines. -/
  sublist : expressions.Sublist (lines.map trimmed)
  exit : ending.exit = .ok 0
  /-- The history has each expression after what it had before, if it can be written. -/
  recorded : ∀ path content, setup.choices.history = true →
    History.pathOf files setup.choices.historyPath = .ok path → files.Appendable path content →
    ending.files.content? path = if expressions = [] then content
      else some (content.getD .empty ++ (historyText expressions).toUTF8)
  /-- Without a history the files are what they were. -/
  unrecorded : setup.choices.history = false → ending.files = files

section
variable {setup : Setup} {files : Files} {line : String} {q : Question}
  {lines expressions : List String} {events : List Event} {shown : String → List Event}
  {exit : Except Fault Nat}

/-! ## Lines -/

theorem trimmed_eq_empty_iff : trimmed line = "" ↔ trim line.toList = [] :=
  String.ofList_eq_empty_iff

/-- The commands are those of the settings. -/
theorem isExit_iff : isExit (trim line.toList) = true ↔ IsCommand line := by
  have hcommands : texts.exitCommands = ["exit", "quit"] := rfl
  rw [isExit, hcommands, IsCommand]
  simp only [List.contains_cons, List.contains_nil, Bool.or_false, Bool.or_eq_true, beq_iff_eq,
    List.mem_cons, List.not_mem_nil, or_false, ← String.toList_inj, String.toList_ofList]

theorem IsCommand.not_blank (h : IsCommand line) : trim line.toList ≠ [] := by
  intro hnil
  rw [IsCommand, hnil] at h
  exact absurd h (by decide)

/-! ## Answers -/

theorem answer_blank (setup : Setup) (files : Files) (h : trimmed line = "") :
    answer setup files .expression line = ⟨[], files, .ask .expression⟩ := by
  rw [answer]
  exact if_pos (trimmed_eq_empty_iff.1 h)

theorem answer_command (setup : Setup) (files : Files) (h : IsCommand line) :
    answer setup files .expression line = ⟨[], files, .stop (.ok 0)⟩ := by
  rw [answer]
  dsimp only
  rw [if_neg h.not_blank, if_pos (isExit_iff.2 h)]

/-- An expression is run, and the dialog asks whether to go on, also if it failed. -/
theorem answer_expression (hsound : Sound setup files) (h : IsExpression line) :
    answer setup files .expression line =
      ⟨shows setup files (trimmed line) ++ [.output (texts.separator ++ "\n")],
        (process setup files (trimmed line)).files, .ask .goOn⟩ := by
  obtain ⟨ok, hok⟩ := exists_outcome hsound (trimmed line)
  have hblank : trim line.toList ≠ [] := mt trimmed_eq_empty_iff.2 h.not_blank
  have hcommand : ¬ isExit (trim line.toList) = true := mt isExit_iff.1 h.not_command
  rw [answer]
  dsimp only
  rw [if_neg hblank, if_neg hcommand, ← trimmed, hok]
  rfl

theorem answer_declines (setup : Setup) (files : Files) (h : Declines line) :
    answer setup files .goOn line = ⟨[], files, .stop (.ok 0)⟩ := by
  rw [answer]
  refine if_pos (h.imp ?_ ?_) <;>
  · intro heq
    exact (toList_trimmed line).symm.trans (congrArg String.toList heq)

theorem answer_goesOn (setup : Setup) (files : Files) (h : ¬ Declines line) :
    answer setup files .goOn line = ⟨[], files, .ask .expression⟩ := by
  rw [answer]
  refine if_neg fun heq => h (heq.imp ?_ ?_) <;>
  · intro heq
    exact congrArg String.ofList heq

/-! ## Turns -/

/-- After the end no line is read. -/
theorem converse_stop (lines : List String) :
    converse setup ⟨events, files, .stop exit⟩ lines = ⟨events, files, exit⟩ := by
  cases lines <;> rfl

/-- What a turn shows comes first. -/
theorem converse_events (next : Next) (lines : List String) :
    converse setup ⟨events, files, next⟩ lines =
      ⟨events ++ (converse setup ⟨[], files, next⟩ lines).events,
        (converse setup ⟨[], files, next⟩ lines).files,
        (converse setup ⟨[], files, next⟩ lines).exit⟩ := by
  cases next with
  | stop => rw [converse_stop, converse_stop, List.append_nil]
  | ask q => cases lines <;> rfl

/-- A line is answered after the question. -/
theorem converse_cons (line : String) (rest : List String) :
    converse setup ⟨[], files, .ask q⟩ (line :: rest) =
      ⟨q.prompt :: (converse setup (answer setup files q line) rest).events,
        (converse setup (answer setup files q line) rest).files,
        (converse setup (answer setup files q line) rest).exit⟩ :=
  rfl

/-- All lines are read as those of a dialog. The shown events are those of runs on their own, since
a run shows the same after any other. -/
theorem exists_dialog : ∀ (lines : List String) {files : Files}, Sound setup files →
    ∃ expressions events, Dialog (shows setup files) lines expressions events ∧
      converse setup ⟨[], files, .ask .expression⟩ lines =
        ⟨events, filesAfter setup files expressions, .ok 0⟩
  | [], _, _ => ⟨[], _, .ended, rfl⟩
  | line :: rest, files, hsound => by
    by_cases hblank : trimmed line = ""
    · obtain ⟨expressions, events, hdialog, hconverse⟩ := exists_dialog rest hsound
      refine ⟨expressions, _, .blank hblank hdialog, ?_⟩
      rw [converse_cons, answer_blank setup files hblank, hconverse]
    by_cases hcommand : IsCommand line
    · refine ⟨[], _, .command hcommand, ?_⟩
      rw [converse_cons, answer_command setup files hcommand, converse_stop]
      rfl
    have hline : IsExpression line := ⟨hblank, hcommand⟩
    rw [converse_cons, answer_expression hsound hline, converse_events]
    match rest with
    | [] =>
      refine ⟨_, _, .unanswered hline, ?_⟩
      simp [exchange, converse, Turn.hangUp, filesAfter]
    | answer :: rest =>
      rw [converse_cons]
      by_cases hanswer : Declines answer
      · refine ⟨_, _, .declined hline hanswer, ?_⟩
        rw [answer_declines _ _ hanswer, converse_stop]
        simp [exchange, filesAfter]
      · obtain ⟨expressions, events, hdialog, hconverse⟩ :=
          exists_dialog rest (hsound.after (trimmed line))
        rw [shows_after hsound] at hdialog
        refine ⟨_, _, .goesOn hline hanswer hdialog, ?_⟩
        rw [answer_goesOn _ _ hanswer, hconverse]
        simp [exchange, filesAfter]

/-! ## What is evaluated -/

/-- The lines determine what is evaluated and what is shown. -/
theorem Dialog.unique {others : List String} {shownEvents : List Event}
    (h : Dialog shown lines expressions events) (h' : Dialog shown lines others shownEvents) :
    expressions = others ∧ events = shownEvents := by
  induction h generalizing others shownEvents with
  | ended => cases h'; exact ⟨rfl, rfl⟩
  | blank hline _ ih =>
    cases h' with
    | blank _ hrest => exact (ih hrest).imp id (congrArg _)
    | command hcommand => exact absurd (trimmed_eq_empty_iff.1 hline) hcommand.not_blank
    | unanswered h | declined h _ | goesOn h _ _ => exact absurd hline h.not_blank
  | command hline =>
    cases h' with
    | blank h _ => exact absurd (trimmed_eq_empty_iff.1 h) hline.not_blank
    | command _ => exact ⟨rfl, rfl⟩
    | unanswered h | declined h _ | goesOn h _ _ => exact absurd hline h.not_command
  | unanswered hline =>
    cases h' with
    | blank h _ => exact absurd h hline.not_blank
    | command h => exact absurd h hline.not_command
    | unanswered _ => exact ⟨rfl, rfl⟩
  | declined hline hanswer =>
    cases h' with
    | blank h _ => exact absurd h hline.not_blank
    | command h => exact absurd h hline.not_command
    | declined _ _ => exact ⟨rfl, rfl⟩
    | goesOn _ h _ => exact absurd hanswer h
  | goesOn hline hanswer _ ih =>
    cases h' with
    | blank h _ => exact absurd h hline.not_blank
    | command h => exact absurd h hline.not_command
    | declined _ h => exact absurd h hanswer
    | goesOn _ _ hrest => exact (ih hrest).imp (congrArg _) (congrArg _)

theorem Dialog.sublist (h : Dialog shown lines expressions events) :
    expressions.Sublist (lines.map trimmed) := by
  induction h with
  | ended => exact .slnil
  | blank _ _ ih => exact ih.cons _
  | command => exact List.nil_sublist _
  | unanswered => exact .refl _
  | declined => exact (List.nil_sublist _).cons_cons _
  | goesOn _ _ _ ih => exact (ih.cons _).cons_cons _

/-- What is evaluated is recorded as it is. -/
theorem Dialog.recorded_eq (h : Dialog shown lines expressions events) :
    recorded expressions = expressions := by
  have hcons {line : String} (hline : IsExpression line) (rest : List String) :
      recorded (trimmed line :: rest) = trimmed line :: recorded rest := by
    have htrim : String.ofList (trim (trimmed line).toList) = trimmed line :=
      trimmed_trimmed line
    rw [recorded_cons, htrim, if_neg hline.not_blank]
  induction h with
  | ended | command => rfl
  | blank _ _ ih => exact ih
  | unanswered hline | declined hline => exact hcons hline []
  | goesOn hline _ _ ih => rw [hcons hline, ih]

/-- What the history holds after records. -/
theorem contentAfter_eq (content : Option ByteArray) (records : List String) :
    contentAfter content records = if records = [] then content
      else some (content.getD .empty ++ (historyText records).toUTF8) := by
  cases records with
  | nil => rfl
  | cons r rest => rw [contentAfter_cons, if_neg (List.cons_ne_nil _ _)]

/-- Without a history runs leave the files as they are. -/
theorem filesAfter_of_no_history (hsound : Sound setup files)
    (hhistory : setup.choices.history = false) (expressions : List String) :
    filesAfter setup files expressions = files := by
  induction expressions with
  | nil => rfl
  | cons e rest ih =>
    have hfiles : (process setup files e).files = files := by
      rw [process_eq hsound]
      dsimp only [recording]
      rw [hhistory]
      rfl
    rw [filesAfter, List.foldl_cons, hfiles]
    exact ih

/-- **Whatever lines a dialog is given**, it ends in good order, and the lines, what is shown and
what is recorded are those of a dialog over the lines. -/
theorem converse_dialog (hsound : Sound setup files) (lines : List String) :
    ∃ expressions, DialogEnds setup files lines expressions
      (converse setup ⟨[], files, .ask .expression⟩ lines) := by
  obtain ⟨expressions, events, hdialog, hconverse⟩ := exists_dialog lines hsound
  rw [hconverse]
  refine ⟨expressions, hdialog, hdialog.sublist, rfl, ?_, ?_⟩
  · intro path content hhistory hpath happendable
    have hafter := (appendable_filesAfter hhistory hpath happendable expressions).1.content?_eq
    rw [hdialog.recorded_eq, contentAfter_eq] at hafter
    exact hafter
  · exact fun hhistory => filesAfter_of_no_history hsound hhistory expressions

end

/-- A dialog goes on after a failure, which is in the history, and reads nothing after it was
declined. -/
theorem converse_after_failure :
    (converse ⟨.standard, .standard, 30⟩ ⟨[], emptyHome, .ask .expression⟩
        ["", " 5/0 ", "exit", "1+1", "n", "2"]).exit = .ok 0 ∧
      (converse ⟨.standard, .standard, 30⟩ ⟨[], emptyHome, .ask .expression⟩
        ["", " 5/0 ", "exit", "1+1", "n", "2"]).files.content? "/home/.calchistory" =
          some "5/0\n1+1\n".toUTF8 := by
  have hsound : Sound ⟨.standard, .standard, 30⟩ emptyHome := ⟨rfl, by decide, by decide, nofun⟩
  have hblank : trimmed "" = "" := rfl
  have hquotient : IsExpression " 5/0 " := ⟨by decide, by decide⟩
  have hsum : IsExpression "1+1" := ⟨by decide, by decide⟩
  have hanswers : ¬ Declines "exit" ∧ Declines "n" := by decide
  obtain ⟨expressions, hends⟩ := converse_dialog hsound ["", " 5/0 ", "exit", "1+1", "n", "2"]
  obtain ⟨rfl, -⟩ := hends.dialog.unique
    (.blank hblank (.goesOn hquotient hanswers.1 (.declined hsum hanswers.2)))
  exact ⟨hends.exit, hends.recorded _ _ rfl rfl fresh_emptyHome.appendable⟩

end DeskCalc.Session
