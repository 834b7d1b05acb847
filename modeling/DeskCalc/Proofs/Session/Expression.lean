import DeskCalc.Proofs.Calculator.Row
import DeskCalc.Proofs.Files.Refusal
import DeskCalc.Proofs.Text.Line
import DeskCalc.Session.Turn

/-!
# The run of one expression

With the places of the settings, and a history path that a command line can give, no run of an
expression breaks off: it shows a result, or the words of an error (`evaluation_of_answer`), after
a warning at most about a history that cannot be written (`process_eq`).

What a run shows does not depend on the runs before it, although these are recorded in files: a
record changes nothing about whether the next one can be written (`events_process_after`).

What is shown is a list of events, of which there are three views: what it adds to the output and to
the text about failures, and the warnings among its log records. Each view takes a list apart event
by event; records that are no warnings show in none of them.
-/

namespace DeskCalc

/-! ## Views of events -/

namespace Event

/-- What the event says about a failure. -/
def failurePart : Event → String
  | report text => text
  | _ => ""

/-- The text about failures, without the log. -/
def failureText (events : List Event) : String :=
  .join (events.map failurePart)

/-- The warning of the event, if it is one. -/
def warning? : Event → Option Log.Record
  | log r => if r.level = .warning then some r else none
  | _ => none

/-- The warnings in the log. -/
def warnings (events : List Event) : List Log.Record :=
  events.filterMap warning?

section
variable (event : Event) (events rest : List Event) {records : List Log.Record}

@[simp] theorem outputText_nil : outputText [] = "" := rfl

@[simp] theorem failureText_nil : failureText [] = "" := rfl

@[simp] theorem outputText_cons :
    outputText (event :: events) = event.outputPart ++ outputText events := by
  simp [outputText, String.join_cons]

@[simp] theorem failureText_cons :
    failureText (event :: events) = event.failurePart ++ failureText events := by
  simp [failureText, String.join_cons]

@[simp] theorem outputText_append :
    outputText (events ++ rest) = outputText events ++ outputText rest := by
  simp [outputText, String.join_append]

@[simp] theorem failureText_append :
    failureText (events ++ rest) = failureText events ++ failureText rest := by
  simp [failureText, String.join_append]

@[simp] theorem warnings_cons :
    warnings (event :: events) = event.warning?.toList ++ warnings events := by
  rw [warnings, List.filterMap_cons]
  cases event.warning? <;> rfl

@[simp] theorem warnings_append : warnings (events ++ rest) = warnings events ++ warnings rest :=
  List.filterMap_append

@[simp] theorem outputText_map_log (records : List Log.Record) :
    outputText (records.map log) = "" := by
  induction records with
  | nil => rfl
  | cons r records ih => rw [List.map_cons, outputText_cons, ih]; rfl

@[simp] theorem failureText_map_log (records : List Log.Record) :
    failureText (records.map log) = "" := by
  induction records with
  | nil => rfl
  | cons r records ih => rw [List.map_cons, failureText_cons, ih]; rfl

/-- Records below warnings are none. -/
theorem warnings_map_log (h : ∀ r ∈ records, r.level ≠ .warning) :
    warnings (records.map log) = [] := by
  rw [warnings, List.filterMap_map, List.filterMap_eq_nil_iff]
  exact fun r hr => if_neg (h r hr)

end

end Event

/-! ## Runs -/

open DeskCalc.Text Calculator

/-- The text without the blanks at both ends. -/
def trimmed (s : String) : String :=
  .ofList (trim s.toList)

@[simp] theorem toList_trimmed (s : String) : (trimmed s).toList = trim s.toList :=
  String.toList_ofList

@[simp] theorem trimmed_trimmed (s : String) : trimmed (trimmed s) = trimmed s := by
  rw [trimmed, toList_trimmed, trim_trim, trimmed]

/-- Blanks at the ends of an expression make no difference to its value. -/
theorem Calculator.evaluate_trimmed (c : Calculator) (s : String) :
    c.evaluate (trimmed s) = c.evaluate s := by
  have hform : c.postfixForm (trimmed s) = c.postfixForm s := by
    rw [postfixForm, postfixForm, toList_trimmed, trim_trim]
  rw [evaluate, evaluate, hform]

namespace Session

/-- No run of an expression breaks off: results are rounded to the places of the settings, and no
path that the history is looked for at holds the null character. -/
structure Sound (setup : Setup) (files : Files) : Prop where
  places : setup.calculator.places = standard.places
  historyPath : NullFree (setup.choices.historyPath.getD "")
  homes : files.NullFreeHomes

/-- What becomes of the record of an expression. -/
def recording (setup : Setup) (files : Files) (e : String) : History.Outcome :=
  if setup.choices.history then History.record files e setup.choices.historyPath else .skipped

/-- What the run of an expression shows when nothing was run before. -/
def shows (setup : Setup) (files : Files) (e : String) : List Event :=
  (process setup files e).events

/-- Whether an answer is a value. -/
def isValue : Except ExpressionError Float → Bool
  | .ok _ => true
  | .error _ => false

/-- What is reported about an answer. -/
def reportOf : Except ExpressionError Float → String
  | .ok _ => ""
  | .error e => "Error: " ++ e.description ++ "\n"

section
variable {setup : Setup} {files : Files} {e : String} {outcome : Except ExpressionError Float}

/-! ## Evaluation -/

/-- The result of an expression is shown, or its error is reported. -/
theorem showResult_of_answer (h : Answer setup.calculator e outcome) :
    (showResult setup e).2 = .ok (isValue outcome) ∧
      Event.failureText (showResult setup e).1 = reportOf outcome := by
  cases h with
  | value hvalue =>
    rw [showResult, hvalue]
    exact ⟨rfl, by simp [Event.failurePart, reportOf]⟩
  | error herror hcause =>
    rw [showResult, herror]
    simp only [failure, hcause]
    refine ⟨rfl, ?_⟩
    simp [failureEvents, Event.failurePart, reportOf]
    rfl

/-- So it is if the postfix form was asked for: without a form the error is that of the form. -/
theorem evaluation_of_answer (h : Answer setup.calculator e outcome) :
    (evaluation setup e).2 = .ok (isValue outcome) ∧
      Event.failureText (evaluation setup e).1 = reportOf outcome := by
  have hresult := showResult_of_answer h
  rw [evaluation]
  split
  · rw [showForm]
    cases hform : setup.calculator.postfixForm e with
    | ok form =>
      refine ⟨hresult.1, ?_⟩
      simp [Event.failurePart, hresult.2]
    | error cause =>
      have hevaluate := evaluate_of_postfixForm_error hform
      cases h with
      | value hvalue => rw [hevaluate] at hvalue; cases hvalue
      | error herror hcause =>
        rw [hevaluate] at herror
        cases herror
        simp only [failure, hcause]
        refine ⟨rfl, ?_⟩
        simp [failureEvents, Event.failurePart, reportOf]
        rfl
  · exact hresult

/-! ## The run -/

/-- A record of a sound setup is no fault. -/
theorem Sound.fault? (h : Sound setup files) (e : String) :
    (recording setup files e).fault? = none := by
  rw [recording]
  split
  · exact History.fault?_record h.homes h.historyPath e
  · rfl

/-- A run records the expression, perhaps with a warning, and evaluates it. -/
theorem process_eq (h : Sound setup files) (e : String) :
    process setup files e =
      ⟨(recording setup files (trimmed e)).warning?.toList.map .log ++
          (evaluation setup (trimmed e)).1,
        (recording setup files (trimmed e)).files files, (evaluation setup (trimmed e)).2⟩ := by
  have hfault := h.fault? (trimmed e)
  rw [recording] at hfault
  unfold process
  dsimp only
  rw [← trimmed, hfault]
  rfl

/-- A run shows its result, or reports its error, and does not break off. -/
theorem process_of_answer (h : Sound setup files) (hanswer : Answer setup.calculator e outcome) :
    (process setup files e).outcome = .ok (isValue outcome) ∧
      Event.failureText (process setup files e).events = reportOf outcome := by
  have htrimmed : Answer setup.calculator (trimmed e) outcome := by
    cases hanswer with
    | value h => exact .value ((evaluate_trimmed _ _).trans h)
    | error h hcause => exact .error ((evaluate_trimmed _ _).trans h) hcause
  obtain ⟨houtcome, hreport⟩ := evaluation_of_answer htrimmed
  rw [process_eq h]
  refine ⟨houtcome, ?_⟩
  rw [Event.failureText_append, Event.failureText_map_log, hreport, String.empty_append]

/-- Whatever the expression, its run does not break off. -/
theorem exists_outcome (h : Sound setup files) (e : String) :
    ∃ ok, (process setup files e).outcome = .ok ok := by
  obtain ⟨outcome, hanswer⟩ := exists_answer h.places e
  exact ⟨_, (process_of_answer h hanswer).1⟩

/-! ## One run after another -/

/-- After a run the setup is as sound as before. -/
theorem Sound.after (h : Sound setup files) (e : String) :
    Sound setup (process setup files e).files := by
  refine ⟨h.places, h.historyPath, ?_⟩
  rw [process_eq h]
  dsimp only
  rw [recording]
  split
  · exact History.nullFreeHomes_record h.homes _ _
  · exact h.homes

/-- **What a run shows does not depend on the run before it.** -/
theorem events_process_after (h : Sound setup files) (first next : String) :
    (process setup (process setup files first).files next).events =
      (process setup files next).events := by
  have hwarning : (recording setup (process setup files first).files (trimmed next)).warning? =
      (recording setup files (trimmed next)).warning? := by
    rw [process_eq h]
    dsimp only [recording]
    split
    · exact History.warning?_record_after _ _ _ _
    · rfl
  rw [process_eq (h.after first), process_eq h next, hwarning]

/-- So it shows the same whatever was run before. -/
theorem shows_after (h : Sound setup files) (first : String) :
    shows setup (process setup files first).files = shows setup files :=
  funext (events_process_after h first)

end

end Session

end DeskCalc
