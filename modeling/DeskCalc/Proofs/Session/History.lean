import DeskCalc.Proofs.Batch.Lines
import DeskCalc.Proofs.Files.Refusal
import DeskCalc.Session.Turn

/-!
# The history as a batch

Expressions are recorded one a line, and a batch reads a file line by line, so the history can be
evaluated again. What is read from it are the expressions that were recorded, in their order, unless
one of them holds a boundary of lines (`load_filesAfter_iff`): records end with a line feed, and a
batch knows nine more boundaries. If there was nothing to record there is no file to be read.

Whether the expressions have values does not matter: `files_process` is all that the run of an
expression does to the files.
-/

namespace DeskCalc.Session

open DeskCalc.Text

/-- The files after expressions were run, one after the other. -/
def filesAfter (setup : Setup) (files : Files) (expressions : List String) : Files :=
  expressions.foldl (fun files e => (process setup files e).files) files

/-- What is recorded of expressions: each of them trimmed, if anything is left of it. -/
def recorded (expressions : List String) : List String :=
  (expressions.map fun e => .ofList (trim e.toList)).filter (· ≠ "")

/-- The text of records, one a line. -/
def historyText (records : List String) : String :=
  .join (records.map (· ++ "\n"))

/-- The content of a file after records were added to it: each of them and a line feed, in UTF-8. -/
def contentAfter (content : Option ByteArray) (records : List String) : Option ByteArray :=
  records.foldl (fun content r => some (content.getD .empty ++ (r ++ "\n").toUTF8)) content

section
variable {setup : Setup} {files : Files} {path file e : String} {expressions records : List String}
  {content : Option ByteArray}

/-! ## What is recorded -/

theorem recorded_cons (e : String) (expressions : List String) :
    recorded (e :: expressions) =
      if String.ofList (trim e.toList) = "" then recorded expressions
      else .ofList (trim e.toList) :: recorded expressions := by
  simp [recorded, List.filter_cons]

/-- A record is a trimmed text, and not the empty one. -/
theorem trim_of_mem_recorded (h : e ∈ recorded expressions) :
    trim e.toList = e.toList ∧ e.toList ≠ [] := by
  obtain ⟨hmem, hne⟩ := List.mem_filter.1 h
  obtain ⟨s, -, rfl⟩ := List.mem_map.1 hmem
  rw [String.toList_ofList]
  refine ⟨trim_trim _, fun hnil => ?_⟩
  rw [hnil] at hne
  exact absurd hne (by decide)

/-- The run of an expression changes the files by its record. -/
theorem files_process (hhistory : setup.choices.history = true) :
    (process setup files e).files =
      (History.record files (.ofList (trim e.toList)) setup.choices.historyPath).files files := by
  unfold process
  dsimp only
  rw [if_pos hhistory]
  generalize History.record files (.ofList (trim e.toList)) setup.choices.historyPath = outcome
  cases outcome with
  | skipped | written => rfl
  | failed error => cases hfault : (History.Outcome.failed error).fault? <;> rfl

/-- A record is added at the end of the history. -/
theorem record_of_appendable (hpath : History.pathOf files setup.choices.historyPath = .ok path)
    (h : files.Appendable path content) (hne : e ≠ "") :
    ∃ after, History.record files e setup.choices.historyPath = .written after ∧
      after.Appendable path (some (content.getD .empty ++ (e ++ "\n").toUTF8)) ∧
      after.home = files.home ∧ after.userHomes = files.userHomes := by
  obtain ⟨after, hafter, happendable, hhome, husers⟩ := h.append (History.entry e)
  exact ⟨after, History.record_of_append hne hpath hafter, happendable, hhome, husers⟩

/-- After expressions were run, their records are at the end of the history. -/
theorem appendable_filesAfter (hhistory : setup.choices.history = true)
    (hpath : History.pathOf files setup.choices.historyPath = .ok path)
    (h : files.Appendable path content) (expressions : List String) :
    (filesAfter setup files expressions).Appendable path
        (contentAfter content (recorded expressions)) ∧
      (filesAfter setup files expressions).home = files.home ∧
      (filesAfter setup files expressions).userHomes = files.userHomes := by
  induction expressions generalizing files content with
  | nil => exact ⟨h, rfl, rfl⟩
  | cons e rest ih =>
    rw [filesAfter, List.foldl_cons, files_process hhistory, recorded_cons]
    split
    · next hblank =>
      rw [hblank]
      exact ih hpath h
    · next hne =>
      obtain ⟨after, hrecord, happendable, hhome, husers⟩ := record_of_appendable hpath h hne
      rw [hrecord]
      have hpath : History.pathOf after setup.choices.historyPath = .ok path := by
        rw [← hpath]
        exact Files.expandHome_eq hhome husers _
      obtain ⟨hafter, hhome', husers'⟩ := ih hpath happendable
      exact ⟨hafter, hhome'.trans hhome, husers'.trans husers⟩

/-! ## What is read -/

/-- Records after nothing are the lines of a text. -/
theorem contentAfter_cons (r : String) (records : List String) :
    contentAfter content (r :: records) =
      some (content.getD .empty ++ (historyText (r :: records)).toUTF8) := by
  induction records generalizing r content with
  | nil => simp [contentAfter, historyText]
  | cons next records ih =>
    rw [contentAfter, List.foldl_cons]
    refine (ih next).trans ?_
    simp [historyText, ByteArray.append_assoc]

/-- Records with no boundary of lines are the expressions of their text, and records with one are
not. -/
theorem expressions_historyText_iff (h : ∀ r ∈ records, trim r.toList = r.toList ∧ r.toList ≠ []) :
    Batch.expressions (historyText records).toList = records.map String.toList ↔
      ∀ r ∈ records, ∀ c ∈ r.toList, isLineBoundary c = false := by
  have htext : (historyText records).toList =
      (records.map String.toList).flatMap (· ++ ['\n']) := by
    simp [historyText, String.toList_join, List.flatMap_map]
  constructor
  · intro hread r hr c hc
    have hmem : r.toList ∈ Batch.expressions (historyText records).toList :=
      hread ▸ List.mem_map_of_mem hr
    exact Batch.isLineBoundary_eq_false_of_mem hmem c hc
  · intro hnone
    have hlines : ∀ line ∈ records.map String.toList, ∀ c ∈ line, isLineBoundary c = false := by
      simpa using hnone
    have htrim : (records.map String.toList).map trim = records.map String.toList := by
      rw [List.map_map]
      exact List.map_congr_left fun r hr => (h r hr).1
    rw [Batch.expressions, htext, unifyLineEnds_flatMap hlines, lines_flatMap hlines, htrim,
      List.filter_eq_self]
    simpa using fun r hr => (h r hr).2

/-- What a batch reads from a new history, if there is something to be read. -/
theorem load_filesAfter (hhistory : setup.choices.history = true)
    (hpath : History.pathOf files setup.choices.historyPath = .ok path) (hfresh : files.Fresh path)
    (hfile : files.expandHome file = .ok path) (hne : recorded expressions ≠ []) :
    Batch.load (filesAfter setup files expressions) file =
      .ok ((Batch.expressions (historyText (recorded expressions)).toList).map .ofList) := by
  obtain ⟨happendable, hhome, husers⟩ :=
    appendable_filesAfter hhistory hpath hfresh.appendable expressions
  obtain ⟨r, rest, hrecorded⟩ := List.exists_cons_of_ne_nil hne
  rw [hrecorded, contentAfter_cons, Option.getD_none, ByteArray.empty_append] at happendable
  rw [hrecorded]
  refine Batch.load_of_decode ?_ (Utf8.decode_toUTF8 _)
  rw [Files.expandHome_eq hhome husers, hfile]
  exact happendable.read

/-- Where nothing was recorded there is no file to be read. -/
theorem load_filesAfter_of_nil (hhistory : setup.choices.history = true)
    (hpath : History.pathOf files setup.choices.historyPath = .ok path) (hfresh : files.Fresh path)
    (hfile : files.expandHome file = .ok path) (hnil : recorded expressions = []) :
    Batch.load (filesAfter setup files expressions) file = .error (.file ⟨.notFound, path⟩) := by
  obtain ⟨happendable, hhome, husers⟩ :=
    appendable_filesAfter hhistory hpath hfresh.appendable expressions
  rw [hnil] at happendable
  rw [Batch.load, Files.expandHome_eq hhome husers, hfile]
  exact congrArg (fun read => Except.mapError Fault.file read >>= _) happendable.read_none

/-- **When a history is read back.** After expressions were run on a new history, a batch reads
what was recorded of them, in their order, exactly when something was and no record holds a boundary
of lines. -/
theorem load_filesAfter_iff (hhistory : setup.choices.history = true)
    (hpath : History.pathOf files setup.choices.historyPath = .ok path) (hfresh : files.Fresh path)
    (hfile : files.expandHome file = .ok path) (expressions : List String) :
    Batch.load (filesAfter setup files expressions) file = .ok (recorded expressions) ↔
      recorded expressions ≠ [] ∧
        ∀ r ∈ recorded expressions, ∀ c ∈ r.toList, isLineBoundary c = false := by
  by_cases hnil : recorded expressions = []
  · rw [load_filesAfter_of_nil hhistory hpath hfresh hfile hnil]
    exact iff_of_false nofun fun h => h.1 hnil
  rw [load_filesAfter hhistory hpath hfresh hfile hnil, ← expressions_historyText_iff
    fun r hr => trim_of_mem_recorded hr, Except.ok.injEq]
  constructor
  · intro hread
    exact ⟨hnil, by simpa using congrArg (List.map String.toList) hread⟩
  · rintro ⟨-, hread⟩
    rw [hread]
    simp

end

/-- A home directory with nothing in it. -/
def emptyHome : Files where
  nodes := [(["home"], .directory)]
  workingDirectory := ["home"]
  home := "/home"
  userHomes := []

theorem fresh_emptyHome : emptyHome.Fresh "/home/.calchistory" :=
  ⟨rfl, _, rfl⟩

/-- An expression that fails is read back like the others, and a blank one is not recorded. -/
theorem load_new_history :
    Batch.load (filesAfter ⟨.standard, .standard, 30⟩ emptyHome [" 5/0", " ", "2 * 3\n"])
      "~/.calchistory" = .ok ["5/0", "2 * 3"] := by
  have hrecorded : recorded [" 5/0", " ", "2 * 3\n"] = ["5/0", "2 * 3"] := by decide
  have hlines : ["5/0", "2 * 3"].all (fun r => r.toList.all (!isLineBoundary ·)) = true := by
    decide
  rw [← hrecorded, load_filesAfter_iff rfl rfl fresh_emptyHome rfl, hrecorded]
  exact ⟨List.cons_ne_nil _ _, by simpa using hlines⟩

/-- A form feed in an expression ends it for a batch. -/
theorem form_feed_splits_record :
    recorded ["1\x0c+1"] = ["1\x0c+1"] ∧
      Batch.load (filesAfter ⟨.standard, .standard, 30⟩ emptyHome ["1\x0c+1"]) "~/.calchistory" =
        .ok ["1", "+1"] :=
  ⟨by decide, @load_filesAfter ⟨.standard, .standard, 30⟩ _ _ _ _ rfl rfl fresh_emptyHome rfl
    (by decide)⟩

end DeskCalc.Session
