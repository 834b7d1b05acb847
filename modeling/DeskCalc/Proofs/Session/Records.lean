import DeskCalc.Proofs.Files.Refusal
import DeskCalc.Proofs.Session.History

/-!
# Records in many files

Requests to record an expression come one after another, each with a path of its own. A record adds
its line to the file that its path means and touches nothing else, and it moves no path
(`extends_after`): whatever came before, a path means the file that it meant at the start. So every
file ends as it was, followed by the lines of the requests that were granted for it, in their order
(`requests_append_only`). A request is refused when there is nothing to record or its
path takes nothing (`Refuses`); it leaves all files as they were, and a warning if there was
something to record.

Expressions are texts of Unicode characters, so each has its bytes in UTF-8: what cannot be written
is a matter of the path alone.
-/

namespace DeskCalc

open Session

namespace Files

/-- No bytes can be added at the path. -/
inductive Refuses (fs : Files) (path : String) : Prop
  /-- The way to it ends early: a directory is missing, or what is there is none. -/
  | way {cause : FileCause} (h : fs.locate path = .error cause)
  /-- It means a directory. -/
  | directory {t : Target} (hlocate : fs.locate path = .ok t)
    (h : t.slash = true ∨ fs.nodeAt t = .ok (some .directory))
  /-- Nothing can have its last name. -/
  | name {t : Target} {cause : FileCause} (hlocate : fs.locate path = .ok t)
    (h : fs.nodeAt t = .error cause)
  /-- There is no space for anything. -/
  | full {t : Target} (hlocate : fs.locate path = .ok t)
    (h : fs.nodeAt t = .ok (some (.device .full)))

/-- What is at a location after bytes were added there. A file is made where nothing is, and
directories and devices keep nothing. -/
def extended (bytes : ByteArray) : Option Node → Option Node
  | none => some (.file bytes)
  | some (.file content) => some (.file (content ++ bytes))
  | node => node

section
variable {fs after : Files} {path : String} {bytes : ByteArray} {t : Target}

/-- **An append extends what is at its location**, changes nothing elsewhere and moves no path. -/
theorem extends_append (hbytes : bytes.isEmpty = false) (h : fs.append path bytes = .ok after) :
    ∃ t, fs.locate path = .ok t ∧ fs.SameWays after ∧ ∀ l, after.node? l =
      if l = t.location then extended bytes (fs.node? l) else fs.node? l := by
  obtain ⟨t, hlocate, hupdate⟩ := exists_of_bind_eq_ok (mapError_eq_ok_iff.1 h)
  refine ⟨t, hlocate, ?_⟩
  cases updates fs t with
  | refused _ hrefused => rw [hrefused] at hupdate; cases hupdate
  | put content _ hnode hput =>
    rw [hput] at hupdate
    cases hupdate
    refine ⟨sameWays_put (node?_ne_directory hnode) _, fun l => ?_⟩
    split
    · next hl =>
      rw [hl, node?_put_self fs (location_ne_nil hnode), node?_of_nodeAt hnode]
      cases content with
      | none => simp [extended]
      | some content => rfl
    · next hl => exact node?_put_of_ne fs hl _
  | null hnode hnull =>
    rw [hnull] at hupdate
    cases hupdate
    refine ⟨.refl _, fun l => ?_⟩
    split
    · next hl => rw [hl, node?_of_nodeAt hnode]; rfl
    · rfl
  | full _ hfull => simp [hfull, hbytes] at hupdate

/-- What a path that leads somewhere refuses, by what is there. -/
theorem refuses_iff (hlocate : fs.locate path = .ok t) :
    fs.Refuses path ↔ (t.slash = true ∨ fs.nodeAt t = .ok (some .directory)) ∨
      (∃ cause, fs.nodeAt t = .error cause) ∨ fs.nodeAt t = .ok (some (.device .full)) := by
  constructor
  · intro hrefuses
    cases hrefuses with
    | way h => rw [hlocate] at h; cases h
    | directory h hdirectory => rw [hlocate] at h; cases h; exact .inl hdirectory
    | name h hname => rw [hlocate] at h; cases h; exact .inr (.inl ⟨_, hname⟩)
    | full h hfull => rw [hlocate] at h; cases h; exact .inr (.inr hfull)
  · rintro (hdirectory | ⟨cause, hname⟩ | hfull)
    · exact .directory hlocate hdirectory
    · exact .name hlocate hname
    · exact .full hlocate hfull

/-- An append fails where the path refuses bytes, whatever they are. -/
theorem exists_append_eq_error_iff (hbytes : bytes.isEmpty = false) :
    (∃ e, fs.append path bytes = .error e) ↔ fs.Refuses path := by
  cases hlocate : fs.locate path with
  | error cause =>
    refine iff_of_true ⟨⟨cause, path⟩, ?_⟩ (.way hlocate)
    rw [append, update, hlocate]
    rfl
  | ok t =>
    rw [append_of_locate hlocate, refuses_iff hlocate]
    cases hslash : t.slash with
    | true =>
      refine iff_of_true ⟨⟨.isDirectory, path⟩, ?_⟩ (.inl (.inl rfl))
      rw [updateTarget, hslash]
      rfl
    | false =>
      rw [updateTarget_of_slash hslash]
      cases hnode : fs.nodeAt t with
      | error cause => exact iff_of_true ⟨⟨cause, path⟩, rfl⟩ (.inr (.inl ⟨cause, rfl⟩))
      | ok node =>
        -- a file, nothing and the device that keeps nothing take bytes
        rcases node with _ | (content | _ | (_ | _))
        · simp [Except.bind, Except.mapError]
        · simp [Except.bind, Except.mapError]
        · simp [Except.bind, Except.mapError]
        · simp [Except.bind, Except.mapError]
        · simp [Except.bind, Except.mapError, hbytes]

end

end Files

namespace History

/-- A request to record an expression. Without one there is nothing to record, and without a path
the file of the settings is meant. -/
structure Request where
  expression : Option String
  path : Option String

namespace Request

/-- What is to be recorded. -/
def text (r : Request) : String :=
  r.expression.getD ""

/-- What becomes of the request, among the files that it finds. -/
def outcome (r : Request) (found : Files) : Outcome :=
  record found r.text r.path

/-- The files after the request. -/
def after (r : Request) (found : Files) : Files :=
  (r.outcome found).files found

/-- The location that the path of the request means, once it is written out. -/
def location? (r : Request) (found : Files) : Option Location := do
  let path ← (pathOf found r.path).toOption
  let target ← (found.locate path).toOption
  return target.location

/-- How a request is answered. -/
structure Answered (r : Request) (found : Files) (outcome : Outcome) : Prop where
  /-- No failure of the file system ends the program. -/
  fault?_eq : outcome.fault? = none
  /-- A request is refused when there is nothing to record or its path takes nothing. -/
  refused_iff : outcome.isWritten = false ↔
    r.text = "" ∨ ∃ path, pathOf found r.path = .ok path ∧ found.Refuses path
  /-- A refused request changes nothing. -/
  files_eq : outcome.isWritten = false → outcome.files found = found
  /-- There is one warning if something was refused. -/
  warned : outcome.isWritten = false → r.text ≠ "" →
    ∃ message, outcome.warning? = some ⟨.warning, .history, message⟩
  /-- There is none if nothing was. -/
  silent : outcome.isWritten = true ∨ r.text = "" → outcome.warning? = none

end Request

/-- The files after requests, one after the other. -/
def recordAll (files : Files) (requests : List Request) : Files :=
  requests.foldl (fun found r => r.after found) files

/-- What was recorded at a location, in the order of the requests: the expressions of those that
were granted and whose path means the location. -/
def recordedAt (l : Location) : Files → List Request → List String
  | _, [] => []
  | found, r :: rest =>
    let more := recordedAt l (r.after found) rest
    if (r.outcome found).isWritten ∧ r.location? found = some l then r.text :: more else more

/-- Every file has grown by its records, each with a line feed, and one is made where nothing was
and something is recorded; there is no other change. -/
structure Grown (files after : Files) (records : Location → List String) : Prop where
  file : ∀ l (content : Option ByteArray), files.node? l = content.map .file →
    after.node? l = (contentAfter content (records l)).map .file
  other : ∀ l, (∀ content : Option ByteArray, files.node? l ≠ content.map .file) →
    after.node? l = files.node? l

section
variable {files found after : Files} {r : Request} {requests : List Request}
  {content : Option ByteArray} {node : Option Node}

/-! ## A request -/

theorem location?_eq (h : found.SameWays after) (r : Request) :
    r.location? after = r.location? found := by
  have hpath : pathOf after r.path = pathOf found r.path :=
    Files.expandHome_eq h.home h.userHomes _
  rw [Request.location?, Request.location?, hpath]
  cases pathOf found r.path with
  | error e => rfl
  | ok path =>
    cases hfound : found.locate path with
    | ok t => simp [Except.toOption, hfound, h.locate hfound]
    | error cause =>
      cases hafter : after.locate path with
      | ok t => rw [h.symm.locate hafter] at hfound; cases hfound
      | error other => simp [Except.toOption, hfound, hafter]

/-- **A granted request extends what is at its location.** Nothing else changes, and no path
means another location after it. -/
theorem extends_after (r : Request) (found : Files) :
    found.SameWays (r.after found) ∧ ∀ l, (r.after found).node? l =
      if (r.outcome found).isWritten ∧ r.location? found = some l then
        Files.extended (entry r.text) (found.node? l)
      else found.node? l := by
  have hends := ends_record found r.text r.path
  rw [Request.after, Request.outcome]
  generalize record found r.text r.path = outcome at hends ⊢
  cases hends with
  | skipped | failed => exact ⟨.refl _, fun l => (if_neg fun h => nomatch h.1).symm⟩
  | @written full after _ hpath happend =>
    obtain ⟨t, hlocate, hways, hnode⟩ := Files.extends_append (entry_isEmpty _) happend
    have hlocation : r.location? found = some t.location := by
      rw [Request.location?, hpath]
      simp [Except.toOption, hlocate]
    refine ⟨hways, fun l => (hnode l).trans ?_⟩
    simp [Outcome.isWritten, hlocation, eq_comm]

/-- Every request is answered in order. -/
theorem answered (hhomes : found.NullFreeHomes) (hpath : NullFree (r.path.getD "")) :
    r.Answered found (r.outcome found) := by
  obtain ⟨full, hfull, -⟩ := exists_pathOf hhomes hpath
  have hfault := fault?_record hhomes hpath r.text
  have hends := ends_record found r.text r.path
  rw [Request.outcome]
  generalize record found r.text r.path = outcome at hends hfault ⊢
  cases hends with
  | skipped hempty =>
    exact ⟨rfl, iff_of_true rfl (.inl hempty), fun _ => rfl, fun _ hne => absurd hempty hne,
      fun _ => rfl⟩
  | @written path after hne hpath happend =>
    refine ⟨rfl, iff_of_false nofun ?_, nofun, nofun, fun _ => rfl⟩
    rintro (hempty | ⟨path', hpath', hrefuses⟩)
    · exact hne hempty
    · rw [hpath] at hpath'
      cases hpath'
      obtain ⟨e, he⟩ := (Files.exists_append_eq_error_iff (entry_isEmpty _)).2 hrefuses
      rw [happend] at he
      cases he
  | @failed cause hne hcause =>
    have hsystem : cause.isSystem = true := by
      by_contra hnot
      rw [Outcome.fault?, if_neg hnot] at hfault
      cases hfault
    refine ⟨hfault, iff_of_true rfl (.inr ?_), fun _ => rfl, fun _ _ => ⟨_, if_pos hsystem⟩, ?_⟩
    · rcases hcause with hcause | ⟨path, hpath, happend⟩
      · rw [hfull] at hcause
        cases hcause
      · exact ⟨path, hpath, (Files.exists_append_eq_error_iff (entry_isEmpty _)).1 ⟨_, happend⟩⟩
    · rintro (hwritten | hempty)
      · cases hwritten
      · exact absurd hempty hne

/-! ## Requests one after another -/

/-- No request moves a path. -/
theorem sameWays_recordAll (files : Files) (requests : List Request) :
    files.SameWays (recordAll files requests) := by
  induction requests generalizing files with
  | nil => exact .refl _
  | cons r rest ih => exact (extends_after r files).1.trans (ih (r.after files))

/-- Every location is extended by its records, one after the other. -/
theorem node?_recordAll (files : Files) (requests : List Request) (l : Location) :
    (recordAll files requests).node? l =
      (recordedAt l files requests).foldl (fun node e => Files.extended (entry e) node)
        (files.node? l) := by
  induction requests generalizing files with
  | nil => rfl
  | cons r rest ih =>
    have hnode := (extends_after r files).2 l
    rw [recordAll, List.foldl_cons]
    refine (ih (r.after files)).trans ?_
    rw [hnode, recordedAt]
    split
    · rw [List.foldl_cons]
    · rfl

/-- A file, or nothing, is extended to a file, unless by nothing. -/
theorem foldl_extended_file (content : Option ByteArray) (records : List String) :
    records.foldl (fun node e => Files.extended (entry e) node) (content.map .file) =
      (contentAfter content records).map .file := by
  induction records generalizing content with
  | nil => rfl
  | cons e records ih =>
    have hfirst : Files.extended (entry e) (content.map .file) =
        (some (content.getD .empty ++ (e ++ "\n").toUTF8)).map .file := by
      cases content with
      | none => simp [Files.extended, entry]
      | some bytes => rfl
    rw [List.foldl_cons, hfirst, ih, contentAfter, contentAfter, List.foldl_cons]

/-- What is no file stays as it is. -/
theorem foldl_extended_other (hnode : ∀ content : Option ByteArray, node ≠ content.map .file)
    (records : List String) :
    records.foldl (fun node e => Files.extended (entry e) node) node = node := by
  have hkept (e : String) : Files.extended (entry e) node = node := by
    rcases node with _ | (content | _ | _)
    · exact absurd rfl (hnode none)
    · exact absurd rfl (hnode (some content))
    · rfl
    · rfl
  induction records with
  | nil => rfl
  | cons e records ih => rw [List.foldl_cons, hkept, ih]

/-- **Records are only ever added, and a refused one leaves no trace.** After requests one after
another every file holds what it held, followed by the lines of the requests that were granted for
it, and all else is as it was. Every request is answered in order by the files that it finds, and
its path means the location that it meant at the start. -/
theorem requests_append_only (hhomes : files.NullFreeHomes)
    (hpaths : ∀ r ∈ requests, NullFree (r.path.getD "")) :
    Grown files (recordAll files requests) (fun l => recordedAt l files requests) ∧
      ∀ before r rest, requests = before ++ r :: rest →
        r.Answered (recordAll files before) (r.outcome (recordAll files before)) ∧
          r.location? (recordAll files before) = r.location? files := by
  refine ⟨⟨fun l content hl => ?_, fun l hl => ?_⟩, fun before r rest hrequests => ?_⟩
  · rw [node?_recordAll, hl]
    exact foldl_extended_file content _
  · rw [node?_recordAll]
    exact foldl_extended_other hl _
  · have hways := sameWays_recordAll files before
    have hfound : (recordAll files before).NullFreeHomes :=
      ⟨hways.home ▸ hhomes.home, hways.userHomes ▸ hhomes.userHomes⟩
    have hmem : r ∈ requests := hrequests ▸ List.mem_append_right before (.head rest)
    exact ⟨answered hfound (hpaths r hmem), location?_eq hways r⟩

/-- Two requests by different paths for one file, and three between them that are refused. -/
theorem requests_by_two_paths :
    let requests : List Request := [⟨some "1+1", none⟩, ⟨none, none⟩,
      ⟨some "2", some "missing/history"⟩, ⟨some "3", some "/home"⟩,
      ⟨some "5/0", some "~/.calchistory"⟩]
    emptyHome.NullFreeHomes ∧ (∀ r ∈ requests, NullFree (r.path.getD "")) ∧
    recordedAt ["home", ".calchistory"] emptyHome requests = ["1+1", "5/0"] ∧
    (recordAll emptyHome requests).node? ["home", ".calchistory"] =
      some (.file "1+1\n5/0\n".toUTF8) ∧
    ∀ before r rest, requests = before ++ r :: rest →
      r.Answered (recordAll emptyHome before) (r.outcome (recordAll emptyHome before)) ∧
        r.location? (recordAll emptyHome before) = r.location? emptyHome := by
  intro requests
  have hhomes : emptyHome.NullFreeHomes := ⟨by decide, nofun⟩
  have hpaths : ∀ r ∈ requests, NullFree (r.path.getD "") := by decide
  have hrecords : recordedAt ["home", ".calchistory"] emptyHome requests = ["1+1", "5/0"] := rfl
  obtain ⟨hgrown, hanswered⟩ := requests_append_only hhomes hpaths
  have hfile := hgrown.file ["home", ".calchistory"] none rfl
  rw [hrecords, contentAfter_cons] at hfile
  exact ⟨hhomes, hpaths, hrecords, hfile, hanswered⟩

end

end History

end DeskCalc
