import DeskCalc.History
import DeskCalc.Proofs.Files.Append

/-!
# Paths that records cannot be written to

Whether a record can be written is a matter of the path and of what is there, not of the record: a
path that refuses one record refuses every other for the same reason (`append_eq_error`), and a path
that took one takes the next (`exists_append_after`). So the warning about a record does not depend
on the records before it (`warning?_record_after`).

What refuses is the system, unless the path holds the null character, which no word of a command
line does and no path of a home directory (`fault?_record`).
-/

namespace DeskCalc

/-- The text does not hold the null character. -/
def NullFree (s : String) : Prop :=
  '\x00' ∉ s.toList

instance (s : String) : Decidable (NullFree s) :=
  inferInstanceAs (Decidable ('\x00' ∉ s.toList))

namespace Files

/-- The paths of home directories do not hold the null character. -/
structure NullFreeHomes (fs : Files) : Prop where
  home : NullFree fs.home
  userHomes : ∀ p ∈ fs.userHomes, NullFree p.2

section
variable {fs after : Files} {path : String} {bytes other : ByteArray} {e : FileError}
  {start : Location} {names : List String} {t : Target} {f : ByteArray → ByteArray}

/-! ## One append after another -/

/-- What can be appended to is a file, or nothing yet, or a device that takes all and keeps
nothing. -/
theorem appendable_or_eq_of_append (h : fs.append path bytes = .ok after) :
    (∃ content, fs.Appendable path content) ∨ after = fs := by
  obtain ⟨t, hlocate, hupdate⟩ := exists_of_bind_eq_ok (mapError_eq_ok_iff.1 h)
  cases updates fs t with
  | refused _ h => rw [h] at hupdate; cases hupdate
  | put content hslash hnode => exact .inl ⟨content, t, hlocate, hslash, hnode⟩
  | null _ h => rw [h] at hupdate; cases hupdate; exact .inr rfl
  | full _ h =>
    rw [h] at hupdate
    split at hupdate
    · cases hupdate; exact .inr rfl
    · cases hupdate

/-- A path that refuses bytes refuses all others that are any. -/
theorem append_eq_error (hother : other.isEmpty = false) (h : fs.append path bytes = .error e) :
    fs.append path other = .error e := by
  cases hlocate : fs.locate path with
  | error cause =>
    rw [append, update, hlocate] at h ⊢
    exact h
  | ok t =>
    rw [append_of_locate hlocate] at h ⊢
    obtain ⟨cause, hupdate, rfl⟩ := exists_of_mapError_eq_error h
    have hsame : fs.updateTarget (· ++ other) t = .error cause := by
      cases updates fs t with
      | refused _ hrefused => rw [hrefused] at hupdate ⊢; exact hupdate
      | put _ _ _ hput => rw [hput] at hupdate; cases hupdate
      | null _ hnull => rw [hnull] at hupdate; cases hupdate
      | full _ hfull =>
        rw [hfull] at hupdate ⊢
        split at hupdate
        · cases hupdate
        · rw [ByteArray.empty_append, hother]
          exact hupdate
    rw [hsame]
    rfl

/-- Homes stay where they are, and a path that took bytes takes more. -/
theorem exists_append_after (hbytes : bytes.isEmpty = false)
    (h : fs.append path bytes = .ok after) (other : ByteArray) :
    (∃ next, after.append path other = .ok next) ∧ after.home = fs.home ∧
      after.userHomes = fs.userHomes := by
  rcases appendable_or_eq_of_append h with ⟨content, happendable⟩ | rfl
  · obtain ⟨next, hnext, hagain, hhome, husers⟩ := happendable.append bytes
    rw [h] at hnext
    cases hnext
    obtain ⟨last, hlast, -⟩ := hagain.append other
    exact ⟨⟨last, hlast⟩, hhome, husers⟩
  · refine ⟨?_, rfl, rfl⟩
    cases hlast : after.append path other with
    | ok last => exact ⟨last, rfl⟩
    | error e => rw [append_eq_error hbytes hlast] at h; cases h

/-! ## What is refused -/

theorem walk_ne_null : fs.walk start names ≠ .error .nullCharacter := by
  induction names generalizing start with
  | nil =>
    intro h
    cases h
  | cons name rest ih =>
    intro h
    rw [walk] at h
    split at h
    · exact ih h
    split at h
    · exact ih h
    split at h
    · cases h
    split at h
    · cases h
    · cases h
    · cases h
    · exact ih h

theorem locate_ne_null (hpath : NullFree path) : fs.locate path ≠ .error .nullCharacter := by
  intro h
  rw [locate, if_neg hpath] at h
  split at h
  · cases h
  split at h
  · cases h
  dsimp only at h
  split at h
  · cases h
  · next last _ =>
    cases hwalk : fs.walk (fs.origin path) ((components path).filter (· ≠ "")).dropLast with
    | error cause =>
      rw [hwalk] at h
      cases h
      exact walk_ne_null hwalk
    | ok directory => rw [hwalk] at h; cases h

theorem updateTarget_ne_null : fs.updateTarget f t ≠ .error .nullCharacter := by
  intro h
  cases updates fs t with
  | refused hcause hrefused => exact hcause (Except.error.inj ((hrefused f).symm.trans h))
  | put _ _ _ hput => rw [hput] at h; cases h
  | null _ hnull => rw [hnull] at h; cases h
  | full _ hfull =>
    rw [hfull] at h
    split at h <;> cases h

/-- A path without the null character is refused by the system, if it is refused. -/
theorem isSystem_of_append (hpath : NullFree path) (h : fs.append path bytes = .error e) :
    e.isSystem = true := by
  obtain ⟨cause, hcause, rfl⟩ := exists_of_mapError_eq_error h
  have hne : cause ≠ .nullCharacter := by
    rintro rfl
    cases hlocate : fs.locate path with
    | error cause =>
      rw [hlocate] at hcause
      cases hcause
      exact locate_ne_null hpath hlocate
    | ok t =>
      rw [hlocate] at hcause
      exact updateTarget_ne_null hcause
  rw [FileError.isSystem]
  exact bne_iff_ne.2 hne

/-! ## Home directories -/

theorem nullFree_underHome {home : String} {rest : List Char} (hhome : NullFree home)
    (hrest : '\x00' ∉ rest) : NullFree (underHome home rest) := by
  rw [underHome]
  split
  · decide
  · rw [NullFree, String.toList_ofList, List.mem_append, not_or]
    refine ⟨fun hmem => hhome ?_, hrest⟩
    exact List.mem_reverse.1 ((List.dropWhile_sublist _).subset (List.mem_reverse.1 hmem))

/-- A path without the null character is written out as one. -/
theorem exists_expandHome (hhomes : fs.NullFreeHomes) (hpath : NullFree path) :
    ∃ full, fs.expandHome path = .ok full ∧ NullFree full := by
  rw [expandHome]
  split
  · next rest heq =>
    have hcut := List.takeWhile_append_dropWhile (p := fun c => decide (c ≠ '/')) (l := rest)
    have hrest : '\x00' ∉ rest := fun hmem => hpath (heq ▸ .tail _ hmem)
    rw [← hcut, List.mem_append, not_or] at hrest
    obtain ⟨hname, hrest⟩ := hrest
    dsimp only
    split
    · exact ⟨_, rfl, nullFree_underHome hhomes.home hrest⟩
    split
    · next home hlookup =>
      obtain ⟨before, rest', hs, -⟩ := List.lookup_eq_some_iff.1 hlookup
      have hmem := hhomes.userHomes _ (hs ▸ List.mem_append_right before (.head rest'))
      exact ⟨_, rfl, nullFree_underHome hmem hrest⟩
    · exact ⟨_, rfl, hpath⟩
  · exact ⟨_, rfl, hpath⟩

end

end Files

namespace History

/-- What becomes of a record. -/
inductive Ends (files : Files) (e : String) (path : Option String) : Outcome → Prop
  | skipped (hempty : e = "") : Ends files e path .skipped
  | written {full : String} {after : Files} (hne : e ≠ "") (hpath : pathOf files path = .ok full)
    (happend : files.append full (entry e) = .ok after) : Ends files e path (.written after)
  | failed {cause : FileError} (hne : e ≠ "")
    (hcause : pathOf files path = .error cause ∨
      ∃ full, pathOf files path = .ok full ∧ files.append full (entry e) = .error cause) :
    Ends files e path (.failed cause)

section
variable {files after : Files} {path : Option String} {e : String}

theorem entry_isEmpty (e : String) : (entry e).isEmpty = false := by
  simp [entry, ByteArray.isEmpty]

theorem ends_record (files : Files) (e : String) (path : Option String) :
    Ends files e path (record files e path) := by
  rw [record]
  split
  · next hempty => exact .skipped hempty
  next hne =>
  cases hpath : pathOf files path with
  | error cause => exact .failed hne (.inl hpath)
  | ok full =>
    cases happend : files.append full (entry e) with
    | ok after =>
      simp only [bind, Except.bind, happend]
      exact .written hne hpath happend
    | error cause =>
      simp only [bind, Except.bind, happend]
      exact .failed hne (.inr ⟨full, hpath, happend⟩)

/-- The path of a record can be written out. -/
theorem exists_pathOf (hhomes : files.NullFreeHomes) (hpath : NullFree (path.getD "")) :
    ∃ full, pathOf files path = .ok full ∧ NullFree full := by
  refine Files.exists_expandHome hhomes ?_
  split
  · decide
  · exact hpath

/-- No record is a fault, whatever is at its path. -/
theorem fault?_record (hhomes : files.NullFreeHomes) (hpath : NullFree (path.getD ""))
    (e : String) : (record files e path).fault? = none := by
  obtain ⟨full, hfull, hnull⟩ := exists_pathOf hhomes hpath
  have hends := ends_record files e path
  generalize record files e path = outcome at hends ⊢
  cases hends with
  | skipped | written => rfl
  | failed _ hcause =>
    rw [hfull] at hcause
    rcases hcause with hcause | ⟨_, hsame, happend⟩
    · cases hcause
    · cases hsame
      exact if_pos (Files.isSystem_of_append hnull happend)

/-- Either a record was appended at its path, or it left the files as they were. -/
theorem files_record (files : Files) (e : String) (path : Option String) :
    (∃ full after, e ≠ "" ∧ pathOf files path = .ok full ∧
      files.append full (entry e) = .ok after ∧ (record files e path).files files = after) ∨
    (record files e path).files files = files := by
  have hends := ends_record files e path
  generalize record files e path = outcome at hends ⊢
  cases hends with
  | skipped | failed => exact .inr rfl
  | written hne hpath happend => exact .inl ⟨_, _, hne, hpath, happend, rfl⟩

/-- A record of something at a path that takes it is written. -/
theorem record_of_append {full : String} (hne : e ≠ "") (hpath : pathOf files path = .ok full)
    (happend : files.append full (entry e) = .ok after) : record files e path = .written after := by
  rw [record, if_neg hne, hpath]
  simp only [bind, Except.bind, happend]

/-- A record makes no difference to the warning about the next one. -/
theorem warning?_record_after (files : Files) (first next : String) (path : Option String) :
    (record ((record files first path).files files) next path).warning? =
      (record files next path).warning? := by
  rcases files_record files first path with ⟨full, after, hne, hpath, happend, hafter⟩ | hsame
  · rw [hafter]
    by_cases hnext : next = ""
    · rw [record, record, if_pos hnext, if_pos hnext]
    obtain ⟨⟨last, hlast⟩, hhome, husers⟩ :=
      Files.exists_append_after (entry_isEmpty first) happend (entry next)
    have hfirst : ∃ other, files.append full (entry next) = .ok other := by
      cases hother : files.append full (entry next) with
      | ok other => exact ⟨other, rfl⟩
      | error cause =>
        rw [Files.append_eq_error (entry_isEmpty first) hother] at happend
        cases happend
    obtain ⟨other, hother⟩ := hfirst
    rw [record_of_append hnext ((Files.expandHome_eq hhome husers _).trans hpath) hlast,
      record_of_append hnext hpath hother]
    rfl
  · rw [hsame]

/-- A record moves no home directory. -/
theorem nullFreeHomes_record (hhomes : files.NullFreeHomes) (e : String) (path : Option String) :
    ((record files e path).files files).NullFreeHomes := by
  rcases files_record files e path with ⟨full, after, -, -, happend, hafter⟩ | hsame
  · obtain ⟨-, hhome, husers⟩ := Files.exists_append_after (entry_isEmpty e) happend (entry e)
    rw [hafter]
    exact ⟨hhome ▸ hhomes.home, husers ▸ hhomes.userHomes⟩
  · rw [hsame]
    exact hhomes

end

end History

end DeskCalc
