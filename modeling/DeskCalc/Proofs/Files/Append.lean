import DeskCalc.Files.Path
import DeskCalc.Proofs.Result

/-!
# Appending and writing at a path

A path at which a file is, or at which there is nothing and a file can be made, can be appended to
over and over: every append succeeds, adds its bytes to those that are there, and leaves the path
such a path (`Appendable.append`). What is at a path does not lie on the way to any path, since only
directories do, so putting a file there moves no path (`sameWays_put`). A file that is written anew
holds what was written and nothing else (`content?_of_write`).
-/

namespace DeskCalc.Files

/-- At the path is a file with this content, or nothing, and a file can be made there. -/
def Appendable (fs : Files) (path : String) (content : Option ByteArray) : Prop :=
  ∃ t, fs.locate path = .ok t ∧ t.slash = false ∧ fs.nodeAt t = .ok (content.map .file)

/-- Nothing is at the path, and a file can be made there. -/
structure Fresh (fs : Files) (path : String) : Prop where
  absent : fs.read path = .error ⟨.notFound, path⟩
  writable : ∃ after, fs.append path .empty = .ok after

/-- Every path leads to the same place in both: they have the same directories, and paths start at
the same places. -/
structure SameWays (fs after : Files) : Prop where
  directories : ∀ l, after.node? l = some .directory ↔ fs.node? l = some .directory
  workingDirectory : after.workingDirectory = fs.workingDirectory
  home : after.home = fs.home
  userHomes : after.userHomes = fs.userHomes

/-- What becomes of every update at a target. -/
inductive Updates (fs : Files) (t : Target) : Prop
  | refused {cause : FileCause} (hcause : cause ≠ .nullCharacter)
    (hupdate : ∀ f, fs.updateTarget f t = .error cause)
  | put (content : Option ByteArray) (hslash : t.slash = false)
    (hnode : fs.nodeAt t = .ok (content.map .file))
    (hupdate : ∀ f, fs.updateTarget f t = .ok (fs.put t.location (f (content.getD .empty))))
  | null (hnode : fs.nodeAt t = .ok (some (.device .null)))
    (hupdate : ∀ f, fs.updateTarget f t = .ok fs)
  /-- There is no space for anything. -/
  | full (hnode : fs.nodeAt t = .ok (some (.device .full)))
    (hupdate : ∀ f, fs.updateTarget f t =
      if (f .empty).isEmpty then .ok fs else .error .noSpace)

section
variable {fs after : Files} {path : String} {content : Option ByteArray} {l m start : Location}
  {names : List String} {t : Target}

/-! ## Paths after a file was put -/

/-- Homes are all that writing a home directory out depends on. -/
theorem expandHome_eq (hhome : after.home = fs.home) (husers : after.userHomes = fs.userHomes)
    (path : String) :
    after.expandHome path = fs.expandHome path := by
  rw [expandHome, expandHome, hhome, husers]

theorem SameWays.refl (fs : Files) : fs.SameWays fs :=
  ⟨fun _ => .rfl, rfl, rfl, rfl⟩

theorem SameWays.symm (h : fs.SameWays after) : after.SameWays fs :=
  ⟨fun l => (h.directories l).symm, h.workingDirectory.symm, h.home.symm, h.userHomes.symm⟩

theorem SameWays.trans {last : Files} (h : fs.SameWays after) (hlast : after.SameWays last) :
    fs.SameWays last :=
  ⟨fun l => (hlast.directories l).trans (h.directories l),
    hlast.workingDirectory.trans h.workingDirectory, hlast.home.trans h.home,
    hlast.userHomes.trans h.userHomes⟩

/-- A walk goes through directories only. -/
theorem SameWays.walk (h : fs.SameWays after) (hwalk : fs.walk start names = .ok l) :
    after.walk start names = .ok l := by
  induction names generalizing start with
  | nil => exact hwalk
  | cons name rest ih =>
    rw [Files.walk] at hwalk ⊢
    split at hwalk
    · next hstay => rw [if_pos hstay]; exact ih hwalk
    next hstay =>
    rw [if_neg hstay]
    split at hwalk
    · next hup => rw [if_pos hup]; exact ih hwalk
    next hup =>
    rw [if_neg hup]
    split at hwalk
    · cases hwalk
    next hlong =>
    rw [if_neg hlong]
    split at hwalk
    · cases hwalk
    · cases hwalk
    · cases hwalk
    · next hnode =>
      rw [(h.directories _).2 hnode]
      exact ih hwalk

/-- A path that leads somewhere leads there in the other files too. -/
theorem SameWays.locate (h : fs.SameWays after) (hlocate : fs.locate path = .ok t) :
    after.locate path = .ok t := by
  rw [Files.locate] at hlocate ⊢
  split at hlocate
  · cases hlocate
  next hnull =>
  rw [if_neg hnull]
  split at hlocate
  · cases hlocate
  next hempty =>
  rw [if_neg hempty]
  split at hlocate
  · cases hlocate
  next hlong =>
  rw [if_neg hlong]
  dsimp only at hlocate ⊢
  split at hlocate
  · exact hlocate
  · obtain ⟨directory, hwalk, hlocate⟩ := exists_of_bind_eq_ok hlocate
    cases hlocate
    have horigin : after.origin path = fs.origin path := by
      rw [origin, origin, h.workingDirectory]
    rw [horigin, h.walk hwalk]
    rfl

/-- Putting a file where no directory is moves no path. -/
theorem sameWays_put (hm : fs.node? m ≠ some .directory) (bytes : ByteArray) :
    fs.SameWays (fs.put m bytes) := by
  refine ⟨fun l => ?_, rfl, rfl, rfl⟩
  by_cases hl : l = m
  · have hroot : m ≠ [] := by
      rintro rfl
      exact hm rfl
    rw [hl, node?_put_self fs hroot]
    exact iff_of_false nofun hm
  · rw [node?_put_of_ne fs hl]

theorem locate_put (hm : fs.node? m ≠ some .directory) (bytes : ByteArray)
    (h : fs.locate path = .ok t) : (fs.put m bytes).locate path = .ok t :=
  (sameWays_put hm bytes).locate h

/-! ## Updates -/

/-- What is found at a target is what is at its location. -/
theorem node?_of_nodeAt {node : Option Node} (h : fs.nodeAt t = .ok node) :
    fs.node? t.location = node := by
  rw [nodeAt] at h
  split at h
  · cases h
  · exact Except.ok.inj h

theorem nodeAt_ne_null {cause : FileCause} (h : fs.nodeAt t = .error cause) :
    cause ≠ .nullCharacter := by
  rw [nodeAt] at h
  split at h <;> cases h
  nofun

/-- Without a slash at its end, a target takes what its node takes. -/
theorem updateTarget_of_slash (hslash : t.slash = false) (f : ByteArray → ByteArray) :
    fs.updateTarget f t = (fs.nodeAt t).bind fun
      | some .directory => .error .isDirectory
      | some (.file content) => .ok (fs.put t.location (f content))
      | some (.device .null) => .ok fs
      | some (.device .full) => if (f .empty).isEmpty then .ok fs else .error .noSpace
      | none => .ok (fs.put t.location (f .empty)) := by
  rw [updateTarget, hslash]
  rfl

/-- Nothing else becomes of an update. -/
theorem updates (fs : Files) (t : Target) : fs.Updates t := by
  have hdirectory : FileCause.isDirectory ≠ .nullCharacter := by decide
  cases hslash : t.slash with
  | true =>
    refine .refused hdirectory fun f => ?_
    rw [updateTarget, hslash]
    rfl
  | false =>
    have hupdate := @updateTarget_of_slash fs t hslash
    cases hnode : fs.nodeAt t with
    | error cause =>
      rw [hnode] at hupdate
      exact .refused (nodeAt_ne_null hnode) hupdate
    | ok node =>
      rw [hnode] at hupdate
      rcases node with _ | (content | _ | (_ | _))
      · exact .put none hslash hnode hupdate
      · exact .put (some content) hslash hnode hupdate
      · exact .refused hdirectory hupdate
      · exact .null hnode hupdate
      · exact .full hnode hupdate

/-! ## Appending -/

/-- An append at a path that leads somewhere is an update of what is there. -/
theorem append_of_locate {bytes : ByteArray} (h : fs.locate path = .ok t) :
    fs.append path bytes = (fs.updateTarget (· ++ bytes) t).mapError (⟨·, path⟩) := by
  rw [append, update, h]
  rfl

/-- Where a file can be put, it is not the root. -/
theorem location_ne_nil (h : fs.nodeAt t = .ok (content.map .file)) : t.location ≠ [] := by
  intro hroot
  have hnode := node?_of_nodeAt h
  rw [hroot] at hnode
  cases content <;> cases hnode

/-- After a file was put at a target it is there. -/
theorem nodeAt_put (h : fs.nodeAt t = .ok (content.map .file)) (bytes : ByteArray) :
    (fs.put t.location bytes).nodeAt t = .ok (some (.file bytes)) := by
  have hput := node?_put_self fs (location_ne_nil h) bytes
  rw [nodeAt] at h ⊢
  split at h
  · cases h
  · next hshort => rw [if_neg hshort, hput]

theorem node?_ne_directory (h : fs.nodeAt t = .ok (content.map .file)) :
    fs.node? t.location ≠ some .directory := by
  rw [node?_of_nodeAt h]
  cases content <;> nofun

/-- **An append adds its bytes to what is at the path**, and leaves a path to append at. -/
theorem Appendable.append (h : fs.Appendable path content) (bytes : ByteArray) :
    ∃ after, fs.append path bytes = .ok after ∧
      after.Appendable path (some (content.getD .empty ++ bytes)) ∧
      after.home = fs.home ∧ after.userHomes = fs.userHomes := by
  obtain ⟨t, hlocate, hslash, hnode⟩ := h
  let added := content.getD .empty ++ bytes
  have hupdate : fs.updateTarget (· ++ bytes) t = .ok (fs.put t.location added) := by
    rw [updateTarget, hslash, hnode]
    cases content <;> rfl
  refine ⟨fs.put t.location added, ?_, ⟨t, ?_, hslash, nodeAt_put hnode added⟩, rfl, rfl⟩
  · rw [append_of_locate hlocate, hupdate]
    rfl
  · exact locate_put (node?_ne_directory hnode) added hlocate

/-- After a write a file at the path holds what was written. -/
theorem content?_of_write {bytes found : ByteArray} {after : Files}
    (hwrite : fs.write path bytes = .ok after) (hfound : after.content? path = some found) :
    found = bytes := by
  obtain ⟨t, hlocate, hupdate⟩ := exists_of_bind_eq_ok (mapError_eq_ok_iff.1 hwrite)
  -- what is at the path now, if a file was put there
  have hput {content : Option ByteArray} (hnode : fs.nodeAt t = .ok (content.map .file))
      (hafter : fs.put t.location bytes = after) : found = bytes := by
    subst hafter
    have hlocate := locate_put (node?_ne_directory hnode) bytes hlocate
    have hself := node?_put_self fs (location_ne_nil hnode) bytes
    simp only [content?, hlocate, Except.toOption, Option.bind_eq_bind, Option.bind_some,
      hself] at hfound
    split at hfound
    · cases hfound
    · exact (Option.some.inj hfound).symm
  -- a device keeps nothing, so no file is there
  have hdevice {d : Device} (hnode : fs.nodeAt t = .ok (some (.device d))) (hafter : fs = after) :
      found = bytes := by
    subst hafter
    simp only [content?, hlocate, Except.toOption, Option.bind_eq_bind, Option.bind_some,
      node?_of_nodeAt hnode] at hfound
    cases hfound
  cases updates fs t with
  | refused _ h => rw [h] at hupdate; cases hupdate
  | put content _ hnode h => exact hput hnode (Except.ok.inj ((h _).symm.trans hupdate))
  | null hnode h => exact hdevice hnode (Except.ok.inj ((h _).symm.trans hupdate))
  | full hnode h =>
    rw [h] at hupdate
    split at hupdate
    · exact hdevice hnode (Except.ok.inj hupdate)
    · cases hupdate

/-- What is at the path is its content. -/
theorem Appendable.content?_eq (h : fs.Appendable path content) : fs.content? path = content := by
  obtain ⟨t, hlocate, hslash, hnode⟩ := h
  simp only [content?, hlocate, Except.toOption, Option.bind_eq_bind, Option.bind_some,
    node?_of_nodeAt hnode]
  cases content with
  | none => rfl
  | some bytes => simp [hslash]

/-- What was added is read. -/
theorem Appendable.read {bytes : ByteArray} (h : fs.Appendable path (some bytes)) :
    fs.read path = .ok bytes := by
  obtain ⟨t, hlocate, hslash, hnode⟩ := h
  have htarget : fs.readTarget t = .ok bytes := by
    rw [readTarget, hnode]
    simp only [Option.map_some, hslash]
    rfl
  rw [Files.read, hlocate]
  exact congrArg (Except.mapError _) htarget

/-- Where nothing was added nothing is found. -/
theorem Appendable.read_none (h : fs.Appendable path none) :
    fs.read path = .error ⟨.notFound, path⟩ := by
  obtain ⟨t, hlocate, -, hnode⟩ := h
  have htarget : fs.readTarget t = .error .notFound := by
    rw [readTarget, hnode]
    rfl
  rw [Files.read, hlocate]
  exact congrArg (Except.mapError _) htarget

/-- A file is missing where nothing is. -/
theorem nodeAt_of_readTarget (h : fs.readTarget t = .error .notFound) :
    fs.nodeAt t = .ok none := by
  rw [readTarget, nodeAt] at h
  rw [nodeAt]
  split at h
  · cases h
  next hshort =>
  rw [if_neg hshort]
  cases hnode : fs.node? t.location with
  | none => rfl
  | some node =>
    -- whatever is there, the error would be another one
    rw [hnode] at h
    cases node with
    | directory => cases h
    | file content =>
      dsimp only [bind, Except.bind] at h
      split at h <;> cases h
    | device d =>
      dsimp only [bind, Except.bind] at h
      split at h <;> cases h

/-- A path at which nothing is and a file can be made can be appended to. -/
theorem Fresh.appendable (h : fs.Fresh path) : fs.Appendable path none := by
  obtain ⟨after, hafter⟩ := h.writable
  obtain ⟨t, hlocate, hupdate⟩ := exists_of_bind_eq_ok (mapError_eq_ok_iff.1 hafter)
  obtain ⟨cause, hread, hcause⟩ := exists_of_mapError_eq_error h.absent
  rw [hlocate] at hread
  cases hcause
  refine ⟨t, hlocate, ?_, nodeAt_of_readTarget hread⟩
  cases hslash : t.slash with
  | false => rfl
  | true => rw [updateTarget, hslash] at hupdate; cases hupdate

end

end DeskCalc.Files
