import DeskCalc.CommandLine.Reading
import DeskCalc.Proofs.CommandLine.Leftover

/-!
# Where values come from

The value of a setting is a word of the command line, or what is attached at the end of the word
that has the flag (`Given`). So the path of the history, where one is given, is the end of a word
(`historyPath_of_read`), and holds no character that the command line does not. And under rules that
keep dashes no setting goes without its value: there are a base of `log` and a level of the log
whatever the command line (`complete_of_read`).

Both are kept by every step of the reading, which is gone through once (`keeps_of_readRoles`).
-/

namespace DeskCalc.CommandLine

/-- A value that a word gives to a setting. -/
inductive Given (rules : Rules) (word : String) : Value → Prop
  /-- The word is the value. -/
  | word : Given rules word (.text word)
  /-- The value is attached to flags in the word. -/
  | attached {u : Use} {s : Setting} {value : Value} (hrole : role? rules word = some (.flags u))
    (hu : u.tail = .setting s (some value)) : Given rules word value

/-- The choices agree in what only settings choose. -/
structure Choices.SameSettings (choices after : Choices) : Prop where
  historyPath : after.historyPath = choices.historyPath
  logBase : after.logBase = choices.logBase
  logLevel : after.logLevel = choices.logLevel

/-- The path of the history, if there is one, is that of the settings or the end of a word. -/
def Reading.PathFrom (r : Reading) (words : List String) : Prop :=
  ∀ path, r.choices.historyPath = some path →
    Choices.standard.historyPath = some path ∨ ∃ word ∈ words, path.toList <:+ word.toList

/-- There are a base of `log` and a level of the log. -/
structure Choices.Complete (choices : Choices) : Prop where
  logBase : choices.logBase ≠ none
  logLevel : choices.logLevel ≠ none

section
variable {rules : Rules} {r r' : Reading} {f : Flag} {s : Setting} {u : Use} {value : Value}
  {choices : Choices} {word path : String} {text : List Char} {roles : List (String × Role)}
  {words arguments : List String} {reading : Reading}

/-! ## Attached values -/

theorem text?_ofAttached (h : (Value.ofAttached rules text).text? = some path) :
    path.toList = text := by
  rw [Value.ofAttached] at h
  split at h
  · cases h
  · cases h
    exact String.toList_ofList

theorem suffix_of_inlineValue? (h : Flag.inlineValue? word = some path) :
    path.toList <:+ word.toList := by
  unfold Flag.inlineValue? at h
  split at h
  · cases h
  · next sign rest hdrop =>
    cases h
    rw [String.toList_ofList]
    exact (List.suffix_cons sign rest).trans (hdrop ▸ List.dropWhile_suffix _)

/-- The value in a cluster is its end. -/
theorem exists_attached_of_cluster? (h : cluster? rules text = some u)
    (hu : u.tail = .setting s (some value)) :
    ∃ attached, value = .ofAttached rules attached ∧ attached <:+ text := by
  induction text generalizing u with
  | nil => cases h; cases hu
  | cons c rest ih =>
    rw [cluster?] at h
    split at h
    · obtain ⟨v, hv, rfl⟩ := Option.map_eq_some_iff.1 h
      obtain ⟨attached, hvalue, hsuffix⟩ := ih hv hu
      exact ⟨attached, hvalue, hsuffix.trans (List.suffix_cons c rest)⟩
    · cases h
      have hvalue : Value.ofCluster? rules rest = some value := (Tail.setting.inj hu).2
      rw [Value.ofCluster?] at hvalue
      split at hvalue
      · cases hvalue
      · cases hvalue
        refine ⟨_, rfl, List.IsSuffix.trans ?_ (List.suffix_cons c rest)⟩
        split
        · exact afterSign_suffix rest
        · exact List.suffix_rfl
    · split at h <;> cases h
      cases hu

/-- **The value in a word with flags is its end.** -/
theorem exists_attached_of_role? (h : role? rules word = some (.flags u))
    (hu : u.tail = .setting s (some value)) :
    ∃ attached, value = .ofAttached rules attached ∧ attached <:+ word.toList := by
  cases flagged_of_role? h with
  | @alone f hflag => subst hflag; cases f <;> cases hu
  | inline hvalue hflag =>
    subst hflag; cases hu
    exact ⟨_, rfl, suffix_of_inlineValue? hvalue⟩
  | @attached c rest f hword _ _ hrole =>
    have hrest : rest <:+ word.toList :=
      hword ▸ (List.suffix_cons c rest).trans (List.suffix_cons '-' _)
    cases f with
    | setting =>
      cases hrole; cases hu
      exact ⟨_, rfl, (afterSign_suffix rest).trans hrest⟩
    | switch =>
      obtain ⟨letters, v, hcluster, hsuffix, -, rfl⟩ := exists_cluster_of_ofAttached hrole
      obtain ⟨attached, hvalue, hattached⟩ := exists_attached_of_cluster? hcluster hu
      exact ⟨attached, hvalue, hattached.trans (hsuffix.trans hrest)⟩

/-- The text that a word gives to a setting is its end. -/
theorem Given.suffix (h : Given rules word value) (hpath : value.text? = some path) :
    path.toList <:+ word.toList := by
  cases h with
  | word =>
    cases hpath
    exact List.suffix_rfl
  | attached hrole hu =>
    obtain ⟨attached, rfl, hsuffix⟩ := exists_attached_of_role? hrole hu
    exact text?_ofAttached hpath ▸ hsuffix

/-- Where dashes are kept every word that gives a value gives a text. -/
theorem Given.ne_absent (hrules : rules.keepsDashes = true) (h : Given rules word value) :
    value ≠ .absent := by
  cases h with
  | word => nofun
  | attached hrole hu =>
    obtain ⟨attached, rfl, -⟩ := exists_attached_of_role? hrole hu
    rw [Value.ofAttached, hrules, if_neg (fun h => Bool.noConfusion h.2)]
    nofun

/-! ## Reading -/

theorem sameSettings_choose (h : r.choose f choices = .ok r')
    (hsame : r.choices.SameSettings choices) : r.choices.SameSettings r'.choices := by
  unfold Reading.choose at h
  split at h
  · split at h
    · cases h; exact hsame
    · cases h
  · cases h; exact hsame

theorem sameSettings_takeSwitch {s : Switch} (h : r.takeSwitch s = .ok r') :
    r.choices.SameSettings r'.choices := by
  cases s with
  | help => cases h
  | single | multiple | argument => exact sameSettings_choose h ⟨rfl, rfl, rfl⟩
  | noHistory | showPostfix => cases h; exact ⟨rfl, rfl, rfl⟩

theorem sameSettings_takeSwitches (h : r.takeSwitches u = .ok r') :
    r.choices.SameSettings r'.choices := by
  unfold Reading.takeSwitches at h
  generalize u.switches = switches at h
  induction switches generalizing r with
  | nil => cases h; exact ⟨rfl, rfl, rfl⟩
  | cons s rest ih =>
    rw [List.foldlM_cons] at h
    obtain ⟨r₁, hs, h⟩ := exists_of_bind_eq_ok h
    have hfirst := sameSettings_takeSwitch hs
    have hrest := ih h
    exact ⟨hrest.historyPath.trans hfirst.historyPath, hrest.logBase.trans hfirst.logBase,
      hrest.logLevel.trans hfirst.logLevel⟩

/-- What every step keeps is true after the reading of words, if it was before. -/
theorem keeps_of_readRoles {motive : Reading → Prop}
    (hleave : ∀ r words, motive r → motive (r.leave words))
    (hswitches : ∀ r r' u, Reading.takeSwitches r u = .ok r' → motive r → motive r')
    (hsetting : ∀ r r' s value, (∃ word ∈ words, Given rules word value) →
      Reading.takeSetting r s value = .ok r' → motive r → motive r')
    (h : readRoles r roles = .ok r') (hr : motive r)
    (hroles : ∀ p ∈ roles, p.1 ∈ words ∧ role? rules p.1 = some p.2) : motive r' := by
  fun_induction readRoles r roles with
  | case1 r => cases h; exact hr
  | case2 r word rest ih | case3 r word rest ih =>
    exact ih h (hleave r [word] hr) (List.forall_mem_cons.1 hroles).2
  | case4 r word rest => cases h
  | case5 r word u rest htail ih =>
    obtain ⟨r₁, h₁, h⟩ := exists_of_bind_eq_ok h
    exact ih r₁ h (hswitches r r₁ u h₁ hr) (List.forall_mem_cons.1 hroles).2
  | case6 r word u rest letters htail ih =>
    obtain ⟨r₁, h₁, h⟩ := exists_of_bind_eq_ok h
    exact ih r₁ h (hleave r₁ _ (hswitches r r₁ u h₁ hr)) (List.forall_mem_cons.1 hroles).2
  | case7 r word u rest s value htail ih =>
    obtain ⟨r₁, h₁, h⟩ := exists_of_bind_eq_ok h
    obtain ⟨r₂, h₂, h⟩ := exists_of_bind_eq_ok h
    obtain ⟨⟨hword, hrole⟩, hrest⟩ := List.forall_mem_cons.1 hroles
    have hgiven : ∃ word ∈ words, Given rules word value := ⟨word, hword, .attached hrole htail⟩
    exact ih r₂ h (hsetting r₁ r₂ s value hgiven h₂ (hswitches r r₁ u h₁ hr)) hrest
  | case8 r word u s htail value rest ih =>
    obtain ⟨r₁, h₁, h⟩ := exists_of_bind_eq_ok h
    obtain ⟨r₂, h₂, h⟩ := exists_of_bind_eq_ok h
    obtain ⟨-, ⟨hword, -⟩, hrest⟩ := (List.forall_mem_cons.1 hroles).imp id List.forall_mem_cons.1
    have hgiven : ∃ word ∈ words, Given rules word (.text value) := ⟨value, hword, .word⟩
    exact ih r₂ h (hsetting r₁ r₂ s _ hgiven h₂ (hswitches r r₁ u h₁ hr)) hrest
  | case9 => cases h

/-- What every step keeps is true of a command line that is in order, if it is true before the
first word. -/
theorem keeps_of_read {motive : Reading → Prop}
    (hleave : ∀ r words, motive r → motive (r.leave words))
    (hswitches : ∀ r r' u, Reading.takeSwitches r u = .ok r' → motive r → motive r')
    (hsetting : ∀ r r' s value, (∃ word ∈ arguments, Given rules word value) →
      Reading.takeSetting r s value = .ok r' → motive r → motive r')
    (hstart : motive .start) (h : read rules arguments = .ok reading) : motive reading := by
  rw [read] at h
  obtain ⟨roles, hroles, h⟩ := exists_of_bind_eq_ok h
  obtain ⟨r, hread, h⟩ := exists_of_bind_eq_ok h
  cases h
  obtain ⟨hwords, hrole⟩ := map_fst_of_withRole hroles
  refine hleave r _ (keeps_of_readRoles hleave hswitches hsetting hread hstart fun p hp => ?_)
  refine ⟨?_, hrole p hp⟩
  exact (List.takeWhile_sublist _).subset (hwords ▸ List.mem_map_of_mem hp)

/-- A setting leaves the path of the history as it is, or makes its value the path. -/
theorem historyPath_takeSetting (h : r.takeSetting s value = .ok r') :
    r'.choices.historyPath = r.choices.historyPath ∨ r'.choices.historyPath = value.text? := by
  cases s with
  | batchFile => exact .inl (sameSettings_choose h ⟨rfl, rfl, rfl⟩).historyPath
  | historyPath => cases h; exact .inr rfl
  | outputPath | logLevel => cases h; exact .inl rfl
  | logBase =>
    cases value with
    | absent => cases h; exact .inl rfl
    | text name =>
      unfold Reading.takeSetting at h
      dsimp only at h
      split at h
      · cases h; exact .inl rfl
      · cases h

/-- **The path of the history is that of the settings, or the end of a word.** -/
theorem historyPath_of_read (h : read rules arguments = .ok reading) :
    reading.PathFrom arguments := by
  refine keeps_of_read (motive := (Reading.PathFrom · arguments)) (fun _ _ hr => hr) ?_ ?_ ?_ h
  · intro r r' u hswitches hr path hpath
    exact hr path ((sameSettings_takeSwitches hswitches).historyPath ▸ hpath)
  · rintro r r' s value ⟨word, hword, hgiven⟩ hvalue hr path hpath
    rcases historyPath_takeSetting hvalue with hsame | hnew
    · exact hr path (hsame ▸ hpath)
    · exact .inr ⟨word, hword, hgiven.suffix (hnew ▸ hpath)⟩
  · exact fun path hpath => .inl hpath

theorem Choices.Complete.of_sameSettings {after : Choices} (h : choices.Complete)
    (hsame : choices.SameSettings after) : after.Complete :=
  ⟨hsame.logBase ▸ h.logBase, hsame.logLevel ▸ h.logLevel⟩

/-- A text keeps what there is of a base and a level. -/
theorem Choices.Complete.takeSetting (hvalue : value ≠ .absent)
    (h : r.takeSetting s value = .ok r') (hr : r.choices.Complete) : r'.choices.Complete := by
  cases value with
  | absent => exact absurd rfl hvalue
  | text name =>
    cases s with
    | batchFile => exact hr.of_sameSettings (sameSettings_choose h ⟨rfl, rfl, rfl⟩)
    | outputPath | historyPath => cases h; exact ⟨hr.logBase, hr.logLevel⟩
    | logLevel => cases h; exact ⟨hr.logBase, nofun⟩
    | logBase =>
      unfold Reading.takeSetting at h
      dsimp only at h
      split at h
      · cases h; exact ⟨nofun, hr.logLevel⟩
      · cases h

/-- **Where dashes are kept there are a base of `log` and a level of the log.** -/
theorem complete_of_read (hrules : rules.keepsDashes = true)
    (h : read rules arguments = .ok reading) : reading.choices.Complete := by
  refine keeps_of_read (motive := (·.choices.Complete)) (fun _ _ hr => hr) ?_ ?_ ?_ h
  · intro r r' u hswitches hr
    exact hr.of_sameSettings (sameSettings_takeSwitches hswitches)
  · rintro r r' s value ⟨word, -, hgiven⟩ hvalue hr
    exact hr.takeSetting (hgiven.ne_absent hrules) hvalue
  · exact ⟨nofun, nofun⟩

end

end DeskCalc.CommandLine
