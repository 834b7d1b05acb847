import DeskCalc.CommandLine.Reading
import DeskCalc.Proofs.CommandLine.Word
import DeskCalc.Proofs.Result

/-!
# The expression, and what reading leaves over

The command line is gone through twice: `read` takes the flags and their values and leaves the other
words over, and `expression` joins the words that it takes for the expression. On a command line
that is in order the two part only where something is attached to a short flag
(`expression_eq_iff`): such a word has flags for the one and belongs to the expression for the
other. No word that is left over is missing from the expression, but it may be there with the
switches that its letters were attached to. All this holds under any rules.

The reading is followed with `Leaves`, word by word; `Collected` sets what it leaves beside what is
taken for the expression, with one rule for each way in which they agree or part.
-/

namespace DeskCalc.CommandLine

/-- What reading leaves of words with their roles. -/
inductive Leaves : List (String × Role) → List String → Prop
  | nil : Leaves [] []
  | word {word : String} {role : Role} {rest : List (String × Role)} {left : List String}
    (hrole : role = .plain ∨ role = .unknown) (hrest : Leaves rest left) :
    Leaves ((word, role) :: rest) (word :: left)
  /-- Letters may be left over of a word with flags. -/
  | flags {word : String} {u : Use} {rest : List (String × Role)} {left : List String}
    (hnext : u.takesNext = false) (hrest : Leaves rest left) :
    Leaves ((word, .flags u) :: rest) (u.tail.letters?.toList ++ left)
  /-- The value is a plain word. -/
  | setting {word value : String} {u : Use} {rest : List (String × Role)} {left : List String}
    (hnext : u.takesNext = true) (hrest : Leaves rest left) :
    Leaves ((word, .flags u) :: (value, .plain) :: rest) left

/-- Words of the command line, what reading leaves of them and what is taken for the expression. -/
inductive Collected (rules : Rules) : List String → List String → List String → Prop
  | nil : Collected rules [] [] []
  | word {word : String} {words left taken : List String} (hword : isAttached word = false)
    (hrest : Collected rules words left taken) :
    Collected rules (word :: words) (word :: left) (word :: taken)
  | flag {word : String} {words left taken : List String} (hword : isAttached word = false)
    (hrest : Collected rules words left taken) : Collected rules (word :: words) left taken
  | setting {word value : String} {words left taken : List String}
    (hword : isAttached word = false) (hvalue : isAttached value = false)
    (hrest : Collected rules words left taken) : Collected rules (word :: value :: words) left taken
  /-- A word with something attached is taken, whatever letters of it are left over. -/
  | attached {word : String} {letters : Option String} {words left taken : List String}
    (hword : isAttached word = true) (hletters : ∀ l ∈ letters, LettersOf rules word l)
    (hrest : Collected rules words left taken) :
    Collected rules (word :: words) (letters.toList ++ left) (word :: taken)
  /-- So is the value after it, where the last of its flags has one. -/
  | attachedSetting {word value : String} {words left taken : List String}
    (hword : isAttached word = true) (hrest : Collected rules words left taken) :
    Collected rules (word :: value :: words) left (word :: value :: taken)

/-- What is left over of a word of the expression: the word or letters of it. -/
def LeftOf (rules : Rules) (word left : String) : Prop :=
  left = word ∨ LettersOf rules word left

/-- The characters of words, and one more for each that divides it from the next. -/
def extent : List String → Nat
  | [] => 0
  | word :: rest => word.length + 1 + extent rest

section
variable {rules : Rules} {r r' : Reading} {u : Use} {word : String} {role : Role}
  {words left taken arguments : List String} {roles : List (String × Role)} {reading : Reading}

/-! ## What reading leaves over -/

/-- A choice leaves no word over. -/
theorem leftover_choose {f : Flag} {choices : Choices} (h : r.choose f choices = .ok r') :
    r'.leftover = r.leftover := by
  unfold Reading.choose at h
  split at h
  · split at h
    · cases h; rfl
    · cases h
  · cases h; rfl

theorem leftover_takeSwitch {s : Switch} (h : r.takeSwitch s = .ok r') :
    r'.leftover = r.leftover := by
  cases s with
  | help => cases h
  | single | multiple | argument => exact leftover_choose h
  | noHistory | showPostfix => cases h; rfl

theorem leftover_takeSetting {s : Setting} {value : Value} (h : r.takeSetting s value = .ok r') :
    r'.leftover = r.leftover := by
  cases s with
  | batchFile => exact leftover_choose h
  | outputPath | historyPath | logLevel => cases h; rfl
  | logBase =>
    cases value with
    | absent => cases h; rfl
    | text name =>
      unfold Reading.takeSetting at h
      dsimp only at h
      split at h
      · cases h; rfl
      · cases h

theorem leftover_takeSwitches (h : r.takeSwitches u = .ok r') : r'.leftover = r.leftover := by
  unfold Reading.takeSwitches at h
  generalize u.switches = switches at h
  induction switches generalizing r with
  | nil => cases h; rfl
  | cons s rest ih =>
    rw [List.foldlM_cons] at h
    obtain ⟨r₁, hs, h⟩ := exists_of_bind_eq_ok h
    exact (ih h).trans (leftover_takeSwitch hs)

/-- Reading adds what it leaves of its words. -/
theorem leaves_of_readRoles (h : readRoles r roles = .ok r') :
    ∃ left, Leaves roles left ∧ r'.leftover = r.leftover ++ left := by
  fun_induction readRoles r roles with
  | case1 r => cases h; exact ⟨[], .nil, (List.append_nil _).symm⟩
  | case2 r word rest ih | case3 r word rest ih =>
    obtain ⟨left, hleaves, hleft⟩ := ih h
    refine ⟨word :: left, .word (by simp) hleaves, ?_⟩
    rw [hleft, Reading.leave, List.append_assoc]
    rfl
  | case4 r word rest => cases h
  | case5 r word u rest htail ih =>
    obtain ⟨r₁, hswitches, h⟩ := exists_of_bind_eq_ok h
    obtain ⟨left, hleaves, hleft⟩ := ih r₁ h
    refine ⟨_, .flags (by rw [Use.takesNext, htail]) hleaves, ?_⟩
    rw [hleft, leftover_takeSwitches hswitches, htail]
    rfl
  | case6 r word u rest letters htail ih =>
    obtain ⟨r₁, hswitches, h⟩ := exists_of_bind_eq_ok h
    obtain ⟨left, hleaves, hleft⟩ := ih r₁ h
    refine ⟨_, .flags (by rw [Use.takesNext, htail]) hleaves, ?_⟩
    rw [hleft, Reading.leave, leftover_takeSwitches hswitches, List.append_assoc, htail]
    rfl
  | case7 r word u rest s value htail ih =>
    obtain ⟨r₁, hswitches, h⟩ := exists_of_bind_eq_ok h
    obtain ⟨r₂, hvalue, h⟩ := exists_of_bind_eq_ok h
    obtain ⟨left, hleaves, hleft⟩ := ih r₂ h
    refine ⟨_, .flags (by rw [Use.takesNext, htail]) hleaves, ?_⟩
    rw [hleft, leftover_takeSetting hvalue, leftover_takeSwitches hswitches, htail]
    rfl
  | case8 r word u s htail value rest ih =>
    obtain ⟨r₁, hswitches, h⟩ := exists_of_bind_eq_ok h
    obtain ⟨r₂, hvalue, h⟩ := exists_of_bind_eq_ok h
    obtain ⟨left, hleaves, hleft⟩ := ih r₂ h
    refine ⟨left, .setting (by rw [Use.takesNext, htail]) hleaves, ?_⟩
    rw [hleft, leftover_takeSetting hvalue, leftover_takeSwitches hswitches]
  | case9 => cases h

/-- The words of a command line keep their places when they get their roles. -/
theorem map_fst_of_withRole (h : words.mapM (withRole rules) = .ok roles) :
    roles.map Prod.fst = words ∧ ∀ p ∈ roles, role? rules p.1 = some p.2 := by
  induction words generalizing roles with
  | nil => cases h; exact ⟨rfl, nofun⟩
  | cons word rest ih =>
    rw [List.mapM_cons] at h
    obtain ⟨p, hp, h⟩ := exists_of_bind_eq_ok h
    obtain ⟨tail, htail, h⟩ := exists_of_bind_eq_ok h
    cases h
    unfold withRole at hp
    split at hp
    · next role hrole =>
      cases hp
      obtain ⟨hwords, hroles⟩ := ih htail
      refine ⟨by rw [List.map_cons, hwords], ?_⟩
      exact List.forall_mem_cons.2 ⟨hrole, hroles⟩
    · cases hp

/-- A command line that is in order: the roles of the words before two dashes, and what reading
leaves of these. All words after the dashes are left over as well. -/
theorem exists_leaves_of_read (h : read rules arguments = .ok reading) :
    ∃ roles left, roles.map Prod.fst = arguments.takeWhile (· ≠ "--") ∧
      (∀ p ∈ roles, role? rules p.1 = some p.2) ∧ Leaves roles left ∧
      reading.leftover = left ++ (arguments.dropWhile (· ≠ "--")).drop 1 := by
  rw [read] at h
  obtain ⟨roles, hroles, h⟩ := exists_of_bind_eq_ok h
  obtain ⟨r, hread, h⟩ := exists_of_bind_eq_ok h
  cases h
  obtain ⟨hwords, hrole⟩ := map_fst_of_withRole hroles
  obtain ⟨left, hleaves, hleft⟩ := leaves_of_readRoles hread
  refine ⟨roles, left, hwords, hrole, hleaves, ?_⟩
  rw [Reading.leave, hleft]
  rfl

/-! ## What is taken for the expression -/

/-- The words of the expression go on after a word that is no flag, after a flag and after its
value. -/
theorem expressionWords_cons (hword : word ≠ "--") (rest : List String) :
    expressionWords (word :: rest) =
      match Flag.takesNext? word with
      | none => word :: expressionWords rest
      | some next => expressionWords (if next then rest.drop 1 else rest) := by
  rw [expressionWords.eq_def, Flag.takesNext?]
  dsimp only
  rw [if_neg hword]
  cases Flag.find? word with
  | none => rfl
  | some p =>
    obtain ⟨f, inline⟩ := p
    dsimp only [Option.map_some]
    split
    · cases rest <;> rfl
    · rfl

/-- A word that is no flag is one of them. -/
theorem expressionWords_of_none (hword : word ≠ "--") (h : Flag.takesNext? word = none)
    (rest : List String) : expressionWords (word :: rest) = word :: expressionWords rest := by
  rw [expressionWords_cons hword, h]

/-- A flag is none of them, and neither is its value. -/
theorem expressionWords_of_some {next : Bool} (hword : word ≠ "--")
    (h : Flag.takesNext? word = some next) (rest : List String) :
    expressionWords (word :: rest) = expressionWords (if next then rest.drop 1 else rest) := by
  rw [expressionWords_cons hword, h]

/-- From the first two dashes on, all is taken but the dashes. -/
theorem expressionWords_dropWhile (arguments : List String) :
    expressionWords (arguments.dropWhile (· ≠ "--")) =
      (arguments.dropWhile (· ≠ "--")).drop 1 := by
  cases hback : arguments.dropWhile (· ≠ "--") with
  | nil => rfl
  | cons word rest =>
    have hword := List.head?_dropWhile_not (fun w : String => decide (w ≠ "--")) arguments
    rw [hback] at hword
    rw [expressionWords.eq_def]
    exact if_pos (by simpa using hword)

/-- Words with their roles, none of them two dashes: what is left of them is set beside what is
taken for the expression. -/
theorem exists_collected (h : Leaves roles left)
    (hroles : ∀ p ∈ roles, role? rules p.1 = some p.2 ∧ p.1 ≠ "--") :
    ∃ taken, Collected rules (roles.map Prod.fst) left taken ∧
      ∀ back, expressionWords (roles.map Prod.fst ++ back) = taken ++ expressionWords back := by
  induction h with
  | nil => exact ⟨[], .nil, fun _ => rfl⟩
  | @word word role rest left hrole _ ih =>
    obtain ⟨⟨hword, hdashes⟩, hroles⟩ := List.forall_mem_cons.1 hroles
    obtain ⟨taken, hcollected, htaken⟩ := ih hroles
    obtain ⟨hnext, hattached⟩ := plain_or_unknown hword hrole
    refine ⟨word :: taken, .word hattached hcollected, fun back => ?_⟩
    rw [List.map_cons, List.cons_append, expressionWords_of_none hdashes hnext, htaken,
      List.cons_append]
  | @flags word u rest left hu _ ih =>
    obtain ⟨⟨hword, hdashes⟩, hroles⟩ := List.forall_mem_cons.1 hroles
    obtain ⟨taken, hcollected, htaken⟩ := ih hroles
    obtain ⟨hflag, hnoflag⟩ := takesNext?_of_role? hword nofun
    cases hattached : isAttached word with
    | true =>
      have hnext := (hnoflag hattached).1
      refine ⟨word :: taken,
        .attached hattached (fun _ hu => (lettersOf_of_role? hword hu).2) hcollected,
        fun back => ?_⟩
      rw [List.map_cons, List.cons_append, expressionWords_of_none hdashes hnext, htaken,
        List.cons_append]
    | false =>
      have hnext : Flag.takesNext? word = some false := by rw [hflag hattached, ← hu]; rfl
      have hnone : u.tail.letters? = none := by
        refine Option.eq_none_iff_forall_ne_some.2 fun left hu => ?_
        rw [(lettersOf_of_role? hword hu).1] at hattached
        cases hattached
      rw [hnone]
      refine ⟨taken, .flag hattached hcollected, fun back => ?_⟩
      rw [List.map_cons, List.cons_append, expressionWords_of_some hdashes hnext]
      exact htaken back
  | @setting word value u rest left hu _ ih =>
    obtain ⟨⟨hword, hdashes⟩, hroles⟩ := List.forall_mem_cons.1 hroles
    obtain ⟨⟨hvalue, hvalueDashes⟩, hroles⟩ := List.forall_mem_cons.1 hroles
    obtain ⟨taken, hcollected, htaken⟩ := ih hroles
    obtain ⟨hvalueNext, hvalueAttached⟩ := plain_or_unknown hvalue (.inl rfl)
    obtain ⟨hflag, hnoflag⟩ := takesNext?_of_role? hword nofun
    cases hattached : isAttached word with
    | true =>
      have hnext := (hnoflag hattached).1
      refine ⟨word :: value :: taken, .attachedSetting hattached hcollected, fun back => ?_⟩
      rw [List.map_cons, List.cons_append, expressionWords_of_none hdashes hnext, List.map_cons,
        List.cons_append, expressionWords_of_none hvalueDashes hvalueNext, htaken,
        List.cons_append, List.cons_append]
    | false =>
      have hnext : Flag.takesNext? word = some true := by rw [hflag hattached, ← hu]; rfl
      refine ⟨taken, .setting hattached hvalueAttached hcollected, fun back => ?_⟩
      rw [List.map_cons, List.cons_append, expressionWords_of_some hdashes hnext]
      exact htaken back

/-! ## Where the two part -/

/-- What is left over comes from words of the expression, one by one and in their order. -/
theorem Collected.exists_sublist (h : Collected rules words left taken) :
    ∃ kept : List String, kept.Sublist taken ∧ List.Forall₂ (LeftOf rules) kept left := by
  induction h with
  | nil => exact ⟨[], .slnil, .nil⟩
  | @word word _ _ _ _ _ ih =>
    obtain ⟨kept, hsublist, hleft⟩ := ih
    exact ⟨word :: kept, hsublist.cons_cons _, .cons (.inl rfl) hleft⟩
  | flag _ _ ih | setting _ _ _ ih => exact ih
  | @attached word letters _ _ _ _ hletters _ ih =>
    obtain ⟨kept, hsublist, hleft⟩ := ih
    cases letters with
    | none => exact ⟨kept, hsublist.cons _, hleft⟩
    | some l => exact ⟨word :: kept, hsublist.cons_cons _, .cons (.inr (hletters l rfl)) hleft⟩
  | attachedSetting _ _ ih =>
    obtain ⟨kept, hsublist, hleft⟩ := ih
    exact ⟨kept, (hsublist.cons _).cons _, hleft⟩

/-- With nothing attached to a short flag the expression is what is left over. -/
theorem Collected.eq (h : Collected rules words left taken)
    (hwords : ∀ word ∈ words, isAttached word = false) : taken = left := by
  induction h with
  | nil => rfl
  | word _ _ ih => rw [ih fun w hw => hwords w (.tail _ hw)]
  | flag _ _ ih => exact ih fun w hw => hwords w (.tail _ hw)
  | setting _ _ _ ih => exact ih fun w hw => hwords w (.tail _ (.tail _ hw))
  | attached hword | attachedSetting hword =>
    rw [hwords _ (.head _)] at hword
    cases hword

theorem length_pos_of_isAttached (h : isAttached word = true) : 0 < word.length := by
  rw [← String.length_toList]
  unfold isAttached at h
  split at h
  · next heq => rw [heq]; exact Nat.succ_pos _
  · cases h

/-- Letters that are left over are fewer than the word has. -/
theorem LettersOf.length_lt {letters : String} (h : LettersOf rules word letters) :
    letters.length < word.length := by
  cases h with
  | @behind switches rest c _ hword hsome =>
    have hpos := List.length_pos_iff.2 hsome
    rw [← String.length_toList, ← String.length_toList, hword, String.toList_ofList]
    simp only [List.length_append, List.length_cons]
    omega

/-- The letters that are left over of a word, if there are any, take up less than the word. -/
theorem extent_letters_lt {letters : Option String}
    (hletters : ∀ l ∈ letters, LettersOf rules word l) :
    extent letters.toList < word.length + 1 := by
  cases letters with
  | none => exact Nat.succ_pos _
  | some l =>
    have hlt := (hletters l rfl).length_lt
    simp only [Option.toList_some, extent]
    omega

theorem extent_append (words rest : List String) :
    extent (words ++ rest) = extent words + extent rest := by
  induction words with
  | nil => simp [extent]
  | cons word words ih => rw [List.cons_append, extent, extent, ih, ← Nat.add_assoc]

theorem Collected.extent_le (h : Collected rules words left taken) :
    extent left ≤ extent taken := by
  induction h with
  | nil => exact Nat.le_refl _
  | word => simp only [extent]; omega
  | flag _ _ ih | setting _ _ _ ih => exact ih
  | attached _ hletters =>
    have hlt := extent_letters_lt hletters
    rw [extent_append, extent]
    omega
  | attachedSetting => simp only [extent]; omega

/-- A word with something attached makes the expression longer than what is left over, and more
than one character long. -/
theorem Collected.extent_lt (h : Collected rules words left taken)
    (hattached : ∃ word ∈ words, isAttached word = true) :
    extent left < extent taken ∧ 1 < extent taken := by
  induction h with
  | nil => obtain ⟨_, hmem, _⟩ := hattached; cases hmem
  | word hword _ ih =>
    have := ih (by simpa [hword] using hattached)
    simp only [extent]
    omega
  | flag hword _ ih => exact ih (by simpa [hword] using hattached)
  | setting hword hvalue _ ih => exact ih (by simpa [hword, hvalue] using hattached)
  | attached hword hletters hrest =>
    have hpos := length_pos_of_isAttached hword
    have hle := hrest.extent_le
    have hlt := extent_letters_lt hletters
    rw [extent_append, extent]
    omega
  | attachedSetting hword hrest =>
    have hpos := length_pos_of_isAttached hword
    have hle := hrest.extent_le
    simp only [extent]
    omega

theorem length_intercalate (words : List String) :
    (" ".intercalate words).length = extent words - 1 := by
  induction words with
  | nil => rfl
  | cons word rest ih =>
    cases rest with
    | nil => simp [extent]
    | cons next rest =>
      have hspace : " ".length = 1 := rfl
      rw [String.intercalate_cons_cons, String.length_append, String.length_append, ih, hspace]
      simp only [extent]
      omega

/-- **When the expression is what reading leaves over.** Under any rules, on a command line that is
in order: what is left over comes from words of the expression, one by one and in their order, so
none of it is missing there; and the two are the same exactly when nothing is attached to a short
flag in front of two dashes. -/
theorem expression_eq_iff (h : read rules arguments = .ok reading) :
    (∃ kept : List String, kept.Sublist (expressionWords arguments) ∧
        List.Forall₂ (LeftOf rules) kept reading.leftover) ∧
      (expression arguments = " ".intercalate reading.leftover ↔
        ∀ word ∈ arguments.takeWhile (· ≠ "--"), isAttached word = false) := by
  obtain ⟨roles, left, hwords, hrole, hleaves, hleft⟩ := exists_leaves_of_read h
  have hdashes : ∀ p ∈ roles, p.1 ≠ "--" := by
    have hall : (arguments.takeWhile (· ≠ "--")).all (· ≠ "--") = true := List.all_takeWhile
    rw [← hwords, List.all_map, List.all_eq_true] at hall
    exact fun p hp => of_decide_eq_true (hall p hp)
  obtain ⟨taken, hcollected, htaken⟩ :=
    exists_collected hleaves fun p hp => ⟨hrole p hp, hdashes p hp⟩
  have hexpression : expressionWords arguments =
      taken ++ (arguments.dropWhile (· ≠ "--")).drop 1 := by
    rw [← expressionWords_dropWhile, ← htaken, hwords, List.takeWhile_append_dropWhile]
  rw [hwords] at hcollected
  rw [expression, hexpression, hleft]
  refine ⟨?_, fun hsame => ?_, fun hnone => ?_⟩
  · obtain ⟨kept, hsublist, hkept⟩ := hcollected.exists_sublist
    refine ⟨kept ++ (arguments.dropWhile (· ≠ "--")).drop 1, hsublist.append_right _, ?_⟩
    exact List.rel_append hkept (List.forall₂_same.2 fun _ _ => .inl rfl)
  · -- what is attached would make one of the two texts longer
    intro word hmem
    refine eq_false_of_ne_true fun hattached => ?_
    obtain ⟨hlt, hone⟩ := hcollected.extent_lt ⟨word, hmem, hattached⟩
    have hlength := congrArg String.length hsame
    rw [length_intercalate, length_intercalate, extent_append, extent_append] at hlength
    omega
  · rw [hcollected.eq hnone]

/-- A value after an equals sign and two dashes. -/
theorem expression_inline_value :
    ∃ reading, read .late ["--log_base=10", "--", "log(100)", "-", "10"] = .ok reading ∧
      reading.leftover = ["log(100)", "-", "10"] ∧
      expression ["--log_base=10", "--", "log(100)", "-", "10"] =
        " ".intercalate reading.leftover :=
  ⟨_, rfl, rfl, (@expression_eq_iff .late _ _ rfl).2.2 (by decide)⟩

/-- A switch that is given twice behind one dash is taken for the expression, whatever the rules. -/
theorem attached_switch_leaks :
    ∃ reading, read .late ["-aa", "1+2"] = .ok reading ∧
      read .early ["-aa", "1+2"] = .ok reading ∧ reading.leftover = ["1+2"] ∧
      expression ["-aa", "1+2"] ≠ " ".intercalate reading.leftover :=
  ⟨_, rfl, rfl, rfl, by decide⟩

/-- Letters that are no flags are taken for the expression together with the switch. -/
example : (read .late ["-ax", "1+2"]).map (·.leftover) = .ok ["-x", "1+2"] ∧
    expressionWords ["-ax", "1+2"] = ["-ax", "1+2"] := ⟨rfl, rfl⟩

end

end DeskCalc.CommandLine
