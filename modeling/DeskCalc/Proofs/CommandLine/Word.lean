import DeskCalc.CommandLine.Role

/-!
# One word, read twice

A word of the command line is looked at twice. `role?` says what it is when the flags are read, and
`Flag.find?` says whether it is kept out of the expression. Each of them says of a word whether it
is a flag, and of a flag whether the next word is its value (`Role.takesNext?`, `Flag.takesNext?`).

They agree on all words but one kind, whatever the rules: words in which something is attached to a
short flag, as in `-ffile` or in `-ss` (`isAttached`). These have flags for `role?` and none for
`Flag.find?` (`takesNext?_of_role?`). Under the rules that leave letters over they may have both:
flags, and letters behind these (`LettersOf`).

Flags come into a word in three ways (`Flagged`): the word is a flag, or it has a value after an
equals sign, or something is attached to a short flag.
-/

namespace DeskCalc.CommandLine

/-- Something is attached to a short flag: its value, or more flags. -/
def isAttached (word : String) : Bool :=
  match word.toList with
  | '-' :: c :: _ :: _ => (Flag.ofSpelling? (.ofList ['-', c])).isSome
  | _ => false

/-- Whether the word after a flag is its value, `none` for a word that is no flag on its own. -/
def Flag.takesNext? (word : String) : Option Bool :=
  (Flag.find? word).map fun (f, inline) => f.takesValue && !inline

/-- The last flag of a use is a setting whose value is the next word. -/
def Use.takesNext (u : Use) : Bool :=
  match u.tail with
  | .setting _ none => true
  | _ => false

/-- The letters that are left over. -/
def Tail.letters? : Tail → Option String
  | letters word => some word
  | _ => none

/-- Whether the word after flags is a value, `none` for a word that has none or misuses them. -/
def Role.takesNext? : Role → Option Bool
  | flags u => some u.takesNext
  | _ => none

/-- Letters of a word that are left over, under the rules for that: those behind switches, from the
first that is no flag on, with the dash of the word in front. -/
inductive LettersOf (rules : Rules) (word : String) : String → Prop
  | behind {switches rest : List Char} {c : Char} (hrules : rules.leavesLetters = true)
    (hword : word.toList = '-' :: switches ++ c :: rest) (hsome : switches ≠ [])
    (hswitches : ∀ d ∈ switches, ∃ s, Flag.ofSpelling? (.ofList ['-', d]) = some (.switch s))
    (hc : Flag.ofSpelling? (.ofList ['-', c]) = none) :
    LettersOf rules word (.ofList ('-' :: c :: rest))

/-- How a word has its flags. -/
inductive Flagged (rules : Rules) (word : String) (u : Use) : Prop
  /-- It is a flag, or a long one cut short. -/
  | alone {f : Flag} (h : u = .ofFlag f)
  /-- It is a long setting with its value. -/
  | inline {s : Setting} {value : String} (hvalue : Flag.inlineValue? word = some value)
    (h : u = ⟨[], .setting s (some (.ofAttached rules value.toList))⟩)
  /-- Something is attached to a short flag in it. -/
  | attached {c : Char} {rest : List Char} {f : Flag} (hword : word.toList = '-' :: c :: rest)
    (hf : Flag.ofSpelling? (.ofList ['-', c]) = some f) (hattached : isAttached word = true)
    (h : Role.ofAttached rules rest f = .flags u)

section
variable {rules : Rules} {word left : String} {f : Flag} {role : Role} {u : Use} {c : Char}
  {rest text : List Char}

/-! ## Spellings -/

theorem mem_spellings (h : Flag.ofSpelling? word = some f) : (word, f) ∈ Flag.spellings := by
  obtain ⟨before, after, hs, -⟩ := List.lookup_eq_some_iff.1 h
  rw [hs]
  exact List.mem_append_right _ (.head _)

/-- A full spelling has nothing attached. -/
theorem isAttached_of_ofSpelling? (h : Flag.ofSpelling? word = some f) :
    isAttached word = false := by
  have hall : ∀ p ∈ Flag.spellings, isAttached p.1 = false := by decide
  exact hall _ (mem_spellings h)

/-- A full spelling is a dash with something after it. -/
theorem exists_toList_of_ofSpelling? (h : Flag.ofSpelling? word = some f) :
    ∃ c rest, word.toList = '-' :: c :: rest := by
  have hall : ∀ p ∈ Flag.spellings, p.1.toList.head? = some '-' ∧ p.1.toList.tail ≠ [] := by
    decide
  obtain ⟨hhead, htail⟩ := hall _ (mem_spellings h)
  obtain ⟨tail, hword⟩ := List.head?_eq_some_iff.1 hhead
  rw [hword, List.tail_cons] at htail
  obtain ⟨c, rest, rfl⟩ := List.exists_cons_of_ne_nil htail
  exact ⟨c, rest, hword⟩

/-- A flag without an attached value takes the next word if it takes a value. -/
theorem takesNext_ofFlag (f : Flag) : (Use.ofFlag f).takesNext = f.takesValue := by
  cases f <;> rfl

/-- A word without an equals sign is its own stem. -/
theorem stem_of_inlineValue? (h : Flag.inlineValue? word = none) : Flag.stem word = word := by
  unfold Flag.inlineValue? at h
  split at h
  · next hdrop =>
    have hcut := List.takeWhile_append_dropWhile (p := fun c => decide (c ≠ '=')) (l := word.toList)
    rw [hdrop, List.append_nil] at hcut
    rw [Flag.stem, hcut, String.ofList_toList]
  · cases h

/-! ## What is kept out of the expression -/

/-- A full spelling is kept out. -/
theorem takesNext?_of_ofSpelling? (h : Flag.ofSpelling? word = some f) :
    Flag.takesNext? word = some f.takesValue := by
  rw [Flag.takesNext?, Flag.find?, h]
  simp

/-- A word that has no full spelling is kept out only if it starts with two dashes. -/
theorem takesNext?_of_not_isLong (hspelled : Flag.ofSpelling? word = none)
    (hlong : Flag.isLong word = false) : Flag.takesNext? word = none := by
  rw [Flag.takesNext?, Flag.find?, hspelled, hlong]
  rfl

/-- A long flag that is cut short, or has a value after an equals sign. -/
theorem takesNext?_of_isLong (hspelled : Flag.ofSpelling? word = none)
    (hlong : Flag.isLong word = true) :
    Flag.takesNext? word =
      match Flag.ofSpelling? (Flag.stem word), Flag.startingWith (Flag.stem word) with
      | some f, _ | none, [f] => some (f.takesValue && (Flag.inlineValue? word).isNone)
      | none, _ => none := by
  have hinline : (!(Flag.inlineValue? word).isSome) = (Flag.inlineValue? word).isNone := by
    cases Flag.inlineValue? word <;> rfl
  rw [Flag.takesNext?, Flag.find?, hspelled, hlong]
  dsimp only
  cases Flag.ofSpelling? (Flag.stem word) with
  | some f => simp [hinline]
  | none => rcases Flag.startingWith (Flag.stem word) with _ | ⟨f, _ | ⟨g, more⟩⟩ <;> simp [hinline]

/-! ## The role of a word -/

/-- A word without flags is no flag with a value. -/
theorem takesNext?_ofDashed (word : String) : (Role.ofDashed word).takesNext? = none := by
  unfold Role.ofDashed
  split <;> rfl

/-- A text after an equals sign is the value of a setting. -/
theorem takesNext?_ofInline (text : List Char) (h : Role.ofInline rules text f ≠ .misused) :
    (Role.ofInline rules text f).takesNext? = some false := by
  cases f with
  | switch s => exact absurd rfl h
  | setting s => rfl

/-- A text attached to a short flag is a value, or more flags, or a misuse. -/
theorem exists_flags_of_ofAttached (text : List Char)
    (h : Role.ofAttached rules text f ≠ .misused) :
    ∃ u, Role.ofAttached rules text f = .flags u := by
  cases f with
  | setting s => exact ⟨_, rfl⟩
  | switch s =>
    unfold Role.ofAttached at h ⊢
    dsimp only at h ⊢
    split at h
    · next u hu => exact ⟨{ u with switches := s :: u.switches }, rfl⟩
    · exact absurd rfl h

/-- A full spelling is its flag. -/
theorem role?_of_ofSpelling? (h : Flag.ofSpelling? word = some f) :
    role? rules word = some (.flags (.ofFlag f)) := by
  obtain ⟨c, rest, hword⟩ := exists_toList_of_ofSpelling? h
  rw [role?]
  simp only [hword, h]

/-- What is no full spelling has something attached if it starts with a short flag. -/
theorem isAttached_of_not_spelled (hword : word.toList = '-' :: c :: rest)
    (hspelled : Flag.ofSpelling? word = none) :
    isAttached word = (Flag.ofSpelling? (.ofList ['-', c])).isSome := by
  cases rest with
  | nil =>
    have hshort : Flag.ofSpelling? (.ofList ['-', c]) = none := by
      rw [← hword, String.ofList_toList, hspelled]
    unfold isAttached
    rw [hword, hshort]
    rfl
  | cons d rest =>
    unfold isAttached
    rw [hword]
    rfl

/-- A word with flags has them in one of three ways. -/
theorem flagged_of_role? (h : role? rules word = some (.flags u)) : Flagged rules word u := by
  have hdashed (heq : Role.ofDashed word = .flags u) : Flagged rules word u := by
    unfold Role.ofDashed at heq
    split at heq <;> cases heq
  have hinline {f : Flag} {text : List Char}
      (htext : (Flag.inlineValue? word).map String.toList = some text)
      (heq : Role.ofInline rules text f = .flags u) : Flagged rules word u := by
    obtain ⟨value, hvalue, rfl⟩ := Option.map_eq_some_iff.1 htext
    cases f with
    | switch => cases heq
    | setting => cases heq; exact .inline hvalue rfl
  unfold role? at h
  split at h
  · next c rest hword =>
    split at h
    · cases h; exact .alone rfl
    next hspelled =>
    dsimp only at h
    split at h
    · split at h
      · next htext => exact hinline htext (Option.some.inj h)
      · split at h
        · exact hdashed (Option.some.inj h)
        · cases h; exact .alone rfl
        · next htext => exact hinline htext (Option.some.inj h)
        · cases h
    · split at h
      · next f hf =>
        refine .attached hword hf ?_ (Option.some.inj h)
        rw [isAttached_of_not_spelled hword hspelled, hf]
        rfl
      · exact hdashed (Option.some.inj h)
  · cases h

/-! ## Letters that are left over -/

theorem afterSign_suffix (text : List Char) : afterSign text <:+ text := by
  unfold afterSign
  split
  · exact List.suffix_cons '=' _
  · exact List.suffix_rfl

/-- What is attached to a switch are letters, the text or all of it but an equals sign in front. -/
theorem exists_cluster_of_ofAttached {s : Switch}
    (h : Role.ofAttached rules text (.switch s) = .flags u) :
    ∃ letters v, cluster? rules letters = some v ∧ letters <:+ text ∧
      (rules.leavesLetters = true → letters = text) ∧
      u = { v with switches := s :: v.switches } := by
  rw [Role.ofAttached] at h
  have hsuffix : (if rules.leavesLetters then text else afterSign text) <:+ text := by
    split
    · exact List.suffix_rfl
    · exact afterSign_suffix text
  have hsame (hrules : rules.leavesLetters = true) :
      (if rules.leavesLetters then text else afterSign text) = text := if_pos hrules
  generalize (if rules.leavesLetters then text else afterSign text) = letters at h hsuffix hsame
  split at h
  · next v hv =>
    split at hv
    · cases hv
    · exact ⟨letters, v, hv, hsuffix, hsame, (Role.flags.inj h).symm⟩
  · cases h

/-- Letters behind switches are left over from the first that is no flag on. -/
theorem exists_letters_of_cluster? (h : cluster? rules text = some u)
    (hu : u.tail = .letters left) :
    rules.leavesLetters = true ∧ ∃ switches c rest, text = switches ++ c :: rest ∧
      (∀ d ∈ switches, ∃ s, Flag.ofSpelling? (.ofList ['-', d]) = some (.switch s)) ∧
      Flag.ofSpelling? (.ofList ['-', c]) = none ∧ left = .ofList ('-' :: c :: rest) := by
  induction text generalizing u with
  | nil => cases h; cases hu
  | cons c rest ih =>
    rw [cluster?] at h
    split at h
    · next s hs =>
      obtain ⟨v, hv, rfl⟩ := Option.map_eq_some_iff.1 h
      obtain ⟨hrules, switches, d, behind, rfl, hswitches, hd, hleft⟩ := ih hv hu
      exact ⟨hrules, c :: switches, d, behind, rfl,
        List.forall_mem_cons.2 ⟨⟨s, hs⟩, hswitches⟩, hd, hleft⟩
    · cases h; cases hu
    · next hc =>
      split at h
      · next hrules =>
        cases h; cases hu
        exact ⟨hrules.1, [], c, rest, rfl, nofun, hc, rfl⟩
      · cases h

/-- What is left over of a word with flags are letters, and something is attached in it. -/
theorem lettersOf_of_role? (h : role? rules word = some (.flags u))
    (hu : u.tail.letters? = some left) : isAttached word = true ∧ LettersOf rules word left := by
  have htail : u.tail = .letters left := by
    cases hcases : u.tail <;> rw [hcases] at hu <;> cases hu
    rfl
  cases flagged_of_role? h with
  | @alone f hu => subst hu; cases f <;> cases htail
  | inline _ hu => subst hu; cases htail
  | @attached c rest f hword hf hattached h =>
    refine ⟨hattached, ?_⟩
    cases f with
    | setting => cases h; cases htail
    | switch s =>
      obtain ⟨letters, v, hcluster, -, hletters, rfl⟩ := exists_cluster_of_ofAttached h
      obtain ⟨hrules, switches, d, behind, hbehind, hswitches, hd, rfl⟩ :=
        exists_letters_of_cluster? hcluster htail
      have hword : word.toList = '-' :: (c :: switches) ++ d :: behind := by
        rw [hword, ← hletters hrules, hbehind]
        rfl
      exact .behind hrules hword (List.cons_ne_nil _ _)
        (List.forall_mem_cons.2 ⟨⟨s, hf⟩, hswitches⟩) hd

/-! ## The two readings -/

/-- A word that starts with two dashes is read the same way twice. -/
theorem takesNext?_of_long (hword : word.toList = '-' :: '-' :: rest)
    (hspelled : Flag.ofSpelling? word = none) (h : role? rules word = some role)
    (hused : role ≠ .misused) : Flag.takesNext? word = role.takesNext? := by
  have hlong : Flag.isLong word = true := by rw [Flag.isLong, hword]; rfl
  rw [takesNext?_of_isLong hspelled hlong]
  rw [role?] at h
  simp only [hword, hspelled, if_true] at h
  cases hinline : Flag.inlineValue? word with
  | none =>
    -- without an equals sign the stem is the word, which has no full spelling
    rw [stem_of_inlineValue? hinline, hspelled]
    rw [hinline, stem_of_inlineValue? hinline, hspelled] at h
    rcases hstart : Flag.startingWith word with _ | ⟨f, _ | ⟨g, more⟩⟩ <;> rw [hstart] at h
    · cases h
      exact (takesNext?_ofDashed word).symm
    · cases h
      simp [Role.takesNext?, takesNext_ofFlag]
    · cases h
  | some text =>
    rw [hinline] at h
    cases hstem : Flag.ofSpelling? (Flag.stem word) with
    | some f =>
      rw [hstem] at h
      cases h
      simp [takesNext?_ofInline _ hused]
    | none =>
      rw [hstem] at h
      rcases hstart : Flag.startingWith (Flag.stem word) with _ | ⟨f, _ | ⟨g, more⟩⟩ <;>
        rw [hstart] at h
      · cases h
        exact (takesNext?_ofDashed word).symm
      · cases h
        simp [takesNext?_ofInline _ hused]
      · cases h

/-- A word that starts with one dash has flags if something is attached to a short one. -/
theorem role?_of_short (hword : word.toList = '-' :: c :: rest) (hc : c ≠ '-')
    (hspelled : Flag.ofSpelling? word = none) (h : role? rules word = some role)
    (hused : role ≠ .misused) :
    (isAttached word = false → role.takesNext? = none) ∧
      (isAttached word = true → ∃ u, role = .flags u) := by
  rw [isAttached_of_not_spelled hword hspelled]
  rw [role?] at h
  simp only [hword, hspelled, if_neg hc] at h
  cases hshort : Flag.ofSpelling? (.ofList ['-', c]) with
  | none =>
    rw [hshort] at h
    cases h
    exact ⟨fun _ => takesNext?_ofDashed word, nofun⟩
  | some f =>
    rw [hshort] at h
    cases h
    exact ⟨nofun, fun _ => exists_flags_of_ofAttached _ hused⟩

/-- A word that is no dash with something after it is plain, and has nothing attached. -/
theorem role?_of_undashed (hword : ∀ c rest, word.toList ≠ '-' :: c :: rest) :
    role? rules word = some .plain ∧ isAttached word = false ∧ Flag.isLong word = false := by
  refine ⟨?_, ?_, ?_⟩
  · unfold role?
    split
    · next c rest heq => exact absurd heq (hword c rest)
    · rfl
  · unfold isAttached
    split
    · next c d rest heq => exact absurd heq (hword c (d :: rest))
    · rfl
  · rw [Flag.isLong, Bool.eq_false_iff]
    intro hlong
    obtain ⟨rest, heq⟩ := List.isPrefixOf_iff_prefix.1 hlong
    exact hword '-' rest heq.symm

/-- **The two readings of a word.** Both find the same flags in a word, with the same need of a
value after it, unless something is attached to a short flag; then the word has flags, but none that
is kept out of the expression. -/
theorem takesNext?_of_role? (h : role? rules word = some role) (hused : role ≠ .misused) :
    (isAttached word = false → Flag.takesNext? word = role.takesNext?) ∧
      (isAttached word = true → Flag.takesNext? word = none ∧ ∃ u, role = .flags u) := by
  cases hspelled : Flag.ofSpelling? word with
  | some f =>
    rw [role?_of_ofSpelling? hspelled] at h
    cases h
    rw [takesNext?_of_ofSpelling? hspelled, isAttached_of_ofSpelling? hspelled, Role.takesNext?,
      takesNext_ofFlag]
    exact ⟨fun _ => rfl, nofun⟩
  | none =>
    by_cases hdash : ∃ c rest, word.toList = '-' :: c :: rest
    · obtain ⟨c, rest, hword⟩ := hdash
      by_cases hc : c = '-'
      · subst hc
        rw [isAttached_of_not_spelled hword hspelled]
        exact ⟨fun _ => takesNext?_of_long hword hspelled h hused, nofun⟩
      · have hlong : Flag.isLong word = false := by
          rw [Flag.isLong, hword]
          simp [List.isPrefixOf, Ne.symm hc]
        have hshort := role?_of_short hword hc hspelled h hused
        rw [takesNext?_of_not_isLong hspelled hlong]
        exact ⟨fun hnot => (hshort.1 hnot).symm, fun hattached => ⟨rfl, hshort.2 hattached⟩⟩
    · obtain ⟨hplain, hattached, hlong⟩ :=
        role?_of_undashed fun c rest hword => hdash ⟨c, rest, hword⟩
      rw [hplain] at h
      cases h
      rw [takesNext?_of_not_isLong hspelled hlong, hattached]
      exact ⟨fun _ => rfl, nofun⟩

/-- A word without flags is kept out of no expression. -/
theorem plain_or_unknown (h : role? rules word = some role)
    (hrole : role = .plain ∨ role = .unknown) :
    Flag.takesNext? word = none ∧ isAttached word = false := by
  have hused : role ≠ .misused := by rcases hrole with rfl | rfl <;> nofun
  have hreadings := takesNext?_of_role? h hused
  have hattached : isAttached word = false := by
    cases hattached : isAttached word with
    | false => rfl
    | true =>
      obtain ⟨u, rfl⟩ := (hreadings.2 hattached).2
      rcases hrole with h | h <;> cases h
  refine ⟨?_, hattached⟩
  rw [hreadings.1 hattached]
  rcases hrole with rfl | rfl <;> rfl

end

end DeskCalc.CommandLine
