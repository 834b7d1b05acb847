import DeskCalc.Proofs.Token.Lexeme

/-!
# Runs and the places between them

A name is a run of letters and a numeral a run of digits and points, so a text can be cut without
harm wherever no such run is cut (`Uncut`). To see whether a run goes across a place it is enough to
look at the two characters beside the place (`insideRun_iff`).

A token that is read from a text is read from the same text with more after it, if the place between
them cuts no run (`first?_append`).
-/

namespace DeskCalc.Token

open DeskCalc.Text DeskCalc.Decimal

/-- All characters of a class that stand together: neither the character before them nor the one
after them is of the class. -/
structure MaximalRun (p : Char → Bool) (before run after : List Char) : Prop where
  ne_nil : run ≠ []
  all : run.all p = true
  starts : Stops p before.reverse
  stops : Stops p after

/-- The place between two texts lies strictly inside a maximal run of the whole text. -/
def InsideRun (p : Char → Bool) (before after : List Char) : Prop :=
  ∃ outer left right rest, before = outer ++ left ∧ after = right ++ rest ∧
    left ≠ [] ∧ right ≠ [] ∧ MaximalRun p outer (left ++ right) rest

/-- The place between two texts cuts no name and no numeral. -/
structure Uncut (before after : List Char) : Prop where
  letters : ¬ InsideRun isLetter before after
  numerals : ¬ InsideRun isNumeral before after

section
variable {p : Char → Bool} {folds : Bool} {s tail rest gap front before after lexeme : List Char}
  {t : Token} {c : Char}

/-! ## The characters beside a place -/

theorem not_stops_iff : ¬ Stops p s ↔ ∃ c ∈ s.head?, p c = true := by
  simp [Stops]

/-- A place lies inside a run when both characters beside it are of the class. -/
theorem insideRun_iff :
    InsideRun p before after ↔
      (∃ c ∈ before.getLast?, p c = true) ∧ ∃ c ∈ after.head?, p c = true := by
  constructor
  · rintro ⟨outer, left, right, rest, rfl, rfl, hleft, hright, hrun⟩
    obtain ⟨hl, hr⟩ := Bool.and_eq_true_iff.1 (List.all_append.symm.trans hrun.all)
    obtain ⟨c, right, rfl⟩ := List.exists_cons_of_ne_nil hright
    refine ⟨⟨left.getLast hleft, ?_, ?_⟩, c, rfl, ?_⟩
    · rw [List.getLast?_append, List.getLast?_eq_some_getLast hleft]
      rfl
    · exact List.all_eq_true.1 hl _ (List.getLast_mem hleft)
    · exact List.all_eq_true.1 hr _ List.mem_cons_self
  · rintro ⟨⟨c, hc, hpc⟩, d, hd, hpd⟩
    -- the run goes back as far as the characters are of the class, and on as far
    have hbefore : before = (before.reverse.dropWhile p).reverse ++
        (before.reverse.takeWhile p).reverse := by
      rw [← List.reverse_append, List.takeWhile_append_dropWhile, List.reverse_reverse]
    have hafter : after = after.takeWhile p ++ after.dropWhile p :=
      List.takeWhile_append_dropWhile.symm
    obtain ⟨tail, hlast⟩ : ∃ tail, before.reverse = c :: tail := by
      rw [← List.head?_eq_some_iff, List.head?_reverse, Option.mem_def.1 hc]
    obtain ⟨rest, hfirst⟩ := List.head?_eq_some_iff.1 (Option.mem_def.1 hd)
    refine ⟨_, _, _, _, hbefore, hafter, ?_, ?_, ?_, ?_, ?_, stops_dropWhile p after⟩
    · simp [hlast, hpc]
    · simp [hfirst, hpd]
    · simp [hlast, hpc]
    · simp only [List.all_append, List.all_reverse, List.all_takeWhile, Bool.and_self]
    · rw [List.reverse_reverse]
      exact stops_dropWhile p before.reverse

theorem not_insideRun_iff :
    ¬ InsideRun p before after ↔ ∀ c ∈ before.getLast?, p c = true → Stops p after := by
  rw [insideRun_iff, ← not_stops_iff]
  simp

/-- What is before a place matters only by its end. -/
theorem not_insideRun_of_append (h : ¬ InsideRun p (front ++ s) tail) : ¬ InsideRun p s tail := by
  rw [not_insideRun_iff] at h ⊢
  intro c hc
  refine h c ?_
  rw [List.getLast?_append, Option.mem_def.1 hc]
  rfl

theorem Uncut.of_append (h : Uncut (front ++ s) tail) : Uncut s tail :=
  ⟨not_insideRun_of_append h.letters, not_insideRun_of_append h.numerals⟩

theorem Uncut.dropWhile (h : Uncut s tail) (p : Char → Bool) : Uncut (s.dropWhile p) tail := by
  rw [← List.takeWhile_append_dropWhile (p := p) (l := s)] at h
  exact h.of_append

/-- Neither does it matter what is in front of a text that is not empty. -/
theorem not_insideRun_prepend (h : ¬ InsideRun p s tail) (hne : s ≠ []) (front : List Char) :
    ¬ InsideRun p (front ++ s) tail := by
  rw [not_insideRun_iff] at h ⊢
  intro c hc
  rw [List.getLast?_append, List.getLast?_eq_some_getLast hne] at hc
  exact h c ((List.getLast?_eq_some_getLast hne).trans hc)

theorem Uncut.prepend (h : Uncut s tail) (hne : s ≠ []) (front : List Char) :
    Uncut (front ++ s) tail :=
  ⟨not_insideRun_prepend h.letters hne front, not_insideRun_prepend h.numerals hne front⟩

/-- What neither a name nor a numeral starts with cuts none. -/
theorem uncut_of_stops (hletters : Stops isLetter tail) (hnumerals : Stops isNumeral tail)
    (s : List Char) : Uncut s tail :=
  ⟨not_insideRun_iff.2 fun _ _ _ => hletters, not_insideRun_iff.2 fun _ _ _ => hnumerals⟩

/-- At the ends of a text nothing is cut. -/
theorem uncut_nil (s : List Char) : Uncut s [] :=
  uncut_of_stops (stops_nil _) (stops_nil _) s

theorem nil_uncut (s : List Char) : Uncut [] s :=
  ⟨not_insideRun_iff.2 nofun, not_insideRun_iff.2 nofun⟩

theorem Stops.append (h : Stops p s) (hne : s ≠ []) (tail : List Char) : Stops p (s ++ tail) := by
  obtain ⟨c, s, rfl⟩ := List.exists_cons_of_ne_nil hne
  exact h

theorem Stops.of_append (h : Stops p (s ++ tail)) : Stops p s := by
  cases s with
  | nil => exact stops_nil p
  | cons c s => exact h

/-- Blanks put at a place cut no more than is cut there. -/
theorem Uncut.blanks (h : Uncut s tail) (hgap : gap.all isBlank = true) :
    Uncut s (gap ++ tail) := by
  by_cases hne : gap = []
  · rwa [hne]
  have hletters := stops_blanks (fun _ => isBlank_eq_false_of_isLetter) hgap
  have hnumerals := stops_blanks (fun _ => isBlank_eq_false_of_isNumeral) hgap
  exact uncut_of_stops (hletters.append hne tail) (hnumerals.append hne tail) s

/-- Behind blanks as well as in front of them. -/
theorem Uncut.skip (h : Uncut s (gap ++ tail)) (hgap : gap.all isBlank = true) :
    Uncut (s ++ gap) tail := by
  by_cases hne : gap = []
  · rw [hne, List.append_nil]
    rwa [hne] at h
  have hblank : ∀ c ∈ gap.getLast?, isBlank c = true := fun c hc =>
    List.all_eq_true.1 hgap c (List.mem_of_getLast? hc)
  refine Uncut.prepend ⟨?_, ?_⟩ hne s
  · rw [not_insideRun_iff]
    intro c hc hletter
    exact absurd (hblank c hc) (by simp [isBlank_eq_false_of_isLetter hletter])
  · rw [not_insideRun_iff]
    intro c hc hnumeral
    exact absurd (hblank c hc) (by simp [isBlank_eq_false_of_isNumeral hnumeral])

/-- A run that is not cut ends where it ends alone. -/
theorem stops_dropWhile_append (hne : s ≠ []) (h : ¬ InsideRun p s tail) :
    Stops p (s.dropWhile p ++ tail) := by
  by_cases hdrop : s.dropWhile p = []
  · rw [hdrop]
    -- all of the text is one run
    have htake : s.takeWhile p = s := by
      simpa [hdrop] using List.takeWhile_append_dropWhile (p := p) (l := s)
    have hall : s.all p = true := htake ▸ List.all_takeWhile
    exact not_insideRun_iff.1 h _ (List.getLast?_eq_some_getLast hne)
      (List.all_eq_true.1 hall _ (List.getLast_mem hne))
  · exact (stops_dropWhile p s).append hdrop tail

theorem append_eq_takeWhile_append (p : Char → Bool) (s tail : List Char) :
    s ++ tail = s.takeWhile p ++ (s.dropWhile p ++ tail) := by
  rw [← List.append_assoc, List.takeWhile_append_dropWhile]

theorem takeWhile_append_of_uncut (hne : s ≠ []) (h : ¬ InsideRun p s tail) :
    (s ++ tail).takeWhile p = s.takeWhile p := by
  rw [append_eq_takeWhile_append p s tail]
  exact takeWhile_run List.all_takeWhile (stops_dropWhile_append hne h)

theorem dropWhile_append_of_uncut (hne : s ≠ []) (h : ¬ InsideRun p s tail) :
    (s ++ tail).dropWhile p = s.dropWhile p ++ tail := by
  rw [append_eq_takeWhile_append p s tail]
  exact dropWhile_run List.all_takeWhile (stops_dropWhile_append hne h)

/-- The same behind the first character of a run. -/
theorem takeWhile_append_of_cons (hc : p c = true) (h : ¬ InsideRun p (c :: s) tail) :
    (s ++ tail).takeWhile p = s.takeWhile p := by
  simpa [hc] using takeWhile_append_of_uncut (List.cons_ne_nil c s) h

theorem dropWhile_append_of_cons (hc : p c = true) (h : ¬ InsideRun p (c :: s) tail) :
    (s ++ tail).dropWhile p = s.dropWhile p ++ tail := by
  simpa [hc] using dropWhile_append_of_uncut (List.cons_ne_nil c s) h

/-! ## The place after a token -/

/-- A letter starts no numeral. -/
theorem isNumeral_eq_false_of_isLetter (h : isLetter c = true) : isNumeral c = false := by
  cases hc : isNumeral c with
  | false => rfl
  | true => rw [isLetter_eq_false_of_isNumeral hc] at h; cases h

/-- Only a number ends with a digit or a point, and only a function with a letter. -/
theorem getLast?_lexeme (h : Lexeme folds t lexeme) (hc : c ∈ lexeme.getLast?) :
    (isNumeral c = true ↔ ∃ value text, t = .number value text) ∧
      (isLetter c = true ↔ ∃ f, t = .func f) := by
  cases h with
  | numeral hrun =>
    have hnumeral := List.all_eq_true.1 hrun c (List.mem_of_getLast? hc)
    simp [hnumeral, isLetter_eq_false_of_isNumeral hnumeral]
  | @negative gap run value _ _ hrun hvalue =>
    have hlast := List.getLast?_eq_some_getLast (ne_nil_of_negative hvalue)
    rw [List.getLast?_append, hlast] at hc
    have hnumeral := List.all_eq_true.1 hrun c (List.mem_of_getLast? (hlast.trans hc))
    simp [hnumeral, isLetter_eq_false_of_isNumeral hnumeral]
  | operator op =>
    obtain rfl : op.symbol = c := Option.some_inj.1 hc
    have hclass : isNumeral op.symbol = false ∧ isLetter op.symbol = false := by
      cases op <;> decide
    simp [hclass]
  | func f =>
    have hletter := List.all_eq_true.1 (all_isLetter_name f) c (List.mem_of_getLast? hc)
    simp [hletter, isNumeral_eq_false_of_isLetter hletter]
  | paren opening =>
    obtain rfl : (if opening then '(' else ')') = c := Option.some_inj.1 hc
    have hclass : isNumeral (if opening then '(' else ')') = false ∧
        isLetter (if opening then '(' else ')') = false := by
      cases opening <;> decide
    simp [hclass]

/-- Where no run is cut after a token, the text after it does not continue the token. -/
theorem Separate.of_uncut (hsep : Separate folds t s) (h : Lexeme folds t lexeme)
    (hcut : Uncut lexeme tail) : Separate folds t tail := by
  have hlast := List.getLast?_eq_some_getLast h.ne_nil
  obtain ⟨hnumeral, hletter⟩ := getLast?_lexeme h hlast
  cases t with
  | number => exact not_insideRun_iff.1 hcut.numerals _ hlast (hnumeral.2 ⟨_, _, rfl⟩)
  | func => exact not_insideRun_iff.1 hcut.letters _ hlast (hletter.2 ⟨_, rfl⟩)
  | operator | paren | unlisted => exact hsep

/-- A text that does not continue a token cuts no run after it. -/
theorem Separate.uncut (hsep : Separate folds t tail) (h : Lexeme folds t lexeme) :
    Uncut lexeme tail := by
  constructor
  · rw [not_insideRun_iff]
    intro c hlast hletter
    obtain ⟨f, rfl⟩ := (getLast?_lexeme h hlast).2.1 hletter
    exact hsep
  · rw [not_insideRun_iff]
    intro c hlast hnumeral
    obtain ⟨value, text, rfl⟩ := (getLast?_lexeme h hlast).1.1 hnumeral
    exact hsep

/-- A text in two parts continues a token as its first part does, if that is not empty. -/
theorem Separate.append (hsep : Separate folds t s) (hne : s ≠ []) (tail : List Char) :
    Separate folds t (s ++ tail) := by
  cases t with
  | number | func => exact Stops.append hsep hne tail
  | operator | paren | unlisted => exact hsep

theorem Separate.of_append (hsep : Separate folds t (s ++ tail)) : Separate folds t s := by
  cases t with
  | number | func => exact Stops.of_append hsep
  | operator | paren | unlisted => exact hsep

/-- **A token is read from a text as from a longer one**, if the place where the text ends cuts no
run. -/
theorem first?_append (h : first? folds s = some (.ok t, rest)) (hcut : Uncut s tail) :
    first? folds (s ++ tail) = some (.ok t, rest ++ tail) ∧ Uncut rest tail := by
  obtain ⟨gap, lexeme, rfl, hgap, hlexeme, hsep⟩ := first?_eq_ok_iff.1 h
  have hrest : Uncut (lexeme ++ rest) tail := hcut.of_append
  refine ⟨first?_eq_ok_iff.2 ⟨gap, lexeme, ?_, hgap, hlexeme, ?_⟩, hrest.of_append⟩
  · rw [List.append_assoc, List.append_assoc]
  · by_cases hne : rest = []
    · rw [hne, List.append_nil] at hrest
      rw [hne]
      exact hsep.of_uncut hlexeme hrest
    · exact hsep.append hne tail

end

end DeskCalc.Token
