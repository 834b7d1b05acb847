import DeskCalc.Proofs.Token.Blanks
import DeskCalc.Text.Line

/-!
# Trimmed texts and lines

A trimmed text neither starts nor ends with a blank, and trimming leaves such a text alone, so it
can be done over and over (`trim_trim`). Lines that are written one after the other, each with a
line feed, are read back (`lines_flatMap`), if none of them holds a boundary of lines itself; and no
text has a line that does. What is true of such lines, and of a text with one more of them in front,
is true of every text (`line_induction`).
-/

namespace DeskCalc.Text

open DeskCalc.Token

section
variable {s line rest : List Char} {c : Char}

/-! ## Trimming -/

theorem dropWhile_of_stops {p : Char → Bool} (h : Stops p s) : s.dropWhile p = s :=
  dropWhile_append_of_stops h []

/-- A trimmed text ends with no blank. -/
theorem stops_reverse_trim (s : List Char) : Stops isBlank (trim s).reverse := by
  rw [trim, List.reverse_reverse]
  exact stops_dropWhile _ _

/-- A trimmed text starts with no blank. -/
theorem stops_trim (s : List Char) : Stops isBlank (trim s) := by
  have hcut := List.takeWhile_append_dropWhile (p := isBlank) (l := (s.dropWhile isBlank).reverse)
  -- what is left of the text without its blanks in front starts as that does
  have hfront : trim s ++ ((s.dropWhile isBlank).reverse.takeWhile isBlank).reverse =
      s.dropWhile isBlank := by
    rw [trim, ← List.reverse_append, hcut, List.reverse_reverse]
  intro c hc
  refine stops_dropWhile isBlank s c ?_
  rw [← hfront, List.head?_append, Option.mem_def.1 hc]
  rfl

/-- A text without blanks at its ends is trimmed. -/
theorem trim_of_stops (hfront : Stops isBlank s) (hback : Stops isBlank s.reverse) :
    trim s = s := by
  rw [trim, dropWhile_of_stops hfront, dropWhile_of_stops hback, List.reverse_reverse]

/-- Trimming twice is trimming once. -/
theorem trim_trim (s : List Char) : trim (trim s) = trim s :=
  trim_of_stops (stops_trim s) (stops_reverse_trim s)

theorem mem_of_mem_trim (h : c ∈ trim s) : c ∈ s := by
  obtain ⟨before, after, hs, -, -⟩ := exists_eq_append_trim s
  rw [hs]
  exact List.mem_append_left _ (List.mem_append_right _ h)

/-- Nothing is left of a text of blanks, and of no other. -/
theorem trim_eq_nil_iff : trim s = [] ↔ s.all isBlank = true := by
  constructor
  · intro hnil
    obtain ⟨before, after, hs, hbefore, hafter⟩ := exists_eq_append_trim s
    rw [hs, hnil, List.append_nil, List.all_append, hbefore, hafter]
    rfl
  · intro hall
    have hdrop : s.dropWhile isBlank = [] := by
      simpa using dropWhile_run hall (stops_nil isBlank)
    rw [trim, hdrop]
    rfl

/-- A blank in front is trimmed. -/
theorem trim_cons_of_isBlank (h : isBlank c = true) (s : List Char) : trim (c :: s) = trim s := by
  rw [trim, List.dropWhile_cons_of_pos h, trim]

/-- A blank at the end is trimmed. -/
theorem trim_concat_of_isBlank (h : isBlank c = true) (s : List Char) :
    trim (s ++ [c]) = trim s := by
  rw [trim, trim, List.dropWhile_append]
  split
  · next hnone =>
    rw [List.isEmpty_iff.1 hnone, List.dropWhile_cons_of_pos h]
    rfl
  · rw [List.reverse_append, List.reverse_singleton, List.singleton_append,
      List.dropWhile_cons_of_pos h]

/-! ## Lines -/

/-- Every text is a line without a boundary, or such a line, a boundary and a text. -/
theorem line_or_boundary (s : List Char) :
    (∀ c ∈ s, isLineBoundary c = false) ∨
      ∃ line c rest, s = line ++ c :: rest ∧ (∀ d ∈ line, isLineBoundary d = false) ∧
        isLineBoundary c = true := by
  have hcut := List.takeWhile_append_dropWhile (p := (!isLineBoundary ·)) (l := s)
  have hline : ∀ d ∈ s.takeWhile (!isLineBoundary ·), isLineBoundary d = false := by
    have hall : (s.takeWhile (!isLineBoundary ·)).all (!isLineBoundary ·) = true :=
      List.all_takeWhile
    exact fun d hd => by simpa using List.all_eq_true.1 hall d hd
  cases hback : s.dropWhile (!isLineBoundary ·) with
  | nil =>
    rw [hback, List.append_nil] at hcut
    exact .inl (hcut ▸ hline)
  | cons c rest =>
    rw [hback] at hcut
    have hc := List.head?_dropWhile_not (!isLineBoundary ·) s
    rw [hback] at hc
    exact .inr ⟨_, c, rest, hcut.symm, hline, by simpa using hc⟩

/-- So what is true of such lines, and of a text with one more of them in front, is true of every
text. -/
@[elab_as_elim]
theorem line_induction {motive : List Char → Prop}
    (line : ∀ line, (∀ c ∈ line, isLineBoundary c = false) → motive line)
    (boundary : ∀ line c rest, (∀ d ∈ line, isLineBoundary d = false) →
      isLineBoundary c = true → motive rest → motive (line ++ c :: rest))
    (s : List Char) : motive s := by
  induction hlength : s.length using Nat.strongRecOn generalizing s with
  | ind n ih =>
    obtain hline | ⟨l, c, rest, rfl, hl, hc⟩ := line_or_boundary s
    · exact line s hline
    · rw [List.length_append, List.length_cons] at hlength
      exact boundary l c rest hl hc (ih rest.length (by omega) rest rfl)

/-- A text without a boundary is one line, unless it is empty. -/
theorem lines_of_notMem (h : ∀ c ∈ line, isLineBoundary c = false) (hne : line ≠ []) :
    lines line = [line] := by
  induction line with
  | nil => exact absurd rfl hne
  | cons c line ih =>
    obtain ⟨hc, hline⟩ := List.forall_mem_cons.1 h
    cases line with
    | nil => rw [lines, hc]; rfl
    | cons d line => rw [lines, hc, ih hline (List.cons_ne_nil d line)]; rfl

/-- A text without carriage returns has its line ends unified already. -/
theorem unifyLineEnds_of_notMem (h : '\r' ∉ s) : unifyLineEnds s = s := by
  fun_induction unifyLineEnds s with
  | case1 => rfl
  | case2 => simp at h
  | case3 c rest _ ih =>
    rw [List.mem_cons, not_or] at h
    rw [if_neg (Ne.symm h.1), ih h.2]

/-- A line that holds no boundary is read back in front of one. -/
theorem lines_append (h : ∀ d ∈ line, isLineBoundary d = false) (hc : isLineBoundary c = true)
    (rest : List Char) : lines (line ++ c :: rest) = line :: lines rest := by
  induction line with
  | nil => rw [List.nil_append, lines, if_pos hc]
  | cons d line ih =>
    obtain ⟨hd, hline⟩ := List.forall_mem_cons.1 h
    rw [List.cons_append, lines, ih hline, hd]
    rfl

/-- Lines that hold no boundary are read back when each is written with a line feed. -/
theorem lines_flatMap {ls : List (List Char)}
    (h : ∀ line ∈ ls, ∀ c ∈ line, isLineBoundary c = false) :
    lines (ls.flatMap (· ++ ['\n'])) = ls := by
  induction ls with
  | nil => rfl
  | cons line ls ih =>
    obtain ⟨hline, hrest⟩ := List.forall_mem_cons.1 h
    rw [List.flatMap_cons, List.append_assoc, List.singleton_append, lines_append hline rfl,
      ih hrest]

/-- They are no other when the line ends of the text are unified first. -/
theorem unifyLineEnds_flatMap {ls : List (List Char)}
    (h : ∀ line ∈ ls, ∀ c ∈ line, isLineBoundary c = false) :
    unifyLineEnds (ls.flatMap (· ++ ['\n'])) = ls.flatMap (· ++ ['\n']) := by
  refine unifyLineEnds_of_notMem fun hmem => ?_
  obtain ⟨line, hline, hmem⟩ := List.mem_flatMap.1 hmem
  rcases List.mem_append.1 hmem with hmem | hmem
  · exact absurd (h line hline _ hmem) (by decide)
  · exact absurd (List.mem_singleton.1 hmem) (by decide)

end

end DeskCalc.Text
