import DeskCalc.Text.Class

/-!
# Lines

Trimming, and the way from the text of a file to its lines: line ends are unified first
(`unifyLineEnds`), then the text is cut at every line boundary (`lines`). A boundary ends a line, so
a text that ends with one has no empty line after it.
-/

namespace DeskCalc.Text

/-- The text without the blanks at both ends. -/
def trim (s : List Char) : List Char :=
  ((s.dropWhile isBlank).reverse.dropWhile isBlank).reverse

/-- Line feed, vertical tab, form feed, carriage return, the three separator controls, next line,
and the line and paragraph separators. -/
def isLineBoundary (c : Char) : Bool :=
  c ∈ ['\n', '\x0b', '\x0c', '\r', '\x1c', '\x1d', '\x1e', '\u0085', '\u2028', '\u2029']

/-- Writes every line end as one line feed: a carriage return with the line feed after it, and a
carriage return alone. -/
def unifyLineEnds : List Char → List Char
  | [] => []
  | '\r' :: '\n' :: rest => '\n' :: unifyLineEnds rest
  | c :: rest => (if c = '\r' then '\n' else c) :: unifyLineEnds rest

/-- The lines of a text whose line ends are unified, without their boundaries. -/
def lines : List Char → List (List Char)
  | [] => []
  | c :: rest =>
    if isLineBoundary c then
      [] :: lines rest
    else
      match lines rest with
      | [] => [[c]]
      | line :: more => (c :: line) :: more

/-- No line holds a line boundary. -/
theorem isLineBoundary_eq_false_of_mem_lines {s : List Char} :
    ∀ line ∈ lines s, ∀ c ∈ line, isLineBoundary c = false := by
  fun_induction lines s with
  | case1 => simp
  | case2 c rest h ih => simpa using ih
  | case3 c rest h hl ih => simpa [hl] using h
  | case4 c rest h line more hl ih =>
    rw [hl] at ih
    simp only [List.mem_cons, forall_eq_or_imp] at ih ⊢
    exact ⟨⟨by simpa using h, ih.1⟩, ih.2⟩

/-- Every line boundary is a blank, so a trimmed line has none at its ends. -/
theorem isBlank_of_isLineBoundary {c : Char} (h : isLineBoundary c = true) : isBlank c = true := by
  simp only [isLineBoundary, List.mem_cons, List.not_mem_nil, or_false, decide_eq_true_eq] at h
  obtain rfl | rfl | rfl | rfl | rfl | rfl | rfl | rfl | rfl | rfl := h <;> rfl

end DeskCalc.Text
