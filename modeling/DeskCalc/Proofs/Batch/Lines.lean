import DeskCalc.Batch
import DeskCalc.Proofs.Text.Line

/-!
# The lines of a batch

A batch takes its expressions from the lines of a file. Which of the line ends stands between two
lines does not matter, nor do blank lines and the blanks around a line: two texts that differ in
these only have the same expressions (`expressions_eq_of_respaced`), and the expressions of a text
are its lines, trimmed, without loss of anything but blanks (`keeps_expressions`).

Line ends are unified before the lines are cut, and a carriage return at the end of one text becomes
one line end with a line feed at the start of the next. What is lost in this way is an empty line,
and the expressions are the same when line ends are left as they are (`expressions_eq`). So a text
may be cut at any line end (`expressions_append`).
-/

namespace DeskCalc.Batch

open DeskCalc.Text DeskCalc.Token

/-- The ends of a line: a carriage return with a line feed after it, and every boundary of lines,
line feed and carriage return among them. -/
inductive IsLineEnd : List Char → Prop
  | pair : IsLineEnd ['\r', '\n']
  | boundary {c : Char} (h : isLineBoundary c = true) : IsLineEnd [c]

/-- Two texts differ in line ends, in blank lines and in blanks around lines only. All of this may
be done to a text step by step, and undone. -/
inductive Respaced : List Char → List Char → Prop
  | refl (s : List Char) : Respaced s s
  | symm {s u : List Char} (h : Respaced s u) : Respaced u s
  | trans {s u v : List Char} (h : Respaced s u) (h' : Respaced u v) : Respaced s v
  /-- One line end for another, between texts that may differ themselves. -/
  | lineEnd {lineEnd lineEnd' before before' after after' : List Char} (h : IsLineEnd lineEnd)
    (h' : IsLineEnd lineEnd') (hbefore : Respaced before before')
    (hafter : Respaced after after') :
    Respaced (before ++ lineEnd ++ after) (before' ++ lineEnd' ++ after')
  /-- Blanks around, which may hold line ends themselves. -/
  | blanks {gap gap' : List Char} (h : gap.all isBlank = true) (h' : gap'.all isBlank = true)
    (s : List Char) : Respaced s (gap ++ s ++ gap')

/-- The text with one line end in the place of all its line feeds and carriage returns. -/
def withLineEnds (lineEnd s : List Char) : List Char :=
  (unifyLineEnds s).flatMap fun c => if c = '\n' then lineEnd else [c]

/-- What the expressions of a text keep of it. -/
structure Keeps (text : String) (expressions : List String) : Prop where
  ne_empty : ∀ e ∈ expressions, e ≠ ""
  /-- No expression starts with a blank. -/
  front : ∀ e ∈ expressions, Stops isBlank e.toList
  /-- No expression ends with a blank. -/
  back : ∀ e ∈ expressions, Stops isBlank e.toList.reverse
  isLineBoundary_eq_false : ∀ e ∈ expressions, ∀ c ∈ e.toList, isLineBoundary c = false
  /-- Nothing but blanks is lost. -/
  visible_eq : visible (expressions.flatMap String.toList) = visible text.toList

/-- The expressions of the bytes of a file. -/
def readExpressions (bytes : ByteArray) : Except Fault (List String) := do
  let text ← (Utf8.decode bytes).mapError .encoding
  return (expressions text.toList).map .ofList

/-- The expressions of a text whose line ends are left as they are. -/
def lineExpressions (text : List Char) : List (List Char) :=
  ((lines text).map trim).filter (!·.isEmpty)

section
variable {s u line gap before after lineEnd : List Char} {c : Char}

/-! ## Line by line -/

/-- A line without a boundary is one expression, unless it is blank. -/
theorem lineExpressions_of_line (h : ∀ c ∈ line, isLineBoundary c = false) :
    lineExpressions line = [trim line].filter (!·.isEmpty) := by
  cases line with
  | nil => rfl
  | cons c rest => rw [lineExpressions, lines_of_notMem h (List.cons_ne_nil c rest)]; rfl

theorem lineExpressions_of_append (h : ∀ d ∈ line, isLineBoundary d = false)
    (hc : isLineBoundary c = true) (rest : List Char) :
    lineExpressions (line ++ c :: rest) = lineExpressions line ++ lineExpressions rest := by
  rw [lineExpressions_of_line h, lineExpressions, lines_append h hc, lineExpressions,
    ← List.filter_append]
  rfl

/-- At a boundary a text may be cut. -/
theorem lineExpressions_append (before : List Char) (hc : isLineBoundary c = true)
    (after : List Char) :
    lineExpressions (before ++ c :: after) = lineExpressions before ++ lineExpressions after := by
  induction before using line_induction with
  | line line hline => exact lineExpressions_of_append hline hc after
  | boundary line d rest hline hd ih =>
    rw [List.append_assoc, List.cons_append, lineExpressions_of_append hline hd, ih,
      lineExpressions_of_append hline hd, List.append_assoc]

/-- A blank in front makes no difference. -/
theorem lineExpressions_cons (hc : isBlank c = true) (s : List Char) :
    lineExpressions (c :: s) = lineExpressions s := by
  cases hboundary : isLineBoundary c with
  | true => exact lineExpressions_append [] hboundary s
  | false =>
    have hlonger {l : List Char} (hl : ∀ d ∈ l, isLineBoundary d = false) :
        lineExpressions (c :: l) = lineExpressions l := by
      have hcons : ∀ d ∈ c :: l, isLineBoundary d = false :=
        List.forall_mem_cons.2 ⟨hboundary, hl⟩
      rw [lineExpressions_of_line hcons, lineExpressions_of_line hl, trim_cons_of_isBlank hc]
    obtain hline | ⟨line, d, rest, rfl, hline, hd⟩ := line_or_boundary s
    · exact hlonger hline
    · rw [← List.cons_append, lineExpressions_append _ hd, lineExpressions_append _ hd,
        hlonger hline]

/-- Nor does a blank at the end. -/
theorem lineExpressions_concat (hc : isBlank c = true) (s : List Char) :
    lineExpressions (s ++ [c]) = lineExpressions s := by
  cases hboundary : isLineBoundary c with
  | true => rw [lineExpressions_append s hboundary []]; exact List.append_nil _
  | false =>
    induction s using line_induction with
    | line line hline =>
      have hconcat : ∀ d ∈ line ++ [c], isLineBoundary d = false :=
        List.forall_mem_append.2 ⟨hline, List.forall_mem_singleton.2 hboundary⟩
      rw [lineExpressions_of_line hconcat, lineExpressions_of_line hline,
        trim_concat_of_isBlank hc]
    | boundary line d rest hline hd ih =>
      rw [List.append_assoc, List.cons_append, lineExpressions_append _ hd, ih,
        lineExpressions_append _ hd]

theorem lineExpressions_blanks (hgap : gap.all isBlank = true) (s : List Char) :
    lineExpressions (gap ++ s) = lineExpressions s := by
  induction gap with
  | nil => rfl
  | cons c gap ih =>
    rw [List.all_cons, Bool.and_eq_true] at hgap
    rw [List.cons_append, lineExpressions_cons hgap.1, ih hgap.2]

theorem lineExpressions_append_blanks (hgap : gap.all isBlank = true) (s : List Char) :
    lineExpressions (s ++ gap) = lineExpressions s := by
  induction gap generalizing s with
  | nil => rw [List.append_nil]
  | cons c gap ih =>
    rw [List.all_cons, Bool.and_eq_true] at hgap
    rw [List.append_cons, ih hgap.2, lineExpressions_concat hgap.1]

/-! ## Line ends -/

/-- Behind any text the line ends may be unified or left as they are. -/
theorem lineExpressions_unifyLineEnds (before s : List Char) :
    lineExpressions (before ++ unifyLineEnds s) = lineExpressions (before ++ s) := by
  fun_induction unifyLineEnds s generalizing before with
  | case1 => rfl
  | case2 rest ih =>
    -- the line feed of the pair starts an empty line
    rw [lineExpressions_append before rfl, lineExpressions_append before rfl,
      lineExpressions_cons rfl]
    exact congrArg _ (ih [])
  | case3 c rest _ ih =>
    split
    · next hc =>
      rw [lineExpressions_append before rfl, hc, lineExpressions_append before rfl]
      exact congrArg _ (ih [])
    · rw [List.append_cons before c rest, List.append_cons before c (unifyLineEnds rest)]
      exact ih (before ++ [c])

/-- The expressions are the same when the line ends are left as they are. -/
theorem expressions_eq (s : List Char) : expressions s = lineExpressions s :=
  lineExpressions_unifyLineEnds [] s

/-- **At a line end a text may be cut**, whatever stands around it. -/
theorem expressions_append (h : IsLineEnd lineEnd) (before after : List Char) :
    expressions (before ++ lineEnd ++ after) = expressions before ++ expressions after := by
  rw [expressions_eq, expressions_eq, expressions_eq, List.append_assoc]
  cases h with
  | boundary hc => exact lineExpressions_append before hc after
  | pair =>
    rw [List.cons_append, lineExpressions_append before rfl]
    exact congrArg _ (lineExpressions_cons rfl after)

/-- Blanks around a text make no difference, and they may be blank lines. -/
theorem expressions_blanks {gap' : List Char} (h : gap.all isBlank = true)
    (h' : gap'.all isBlank = true) (s : List Char) :
    expressions (gap ++ s ++ gap') = expressions s := by
  rw [expressions_eq, expressions_eq, lineExpressions_append_blanks h', lineExpressions_blanks h]

/-- Texts that differ in line ends, in blank lines and in blanks around lines only have the same
expressions. -/
theorem expressions_eq_of_respaced (h : Respaced s u) : expressions s = expressions u := by
  induction h with
  | refl => rfl
  | symm _ ih => exact ih.symm
  | trans _ _ ih ih' => exact ih.trans ih'
  | lineEnd h h' _ _ ihbefore ihafter =>
    rw [expressions_append h, expressions_append h', ihbefore, ihafter]
  | blanks h h' s => exact (expressions_blanks h h' s).symm

/-! ## One line end for all others -/

/-- A text in which every line end is converted differs in line ends only. -/
theorem respaced_withLineEnds (h : IsLineEnd lineEnd) (s : List Char) :
    Respaced s (withLineEnds lineEnd s) := by
  -- behind the part of the line that needs no conversion
  suffices hbehind : ∀ before, Respaced (before ++ s) (before ++ withLineEnds lineEnd s) from
    hbehind []
  have hconverted {t rest : List Char} (ht : IsLineEnd t)
      (ih : ∀ before, Respaced (before ++ rest) (before ++ withLineEnds lineEnd rest))
      (before : List Char) :
      Respaced (before ++ (t ++ rest)) (before ++ (lineEnd ++ withLineEnds lineEnd rest)) := by
    rw [← List.append_assoc, ← List.append_assoc]
    exact .lineEnd ht h (.refl before) (ih [])
  rw [withLineEnds]
  fun_induction unifyLineEnds s with
  | case1 => exact fun before => .refl _
  | case2 rest ih => exact hconverted .pair ih
  | case3 c rest hpair ih =>
    by_cases hreturn : c = '\r'
    · rw [if_pos hreturn]
      subst hreturn
      exact hconverted (.boundary rfl) ih
    · rw [if_neg hreturn]
      by_cases hfeed : c = '\n'
      · subst hfeed
        exact hconverted (.boundary rfl) ih
      · intro before
        rw [List.flatMap_cons, if_neg hfeed, ← List.append_assoc, List.append_cons before c rest]
        exact ih (before ++ [c])

/-! ## What is kept -/

theorem visible_lineExpressions (s : List Char) :
    visible (lineExpressions s).flatten = visible s := by
  have hline {l : List Char} (hl : ∀ c ∈ l, isLineBoundary c = false) :
      visible (lineExpressions l).flatten = visible l := by
    rw [lineExpressions_of_line hl, ← visible_trim l]
    cases trim l <;> simp
  induction s using line_induction with
  | line line hl => exact hline hl
  | boundary line c rest hl hc ih =>
    have hblank : visible [c] = [] := visible_blanks (by simp [isBlank_of_isLineBoundary hc])
    rw [lineExpressions_append line hc, List.flatten_append, visible_append, hline hl, ih,
      List.append_cons, visible_append, visible_append, hblank, List.append_nil]

/-- An expression is what is left of a line. -/
theorem exists_line_of_mem {e : List Char} (he : e ∈ expressions s) :
    ∃ line ∈ lines (unifyLineEnds s), trim line = e ∧ e ≠ [] := by
  obtain ⟨hmem, hne⟩ := List.mem_filter.1 he
  obtain ⟨line, hline, htrim⟩ := List.mem_map.1 hmem
  refine ⟨line, hline, htrim, fun hnil => ?_⟩
  rw [hnil] at hne
  exact absurd hne (by decide)

/-- No expression holds a boundary of lines. -/
theorem isLineBoundary_eq_false_of_mem {e : List Char} (he : e ∈ expressions s) :
    ∀ c ∈ e, isLineBoundary c = false := by
  intro c hc
  obtain ⟨line, hline, rfl, -⟩ := exists_line_of_mem he
  exact isLineBoundary_eq_false_of_mem_lines line hline c (mem_of_mem_trim hc)

/-- The expressions of a text are trimmed lines, and they keep all of it but its blanks. -/
theorem keeps_expressions (text : String) :
    Keeps text ((expressions text.toList).map .ofList) := by
  have hmem {e : String} (he : e ∈ (expressions text.toList).map String.ofList) :
      e.toList ∈ expressions text.toList := by
    obtain ⟨l, hl, rfl⟩ := List.mem_map.1 he
    rwa [String.toList_ofList]
  refine ⟨?_, ?_, ?_, ?_, ?_⟩
  · rintro e he rfl
    obtain ⟨line, -, -, hne⟩ := exists_line_of_mem (hmem he)
    exact hne rfl
  · intro e he
    obtain ⟨line, -, htrim, -⟩ := exists_line_of_mem (hmem he)
    exact htrim ▸ stops_trim line
  · intro e he
    obtain ⟨line, -, htrim, -⟩ := exists_line_of_mem (hmem he)
    exact htrim ▸ stops_reverse_trim line
  · intro e he
    exact isLineBoundary_eq_false_of_mem (hmem he)
  · have hlists : ((expressions text.toList).map String.ofList).flatMap String.toList =
        (expressions text.toList).flatten := by
      simp [List.flatMap_map, List.flatMap_id']
    rw [hlists, expressions_eq, visible_lineExpressions]

/-! ## Files -/

theorem decode_eq_ok_iff {bytes : ByteArray} {text : String} :
    Utf8.decode bytes = .ok text ↔ text.toUTF8 = bytes := by
  constructor
  · intro h
    rw [Utf8.decode] at h
    split at h
    · next hread =>
      cases h
      rw [String.fromUTF8?] at hread
      split at hread
      · cases hread; rfl
      · cases hread
    · cases h
  · rintro rfl
    exact Utf8.decode_toUTF8 text

/-- The bytes of two texts, one after the other, are those of one text. -/
theorem decode_append {a b : ByteArray} {first second : String} (ha : Utf8.decode a = .ok first)
    (hb : Utf8.decode b = .ok second) : Utf8.decode (a ++ b) = .ok (first ++ second) := by
  rw [decode_eq_ok_iff] at ha hb ⊢
  rw [← ha, ← hb]
  exact String.toByteArray_append

theorem readExpressions_of_decode {bytes : ByteArray} {text : String}
    (h : Utf8.decode bytes = .ok text) :
    readExpressions bytes = .ok ((expressions text.toList).map .ofList) := by
  rw [readExpressions, h]
  rfl

/-- The expressions of a text are read from the file with its bytes. -/
theorem load_of_decode {files : Files} {path : String} {bytes : ByteArray} {text : String}
    (hread : files.expandHome path >>= files.read = .ok bytes)
    (htext : Utf8.decode bytes = .ok text) :
    load files path = .ok ((expressions text.toList).map .ofList) := by
  have hload : load files path =
      (files.expandHome path >>= files.read).mapError .file >>= readExpressions := rfl
  rw [hload, hread]
  exact readExpressions_of_decode htext

/-- **A batch keeps every expression, whatever the line ends.** What is loaded from a file is a
matter of its bytes alone. If they are a text, its expressions are trimmed lines that keep all of it
but its blanks. A text that is cut at a line end has the expressions of its two parts, and texts
that differ in line ends, in blank lines and in blanks around lines only have the same. -/
theorem load_keeps_lines :
    (∀ (files : Files) (path : String), load files path =
      (files.expandHome path >>= files.read).mapError .file >>= readExpressions) ∧
    (∀ (bytes : ByteArray) (text : String), Utf8.decode bytes = .ok text →
      ∃ entries, readExpressions bytes = .ok entries ∧ Keeps text entries) ∧
    (∀ (a b : ByteArray) (first second lineEnd : String), Utf8.decode a = .ok first →
      Utf8.decode b = .ok second → IsLineEnd lineEnd.toList →
      readExpressions (a ++ lineEnd.toUTF8 ++ b) = do
        return (← readExpressions a) ++ (← readExpressions b)) ∧
    ∀ (a b : ByteArray) (first second : String), Utf8.decode a = .ok first →
      Utf8.decode b = .ok second → Respaced first.toList second.toList →
      readExpressions a = readExpressions b := by
  refine ⟨fun _ _ => rfl, ?_, ?_, ?_⟩
  · intro bytes text htext
    exact ⟨_, readExpressions_of_decode htext, keeps_expressions text⟩
  · intro a b first second lineEnd ha hb hend
    have hwhole := decode_append (decode_append ha (Utf8.decode_toUTF8 lineEnd)) hb
    rw [readExpressions_of_decode hwhole, readExpressions_of_decode ha,
      readExpressions_of_decode hb, String.toList_append, String.toList_append,
      expressions_append hend, List.map_append]
    rfl
  · intro a b first second ha hb hrespaced
    rw [readExpressions_of_decode ha, readExpressions_of_decode hb,
      expressions_eq_of_respaced hrespaced]

/-- A text whose carriage returns are converted to line feeds, and a cut between the two characters
of a line end. -/
theorem readExpressions_of_two_lines :
    readExpressions "1+1\r5/0\r".toUTF8 = readExpressions "1+1\n5/0\n".toUTF8 ∧
      readExpressions ("1+1\r".toUTF8 ++ "\n".toUTF8 ++ " 5/0".toUTF8) = .ok ["1+1", "5/0"] := by
  obtain ⟨-, -, hcut, hrespaced⟩ := load_keeps_lines
  constructor
  · have hconverted : Respaced "1+1\r5/0\r".toList "1+1\n5/0\n".toList :=
      respaced_withLineEnds (.boundary rfl) "1+1\r5/0\r".toList
    exact hrespaced _ _ _ _ (Utf8.decode_toUTF8 _) (Utf8.decode_toUTF8 _) hconverted
  · rw [hcut _ _ _ _ "\n" (Utf8.decode_toUTF8 _) (Utf8.decode_toUTF8 _) (.boundary rfl),
      readExpressions_of_decode (Utf8.decode_toUTF8 _),
      readExpressions_of_decode (Utf8.decode_toUTF8 _)]
    rfl

end

end DeskCalc.Batch
