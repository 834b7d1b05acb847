import DeskCalc.Proofs.Calculator.Stages
import DeskCalc.Proofs.Decimal.Fixed
import DeskCalc.Report

/-!
# Tables

A table has a line for the names of the columns and one for each row. The cells of a line stand at
the right ends of their columns, one blank apart, and a line feed ends it (`IsTable`); the columns
are wide enough for all of their cells, so none is cut off (`isTable_tableText`).

A table escapes tabs and line ends. A result has none (`cellText_resultText`), and neither have the
words of an error: what they quote from an expression are letters, parts of numerals, operators, or
a character that is no blank (`cellText_description`). The lines of a file have no line ends, so of
their expressions the tabs are escaped at most (`cellText_eq_escapeTabs`).
-/

namespace DeskCalc

open DeskCalc.Text

namespace Table

/-- The line of a row in columns of these widths: every cell stands at the right end of its column,
one blank is between columns, and a line feed is at the end. -/
inductive IsLine : List Nat → List (List Char) → List Char → Prop
  | last {width blanks : Nat} {cell : List Char} (h : blanks + cell.length = width) :
    IsLine [width] [cell] (List.replicate blanks ' ' ++ cell ++ ['\n'])
  | cons {width blanks : Nat} {widths : List Nat} {cell line : List Char}
    {row : List (List Char)} (h : blanks + cell.length = width) (hrest : IsLine widths row line) :
    IsLine (width :: widths) (cell :: row) (List.replicate blanks ' ' ++ cell ++ ' ' :: line)

/-- The text shows the rows in columns, one line each. -/
def IsTable (rows : List (List (List Char))) (text : List Char) : Prop :=
  ∃ widths lines, text = lines.flatten ∧ List.Forall₂ (IsLine widths) rows lines

/-- The text with `\t` for each tab. -/
def escapeTabs (s : String) : List Char :=
  s.toList.flatMap fun c => if c = '\t' then ['\\', 't'] else [c]

/-! ## Lines -/

section
variable {ns ms ks sizes : List Nat} {row : List (List Char)} {rows : List (List (List Char))}

/-- Widths that are no less than others are no less after they have grown. -/
theorem forall₂_le_zipWith_max (h : List.Forall₂ (· ≤ ·) ns ms) (hlength : ks.length = ms.length) :
    List.Forall₂ (· ≤ ·) ns (List.zipWith max ms ks) := by
  induction h generalizing ks with
  | nil => exact .nil
  | cons hle _ ih =>
    obtain ⟨k, ks, rfl⟩ := List.exists_cons_of_length_eq_add_one hlength
    exact .cons (hle.trans (Nat.le_max_left _ _)) (ih (Nat.succ.inj hlength))

/-- The greatest widths are no less than any of them. -/
theorem forall₂_le_foldl {rest : List (List Nat)} (hlength : ∀ ks ∈ rest, ks.length = ms.length)
    (h : List.Forall₂ (· ≤ ·) ns ms ∨ ns ∈ rest) :
    List.Forall₂ (· ≤ ·) ns (rest.foldl (List.zipWith max) ms) := by
  induction rest generalizing ms with
  | nil => exact h.resolve_right (List.not_mem_nil)
  | cons ks rest ih =>
    have hks : ks.length = ms.length := hlength ks (.head rest)
    have hgrown : (List.zipWith max ms ks).length = ms.length := by simp [hks]
    refine ih (fun other hother => (hlength other (.tail ks hother)).trans hgrown.symm) ?_
    rcases h with hle | hmem
    · exact .inl (forall₂_le_zipWith_max hle hks)
    rcases List.mem_cons.1 hmem with rfl | hmem
    · have hrefl : List.Forall₂ (· ≤ ·) ns ns := List.forall₂_same.2 fun n _ => Nat.le_refl n
      rw [List.zipWith_comm_of_comm Nat.max_comm]
      exact .inl (forall₂_le_zipWith_max hrefl hks.symm)
    · exact .inr hmem

/-- The columns of rows of one length are wide enough for each of them. -/
theorem forall₂_widths {columns : Nat} (hlength : ∀ row ∈ rows, row.length = columns)
    (hrow : row ∈ rows) :
    List.Forall₂ (fun cell width => cell.length ≤ width) row (widths rows) := by
  rw [← List.forall₂_map_left_iff (f := List.length) (R := (· ≤ ·))]
  cases rows with
  | nil => cases hrow
  | cons first rest =>
    refine forall₂_le_foldl (fun ks hks => ?_) ?_
    · obtain ⟨other, hother, rfl⟩ := List.mem_map.1 hks
      simp [hlength first (.head rest), hlength other (.tail first hother)]
    · rcases List.mem_cons.1 hrow with rfl | hrow
      · exact .inl (List.forall₂_same.2 fun n _ => Nat.le_refl n)
      · exact .inr (List.mem_map_of_mem hrow)

/-- A row that fits is put on a line. -/
theorem isLine_line (h : List.Forall₂ (fun cell width => cell.length ≤ width) row sizes)
    (hne : row ≠ []) : IsLine sizes row (line sizes row ++ ['\n']) := by
  induction h with
  | nil => contradiction
  | cons hle hrest ih =>
    have hwidth := Nat.sub_add_cancel hle
    cases hrest with
    | nil => simpa [line, alignRight] using IsLine.last hwidth
    | cons =>
      have hcons := IsLine.cons hwidth (ih (List.cons_ne_nil _ _))
      simpa [line, alignRight, List.intercalate_cons_cons] using hcons

/-- Rows of one length are shown in columns. -/
theorem isTable_render {header : List String} {rows : List (List String)} {n : Nat} (hn : n ≠ 0)
    (hlength : ∀ row ∈ header :: rows, row.length = n) :
    IsTable ((header :: rows).map (·.map cellText)) (render header rows).toList := by
  have hcells : ∀ row ∈ (header :: rows).map (·.map cellText), row.length = n := by
    intro row hrow
    obtain ⟨texts, htexts, rfl⟩ := List.mem_map.1 hrow
    rw [List.length_map, hlength texts htexts]
  refine ⟨widths ((header :: rows).map (·.map cellText)), _, String.toList_ofList, ?_⟩
  rw [List.forall₂_map_right_iff, List.forall₂_same]
  intro row hrow
  refine isLine_line (forall₂_widths hcells hrow) fun hnil => hn ?_
  rw [← hcells row hrow, hnil, List.length_nil]

end

/-! ## Cells -/

/-- The character is neither a tab nor a line end. -/
def isPlain (c : Char) : Bool :=
  c != '\t' && c != '\n' && c != '\r'

section
variable {c : Char} {s : String}

theorem escape_of_isPlain (h : isPlain c = true) : escape c = [c] := by
  simp only [isPlain, Bool.and_eq_true, bne_iff_ne] at h
  rw [escape, if_neg h.1.1, if_neg h.1.2, if_neg h.2]

/-- A text of such characters is shown as it is. -/
theorem cellText_of_isPlain (h : s.toList.all isPlain = true) : cellText s = s.toList := by
  rw [cellText]
  generalize s.toList = text at h ⊢
  induction text with
  | nil => rfl
  | cons c rest ih =>
    rw [List.all_cons, Bool.and_eq_true] at h
    rw [List.flatMap_cons, escape_of_isPlain h.1, ih h.2]
    rfl

/-- A class of characters without the three has plain characters only. -/
theorem isPlain_of_class {p : Char → Bool} (hnone : ['\t', '\n', '\r'].any p = false)
    (h : p c = true) : isPlain c = true := by
  have hne {d : Char} (hd : d ∈ ['\t', '\n', '\r']) : c ≠ d := by
    rintro rfl
    rw [List.any_eq_false] at hnone
    exact hnone c hd h
  simp only [isPlain, Bool.and_eq_true, bne_iff_ne]
  exact ⟨⟨hne (by decide), hne (by decide)⟩, hne (by decide)⟩

/-- What the table escapes is blank. -/
theorem isPlain_of_isBlank_eq_false (h : isBlank c = false) : isPlain c = true :=
  isPlain_of_class (p := (!isBlank ·)) (by decide) (by rw [h]; rfl)

/-- Of a text without line ends the tabs are escaped. -/
theorem cellText_eq_escapeTabs (h : ∀ c ∈ s.toList, c ≠ '\n' ∧ c ≠ '\r') :
    cellText s = escapeTabs s := by
  refine List.flatMap_congr fun c hc => ?_
  rw [escape, if_neg (h c hc).1, if_neg (h c hc).2]

end

end Table

open Table

/-- **The table of rows** shows the names of the columns and the cells of the rows in columns. -/
theorem isTable_tableText (rows : List Row) :
    IsTable (["expression".toList, "result".toList, "error".toList] ::
      rows.map fun row => row.cells.map cellText) (tableText rows).toList := by
  have hheader : reportHeader.map cellText =
      ["expression".toList, "result".toList, "error".toList] := by decide
  have hlength : ∀ cells ∈ reportHeader :: rows.map Row.cells, cells.length = 3 := by
    intro cells hcells
    rcases List.mem_cons.1 hcells with rfl | hcells
    · rfl
    · obtain ⟨row, -, rfl⟩ := List.mem_map.1 hcells
      rfl
  have htable := isTable_render (by decide) hlength
  rwa [List.map_cons, hheader, List.map_map] at htable

/-! ## Results -/

/-- A canonical decimal has digits, a point and a minus sign only. -/
theorem all_isPlain_text {p : Decimal.Positional} (h : p.Canonical) :
    p.text.all isPlain = true := by
  have hdigits (c : Char) (hc : c ∈ p.whole ++ p.fraction) : isPlain c = true :=
    isPlain_of_class (p := Char.isDigit) (by decide) (h.digits c hc)
  have hwhole : p.whole.all isPlain = true :=
    List.all_eq_true.2 fun c hc => hdigits c (List.mem_append_left _ hc)
  have hpointed : (Decimal.pointed p.fraction).all isPlain = true := by
    have hfraction : p.fraction.all isPlain = true :=
      List.all_eq_true.2 fun c hc => hdigits c (List.mem_append_right _ hc)
    cases hcases : p.fraction with
    | nil => rfl
    | cons d rest =>
      rw [hcases] at hfraction
      change (isPlain '.' && (d :: rest).all isPlain) = true
      rw [hfraction]
      rfl
  rw [Decimal.Positional.text, List.all_append, List.all_append, hwhole, hpointed]
  split <;> rfl

/-- A result is shown as it is. -/
theorem cellText_resultText (x : Float) : cellText (resultText x) = (resultText x).toList := by
  refine cellText_of_isPlain ?_
  cases hx : Binary64.ofFloat x with
  | finite negative units =>
    rw [resultText, Decimal.toList_fixedText hx]
    exact all_isPlain_text (Decimal.canonical_form _ negative units)
  | nan => rw [resultText, Decimal.fixedText, hx]; decide
  | infinite negative => rw [resultText, Decimal.fixedText, hx]; cases negative <;> decide

/-! ## Errors -/

/-- What the description of an error speaks of. -/
def ExpressionError.subject (e : ExpressionError) : String :=
  e.payload.getD "None"

section
variable {folds : Bool} {s run rest : List Char} {cause : ScanError} {e : ExpressionError}

/-- A description adds nothing to what it speaks of that a table would escape. -/
theorem all_isPlain_description (h : e.subject.toList.all isPlain = true) :
    e.description.toList.all isPlain = true := by
  have hquoted (before : String) (hbefore : before.toList.all isPlain = true) :
      (before ++ e.subject ++ "'").toList.all isPlain = true := by
    rw [String.toList_append, String.toList_append, List.all_append, List.all_append, hbefore, h]
    decide
  obtain ⟨errorClass, payload⟩ := e
  cases errorClass with
  | invalidToken | domain => exact hquoted "Invalid token: '" (by decide)
  | invalidFunction => exact hquoted "Invalid function: '" (by decide)
  | missingOperand => exact hquoted "Missing operand for operator '" (by decide)
  | expression | unmatchedParenthesis | divisionByZero | insufficientOperands | invalidExpression
  | emptyExpression =>
    -- these descriptions are fixed texts
    dsimp only [ExpressionError.description]
    decide

theorem isPlain_of_isLetter {c : Char} (h : isLetter c = true) : isPlain c = true :=
  isPlain_of_isBlank_eq_false (isBlank_eq_false_of_isLetter h)

theorem isPlain_of_isNumeral {c : Char} (h : Decimal.isNumeral c = true) : isPlain c = true :=
  isPlain_of_isBlank_eq_false (Token.isBlank_eq_false_of_isNumeral h)

theorem all_isPlain_takeWhile {p : Char → Bool} (hp : ∀ c, p c = true → isPlain c = true)
    (s : List Char) : (s.takeWhile p).all isPlain = true := by
  refine List.all_eq_true.2 fun c hc => hp c ?_
  exact List.all_eq_true.1 List.all_takeWhile c hc

/-- A word that is no function is what the error speaks of. -/
theorem subject_of_ofWord (h : Token.ofWord run = .error cause) :
    cause.toExpressionError.subject = .ofList run := by
  rw [Token.ofWord] at h
  split at h <;> cases h
  rfl

/-- So is a literal without a value. -/
theorem subject_of_ofLiteral (h : Token.ofLiteral run = .error cause) :
    cause.toExpressionError.subject = .ofList run := by
  rw [Token.ofLiteral] at h
  split at h <;> cases h
  rfl

/-- A fault at the front of a text speaks of characters that are no blanks. -/
theorem all_isPlain_subject_of_first? (h : Token.first? folds s = some (.error cause, rest)) :
    cause.toExpressionError.subject.toList.all isPlain = true := by
  induction s with
  | nil => cases h
  | cons c text ih =>
    have hletters := all_isPlain_takeWhile (fun c => isPlain_of_isLetter) text
    have hdigits := all_isPlain_takeWhile (fun c => isPlain_of_isNumeral)
    rw [Token.first?] at h
    split at h
    · exact ih h
    next hblank =>
    have hc : isPlain c = true := isPlain_of_isBlank_eq_false (Bool.eq_false_iff.2 hblank)
    split at h
    · injection h with h
      rw [subject_of_ofWord (congrArg Prod.fst h), String.toList_ofList, List.all_cons, hc,
        hletters]
      rfl
    split at h
    · injection h with h
      rw [subject_of_ofLiteral (congrArg Prod.fst h), String.toList_ofList, List.all_cons, hc,
        hdigits]
      rfl
    split at h
    · injection h with h
      rw [subject_of_ofLiteral (congrArg Prod.fst h), String.toList_ofList, List.all_cons, hdigits]
      rfl
    · split at h
      · cases h
      · cases h
        rw [ExpressionError.subject]
        simp [ScanError.toExpressionError, ExpressionError.invalidToken, hc]

/-- A scan fails at the front of a part of the text. -/
theorem all_isPlain_subject_of_scanFrom (h : Token.scanFrom folds s = .error cause) :
    cause.toExpressionError.subject.toList.all isPlain = true := by
  induction hlength : s.length using Nat.strongRecOn generalizing folds s with
  | ind n ih =>
    rw [Token.scanFrom_eq] at h
    split at h
    · cases h
    · next hfirst => cases h; exact all_isPlain_subject_of_first? hfirst
    · next t rest hfirst =>
      have hlt := Token.length_lt_of_first? hfirst
      cases hrest : Token.scanFrom t.signFoldsAfter rest with
      | ok tokens => rw [hrest] at h; cases h
      | error fault =>
        rw [hrest] at h
        cases h
        exact ih rest.length (hlength ▸ hlt) hrest rfl

/-- The faults of the later stages speak of operators, or of nothing in the expression. -/
theorem all_isPlain_subject_of_parse {tokens : List Token} {fault : ParseError False}
    (hform : Postfix.ofInfix tokens = .error fault)
    (h : (EvaluationError.parse fault).toExpressionError? = some e) :
    e.subject.toList.all isPlain = true := by
  rw [EvaluationError.toExpressionError?, EvaluationError.toFault] at h
  rcases Postfix.toFault_of_ofInfix_eq_error hform with ⟨_, op, -, -, hfault⟩ | ⟨-, hfault⟩
  · rw [hfault] at h
    cases h
    cases op <;> decide
  · rw [hfault] at h
    cases h
    decide

theorem all_isPlain_subject_of_value {fault : EvalError False}
    (h : (EvaluationError.value fault).toExpressionError? = some e) :
    e.subject.toList.all isPlain = true := by
  cases fault with
  | arithmetic cause => cases cause <;> cases h <;> decide
  | empty | insufficientOperands | parenthesis | leftover => cases h; decide
  | unlistedOperator name isBare | unlistedFunc name isBare => exact isBare.elim
  | secondOperandMissing op isBare => exact isBare.elim

/-- The words of an error have neither tabs nor line ends. -/
theorem all_isPlain_of_evaluate {c : Calculator} {text : String} {cause : EvaluationError}
    (h : c.evaluate text = .error cause) (he : cause.toExpressionError? = some e) :
    e.description.toList.all isPlain = true := by
  refine all_isPlain_description ?_
  cases Calculator.failure_of_evaluate h with
  | form hform =>
    cases hform with
    | unbalanced | empty => cases he; decide
    | scan hscan => cases he; exact all_isPlain_subject_of_scanFrom hscan
    | parse _ hparse => exact all_isPlain_subject_of_parse hparse he
  | value => exact all_isPlain_subject_of_value he
  | rounding => cases he

/-- So they are shown as they are. -/
theorem cellText_description {c : Calculator} {text : String} {cause : EvaluationError}
    (h : c.evaluate text = .error cause) (he : cause.toExpressionError? = some e) :
    cellText e.description = e.description.toList :=
  cellText_of_isPlain (all_isPlain_of_evaluate h he)

end

end DeskCalc
