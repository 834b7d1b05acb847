import DeskCalc.Postfix
import DeskCalc.Proofs.Token.Scanning

/-!
# Tokens and their names

The names of tokens with single blanks between them (`Postfix.text`) are read back as the tokens, in
whatever order these are: numbers after numbers, functions after functions, parentheses that match
nothing. What a name does not settle alone is a minus sign. At some places it is read as the sign of
a numeral (`SignFoldsAt`), so a negative number can stand at these places only, and the operator at
all others.

Lists that keep to this are `WellSigned`. They are the lists that are read from texts, and the lists
that are read back from their own names (`scan_text`). `WellSigned` speaks of the places of a list;
the proofs go along the list with the sign of the token before, as the scan does (`SignedFrom`).
-/

namespace DeskCalc.Token

open DeskCalc.Text DeskCalc.Decimal

/-- The number is written with a minus sign. -/
def isNegative : Token → Bool
  | .number _ text => text.toList.head? == some '-'
  | _ => false

/-- The text of a number is a run of digits and points, possibly after a minus sign, and writes the
value of the number. -/
def WritesNumber : Token → Prop
  | .number value text =>
    ∃ run b, run.all isNumeral = true ∧ (text.toList = run ∨ text.toList = '-' :: run) ∧
      literal? text.toList = some b ∧ value = b.toFloat
  | _ => True

/-- A minus sign at this place belongs to a numeral: in front of all tokens, right after an opening
parenthesis and right after an operator. -/
def SignFoldsAt (tokens : List Token) (i : Nat) : Prop :=
  i = 0 ∨ ∃ j t, i = j + 1 ∧ tokens[j]? = some t ∧
    (t = .paren true ∨ ∃ op, t = .operator op)

/-- Every minus sign among the tokens is what it is read as at its place. -/
structure WellSigned (tokens : List Token) : Prop where
  /-- Numbers have the value that is written. -/
  written : ∀ t ∈ tokens, WritesNumber t
  /-- Where a negative number is, a minus sign belongs to a numeral. -/
  negative : ∀ i t, tokens[i]? = some t → isNegative t = true → SignFoldsAt tokens i
  /-- Where the minus operator is, it does not. -/
  operator : ∀ i, tokens[i]? = some (.operator .sub) → ¬ SignFoldsAt tokens i

/-- The token is read from its name, where a minus sign belongs to a numeral if `folds` holds. -/
structure Signed (folds : Bool) (t : Token) : Prop where
  written : WritesNumber t
  negative : isNegative t = true → folds = true
  operator : t = .operator .sub → folds = false

/-- Every token is read from its name after the tokens before it. -/
def SignedFrom (folds : Bool) : List Token → Prop
  | [] => True
  | t :: rest => Signed folds t ∧ SignedFrom t.signFoldsAfter rest

section
variable {folds : Bool} {t : Token} {rest tokens : List Token} {s lexeme : List Char}

/-! ## Places in a list, and the sign of the token before -/

/-- A token with a sign after it is an opening parenthesis or an operator. -/
theorem signFoldsAfter_iff :
    t.signFoldsAfter = true ↔ t = .paren true ∨ ∃ op, t = .operator op := by
  cases t with
  | paren opening => cases opening <;> simp [signFoldsAfter, GenToken.isOpening,
      GenToken.isOperator, GenToken.kind]
  | operator op => simp [signFoldsAfter, GenToken.isOperator, GenToken.kind]
  | number | func => simp [signFoldsAfter, GenToken.isOpening, GenToken.isOperator, GenToken.kind]
  | unlisted kind name isBare => exact isBare.elim

theorem signFoldsAt_zero : SignFoldsAt tokens 0 :=
  .inl rfl

theorem signFoldsAt_succ_iff {i : Nat} :
    SignFoldsAt tokens (i + 1) ↔ ∃ t, tokens[i]? = some t ∧ t.signFoldsAfter = true := by
  constructor
  · rintro (h | ⟨j, t, hj, ht, hsign⟩)
    · cases h
    · cases hj
      exact ⟨t, ht, signFoldsAfter_iff.2 hsign⟩
  · rintro ⟨t, ht, hsign⟩
    exact .inr ⟨i, t, rfl, ht, signFoldsAfter_iff.1 hsign⟩

/-- The places of a list, when a minus sign in front of it belongs to a numeral if `folds` holds. -/
def FoldsAt (folds : Bool) (tokens : List Token) : Nat → Prop
  | 0 => folds = true
  | i + 1 => ∃ t, tokens[i]? = some t ∧ t.signFoldsAfter = true

theorem foldsAt_true_iff {i : Nat} : FoldsAt true tokens i ↔ SignFoldsAt tokens i := by
  cases i with
  | zero => exact iff_of_true rfl signFoldsAt_zero
  | succ i => exact signFoldsAt_succ_iff.symm

/-- Behind the first token the places are those of the rest. -/
theorem foldsAt_cons_succ {i : Nat} :
    FoldsAt folds (t :: rest) (i + 1) ↔ FoldsAt t.signFoldsAfter rest i := by
  cases i with
  | zero => simp [FoldsAt]
  | succ i => simp [FoldsAt]

/-- Going along a list is looking at all of its places. -/
theorem signedFrom_iff :
    SignedFrom folds tokens ↔ (∀ t ∈ tokens, WritesNumber t) ∧
      (∀ i t, tokens[i]? = some t → isNegative t = true → FoldsAt folds tokens i) ∧
      ∀ i, tokens[i]? = some (.operator .sub) → ¬ FoldsAt folds tokens i := by
  induction tokens generalizing folds with
  | nil => simp [SignedFrom]
  | cons t rest ih =>
    rw [SignedFrom, ih]
    constructor
    · rintro ⟨⟨hwritten, hnegative, hoperator⟩, hall, hnegatives, hoperators⟩
      refine ⟨List.forall_mem_cons.2 ⟨hwritten, hall⟩, fun i u hu hneg => ?_, fun i hu => ?_⟩
      · cases i with
        | zero => cases hu; exact hnegative hneg
        | succ i => exact foldsAt_cons_succ.2 (hnegatives i u hu hneg)
      · cases i with
        | zero => cases hu; exact ne_true_of_eq_false (hoperator rfl)
        | succ i => exact mt foldsAt_cons_succ.1 (hoperators i hu)
    · rintro ⟨hall, hnegatives, hoperators⟩
      obtain ⟨hwritten, hall⟩ := List.forall_mem_cons.1 hall
      refine ⟨⟨hwritten, hnegatives 0 t rfl, ?_⟩, hall, fun i u hu hneg => ?_, fun i hu => ?_⟩
      · rintro rfl
        exact eq_false_of_ne_true (hoperators 0 rfl)
      · exact foldsAt_cons_succ.1 (hnegatives (i + 1) u hu hneg)
      · exact mt foldsAt_cons_succ.2 (hoperators (i + 1) hu)

theorem wellSigned_iff_signedFrom : WellSigned tokens ↔ SignedFrom true tokens := by
  rw [signedFrom_iff]
  simp only [foldsAt_true_iff]
  exact ⟨fun ⟨hwritten, hnegative, hoperator⟩ => ⟨hwritten, hnegative, hoperator⟩,
    fun ⟨hwritten, hnegative, hoperator⟩ => ⟨hwritten, hnegative, hoperator⟩⟩

/-! ## What is read is well signed -/

/-- No numeral starts with a minus sign. -/
theorem head?_ne_minus {run : List Char} (h : run.all isNumeral = true) :
    run.head? ≠ some '-' := by
  intro hhead
  have hminus := List.all_eq_true.1 h '-' (List.mem_of_mem_head? hhead)
  exact absurd hminus (by decide)

/-- What a token is read from is signed as its name is. -/
theorem signed_of_lexeme (h : Lexeme folds t lexeme) (hsep : Separate folds t s) :
    Signed folds t := by
  cases h with
  | numeral hrun hvalue =>
    refine ⟨⟨_, _, hrun, .inl String.toList_ofList, ?_, rfl⟩, fun hneg => ?_, nofun⟩
    · rw [String.toList_ofList, hvalue]
    · rw [isNegative, String.toList_ofList, beq_iff_eq] at hneg
      exact absurd hneg (head?_ne_minus hrun)
  | negative hfolds _ hrun hvalue =>
    refine ⟨⟨_, _, hrun, .inr String.toList_ofList, ?_, rfl⟩, fun _ => hfolds, nofun⟩
    rw [String.toList_ofList, hvalue]
  | operator op =>
    refine ⟨trivial, nofun, fun hsub => ?_⟩
    cases hsub
    exact hsep rfl
  | func | paren => exact ⟨trivial, nofun, nofun⟩

theorem signedFrom_of_reads (h : Reads folds s tokens) : SignedFrom folds tokens := by
  induction h with
  | done => trivial
  | token h _ ih =>
    obtain ⟨gap, lexeme, -, -, hlexeme, hsep⟩ := first?_eq_ok_iff.1 h
    exact ⟨signed_of_lexeme hlexeme hsep, ih⟩

/-! ## What is well signed is read back -/

/-- The name of a signed token writes it. -/
theorem lexeme_name (h : Signed folds t) : Lexeme folds t t.name.toList := by
  cases t with
  | number value text =>
    obtain ⟨⟨run, b, hrun, htext, hvalue, rfl⟩, hnegative, -⟩ := h
    rw [GenToken.name]
    rcases htext with htext | htext
    · rw [htext] at hvalue
      have hlexeme : Lexeme folds _ _ := .numeral hrun hvalue
      rwa [← htext, String.ofList_toList] at hlexeme
    · have hfolds : folds = true := hnegative (by rw [isNegative, htext]; rfl)
      rw [htext] at hvalue
      have hlexeme : Lexeme folds _ ('-' :: [] ++ run) :=
        .negative hfolds List.all_nil hrun hvalue
      rwa [List.cons_append, List.nil_append, ← htext, String.ofList_toList] at hlexeme
  | operator op =>
    rw [GenToken.name, Operator.name, String.toList_singleton]
    exact .operator op
  | func f => exact .func f
  | paren opening =>
    have hlexeme : Lexeme folds _ _ := .paren opening
    cases opening <;> exact hlexeme
  | unlisted kind name isBare => exact isBare.elim

/-- The names after a token start with a blank. -/
theorem separate_of_blank (h : Signed folds t) (hblank : ∀ c ∈ s.head?, c = ' ') :
    Separate folds t s := by
  cases t with
  | number | func =>
    intro c hc
    rw [hblank c hc]
    decide
  | operator op =>
    rintro rfl
    exact h.operator rfl
  | paren => trivial
  | unlisted kind name isBare => exact isBare.elim

/-- Blanks in front are skipped. -/
theorem Reads.append_left {gap : List Char} (hgap : gap.all isBlank = true)
    (h : Reads folds s tokens) : Reads folds (gap ++ s) tokens := by
  rw [← scanFrom_eq_ok_iff] at h ⊢
  rw [scanFrom_append_left hgap, h]

theorem toList_text_cons_cons (t u : Token) (rest : List Token) :
    (Postfix.text (t :: u :: rest)).toList =
      t.name.toList ++ (' ' :: (Postfix.text (u :: rest)).toList) := by
  simp [Postfix.text]

/-- The names of signed tokens are read as the tokens. -/
theorem reads_text (h : SignedFrom folds tokens) :
    Reads folds (Postfix.text tokens).toList tokens := by
  induction tokens generalizing folds with
  | nil => exact .done rfl
  | cons t rest ih =>
    have hname := lexeme_name h.1
    have hrest := ih h.2
    cases rest with
    | nil =>
      have htext : (Postfix.text [t]).toList = t.name.toList ++ [] := by simp [Postfix.text]
      have hsep : Separate folds t [] := separate_of_blank h.1 nofun
      rw [htext]
      exact .token (first?_of_lexeme hname hsep) hrest
    | cons u rest =>
      rw [toList_text_cons_cons]
      refine .token (first?_of_lexeme hname (separate_of_blank h.1 ?_)) ?_
      · rintro c ⟨⟩
        rfl
      · exact Reads.append_left (show [' '].all isBlank = true from rfl) hrest

/-- **Reading tokens undoes writing their names.** The lists of tokens that texts are read as are
the well signed ones, and these are the lists that are read back from their names with single blanks
between them. -/
theorem scan_text (tokens : List Token) :
    ((∃ s : String, scan s.toList = .ok tokens) ↔ WellSigned tokens) ∧
      (scan (Postfix.text tokens).toList = .ok tokens ↔ WellSigned tokens) := by
  have hread {s : List Char} (h : scan s = .ok tokens) : WellSigned tokens :=
    wellSigned_iff_signedFrom.2 (signedFrom_of_reads (scanFrom_eq_ok_iff.1 h))
  have hback (h : WellSigned tokens) : scan (Postfix.text tokens).toList = .ok tokens :=
    scanFrom_eq_ok_iff.2 (reads_text (wellSigned_iff_signedFrom.1 h))
  exact ⟨⟨fun ⟨_, h⟩ => hread h, fun h => ⟨_, hback h⟩⟩, hread, hback⟩

end

end DeskCalc.Token
