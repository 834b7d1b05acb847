import DeskCalc.Proofs.Infix.Sentence
import DeskCalc.Proofs.Token.Scanning

/-!
# How tokens are spelled

`Spells folds tokens text` says that the text writes the tokens: every token by its own characters
(`Lexeme`), with any blanks before each and after the last one. A minus sign may be written before a
numeral where the scan takes it for one, with blanks between them or none. Nothing separates two
tokens but a blank between the names of two functions.

A text is read as a sentence exactly when it spells the sentence (`scan_eq_ok_iff_spells`). What is
read is always a spelling. The other way round needs the neighbours of a sentence: no numeral stands
after a numeral, no sign of an operator where it would be read as that of a numeral, and no name
after a name but where the blank is.
-/

namespace DeskCalc.Token

open DeskCalc.Text DeskCalc.Decimal DeskCalc.Infix

/-- Two names of functions that follow one another have a blank between them. -/
def Apart (t : Token) (rest : List Token) (text : List Char) : Prop :=
  ∀ f g, t = .func f → rest.head? = some (.func g) → text.head?.any isBlank = true

/-- The text writes the tokens, where a minus sign at its start belongs to a numeral if `folds`
holds. -/
inductive Spells : Bool → List Token → List Char → Prop
  | nil {folds : Bool} {gap : List Char} (hgap : gap.all isBlank = true) : Spells folds [] gap
  | cons {folds : Bool} {t : Token} {rest : List Token} {gap lexeme text : List Char}
    (hgap : gap.all isBlank = true) (hlexeme : Lexeme folds t lexeme)
    (hrest : Spells t.signFoldsAfter rest text) (hapart : Apart t rest text) :
    Spells folds (t :: rest) (gap ++ lexeme ++ text)

section
variable {folds due : Bool} {t : Token} {tokens : List Token} {lexeme text : List Char}

/-! ## What a spelling starts with -/

/-- A spelling starts with a blank or with its first token. -/
theorem head_of_spells (h : Spells folds tokens text) {c : Char} (hc : c ∈ text.head?) :
    isBlank c = true ∨ ∃ t lexeme, tokens.head? = some t ∧ Lexeme folds t lexeme ∧
      c ∈ lexeme.head? := by
  have hblank {gap : List Char} (hgap : gap.all isBlank = true) (hc : c ∈ gap.head?) :
      isBlank c = true := List.all_eq_true.1 hgap c (List.mem_of_mem_head? hc)
  cases h with
  | nil hgap => exact .inl (hblank hgap hc)
  | @cons _ t rest gap lexeme text hgap hlexeme =>
    rcases gap with _ | ⟨d, gap⟩
    · obtain ⟨d, tail, rfl⟩ := List.exists_cons_of_ne_nil hlexeme.ne_nil
      exact .inr ⟨t, _, rfl, hlexeme, hc⟩
    · exact .inl (hblank hgap hc)

/-- Only a number starts like a numeral. -/
theorem isNumeral_head_eq_false (h : Lexeme folds t lexeme)
    (ht : ∀ value name, t ≠ .number value name) {c : Char} (hc : c ∈ lexeme.head?) :
    isNumeral c = false := by
  cases h with
  | numeral | negative => exact absurd rfl (ht _ _)
  | operator op => cases hc; cases op <;> decide
  | func f => cases f <;> cases hc <;> decide
  | paren opening => cases hc; cases opening <;> decide

/-- Only a function starts like a name. -/
theorem isLetter_head_eq_false (h : Lexeme folds t lexeme) (ht : ∀ f, t ≠ .func f)
    {c : Char} (hc : c ∈ lexeme.head?) : isLetter c = false := by
  cases h with
  | numeral hrun =>
    exact isLetter_eq_false_of_isNumeral (List.all_eq_true.1 hrun c (List.mem_of_mem_head? hc))
  | negative => cases hc; decide
  | operator op => cases hc; cases op <;> decide
  | func f => exact absurd rfl (ht f)
  | paren opening => cases hc; cases opening <;> decide

/-- No numeral starts where no operand is due. -/
theorem stops_isNumeral_of_fits (h : Spells folds tokens text) (hfits : fits false tokens = true) :
    Stops isNumeral text := by
  intro c hc
  rcases head_of_spells h hc with hblank | ⟨t, lexeme, hhead, hlexeme, hc⟩
  · exact eq_false_of_isBlank (fun _ => isBlank_eq_false_of_isNumeral) hblank
  · refine isNumeral_head_eq_false hlexeme (fun value name ht => ?_) hc
    obtain ⟨rest, rfl⟩ := List.head?_eq_some_iff.1 hhead
    rw [ht] at hfits
    cases hfits

/-- No name starts right after a name. -/
theorem stops_isLetter_of_apart (h : Spells folds tokens text) {f : Func}
    (hapart : Apart (.func f) tokens text) : Stops isLetter text := by
  intro c hc
  have hblanks {c : Char} : isBlank c = true → isLetter c = false :=
    eq_false_of_isBlank fun _ => isBlank_eq_false_of_isLetter
  rcases head_of_spells h hc with hblank | ⟨t, lexeme, hhead, hlexeme, hlex⟩
  · exact hblanks hblank
  · by_cases ht : ∃ g, t = .func g
    · obtain ⟨g, rfl⟩ := ht
      have hblank := hapart f g rfl hhead
      rw [Option.mem_def.1 hc] at hblank
      exact hblanks hblank
    · exact isLetter_head_eq_false hlexeme (fun g hg => ht ⟨g, hg⟩) hlex

/-! ## What is read from a spelling -/

/-- A minus sign belongs to a numeral only where an operand is due. -/
theorem signFoldsAfter_le_of_dueAfter? {next : Bool} (h : dueAfter? due t = some next)
    (hfolds : t.signFoldsAfter = true) : next = true := by
  cases t with
  | number | func => cases hfolds
  | operator op =>
    cases due <;> cases h
    rfl
  | paren opening =>
    cases opening with
    | true =>
      cases due <;> cases h
      rfl
    | false => cases hfolds
  | unlisted kind name isBare => exact isBare.elim

/-- Neighbours that fit are read apart. -/
theorem separate_of_fits {next : Bool} (hnext : dueAfter? due t = some next)
    (hdue : folds = true → due = true) (hfits : fits next tokens = true)
    (h : Spells t.signFoldsAfter tokens text) (hapart : Apart t tokens text) :
    Separate folds t text := by
  cases t with
  | number value name =>
    cases due <;> cases hnext
    exact stops_isNumeral_of_fits h hfits
  | func f => exact stops_isLetter_of_apart h hapart
  | operator op =>
    intro _
    cases due <;> cases hnext
    cases folds with
    | false => rfl
    | true => cases hdue rfl
  | paren opening => trivial
  | unlisted kind name isBare => exact isBare.elim

/-- A spelling of tokens that fit is read as the tokens. -/
theorem reads_of_spells (h : Spells folds tokens text) (hdue : folds = true → due = true)
    (hfits : fits due tokens = true) : Reads folds text tokens := by
  induction h generalizing due with
  | nil hgap => exact .done (first?_eq_none_iff.2 hgap)
  | @cons folds t rest gap lexeme text hgap hlexeme hrest hapart ih =>
    obtain ⟨next, hnext, hfits⟩ := (Option.any_eq_true _ _).1 hfits
    have hsep := separate_of_fits hnext hdue hfits hrest hapart
    rw [List.append_assoc]
    exact .token (first?_eq_ok_iff.2 ⟨gap, lexeme, rfl, hgap, hlexeme, hsep⟩)
      (ih (signFoldsAfter_le_of_dueAfter? hnext) hfits)

/-! ## What is read is spelled -/

/-- A name that ends before another name ends before a blank. -/
theorem apart_of_separate (h : Spells t.signFoldsAfter tokens text) (hsep : Separate folds t text) :
    Apart t tokens text := by
  rintro f g rfl hhead
  cases h with
  | nil => cases hhead
  | @cons _ _ rest gap lexeme text hgap hlexeme =>
    cases hhead
    rcases gap with _ | ⟨d, gap⟩
    · cases hlexeme
      -- without a blank the name would go on
      have hstop : Stops isLetter ([] ++ g.name.toList ++ text) := hsep
      cases g <;> exact absurd (hstop _ rfl) (by decide)
    · rw [List.all_cons, Bool.and_eq_true] at hgap
      exact hgap.1

/-- What is read as tokens spells them. -/
theorem spells_of_reads (h : Reads folds text tokens) : Spells folds tokens text := by
  induction h with
  | done h => exact .nil (first?_eq_none_iff.1 h)
  | token h _ ih =>
    obtain ⟨gap, lexeme, rfl, hgap, hlexeme, hsep⟩ := first?_eq_ok_iff.1 h
    rw [← List.append_assoc]
    exact .cons hgap hlexeme ih (apart_of_separate ih hsep)

/-- **A text is read as a sentence when it spells the sentence.** -/
theorem scan_eq_ok_iff_spells {e : Expr} (hsentence : Denotes tokens e) :
    scan text = .ok tokens ↔ Spells true tokens text := by
  rw [scan, scanFrom_eq_ok_iff]
  refine ⟨spells_of_reads, fun h => ?_⟩
  exact reads_of_spells h (fun _ => rfl) (exists_denotes_iff.1 ⟨e, hsentence⟩).1

end

end DeskCalc.Token
