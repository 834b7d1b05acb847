import DeskCalc.Proofs.Token.Parentheses
import DeskCalc.Proofs.Token.Runs

/-!
# Reading tokens, one at a time

A scan is `first?` over and over (`scanFrom_eq`). A scan that succeeds is followed token by token
with `Reads`, on which the later proofs are inductions; none of them opens the recursion of the
scan, which is on the length of the text.

Two facts are read off: a text is read on behind the tokens of what is before it
(`scanFrom_append`), and the parentheses of a text that is read are those of its tokens
(`balanced_of_scan`).
-/

namespace DeskCalc.Token

open DeskCalc.Text DeskCalc.Decimal

section
variable {folds : Bool} {s run rest tail gap lexeme : List Char} {t : Token} {tokens : List Token}

/-- A scan reads the first token and goes on after it. -/
theorem scanFrom_eq (folds : Bool) (s : List Char) :
    scanFrom folds s =
      match first? folds s with
      | none => .ok []
      | some (.error cause, _) => .error cause
      | some (.ok t, rest) => (scanFrom t.signFoldsAfter rest).map (t :: ·) := by
  induction s with
  | nil => rw [scanFrom, first?]
  | cons c rest ih =>
    rw [scanFrom, first?]
    split
    · exact ih
    split
    · cases h : ofWord (c :: rest.takeWhile isLetter) with
      | error cause => rfl
      | ok t => obtain ⟨f, rfl, -⟩ := ofWord_eq_ok h; rfl
    split
    · cases h : ofLiteral (c :: rest.takeWhile isNumeral) with
      | error cause => rfl
      | ok t => obtain ⟨value, -, rfl⟩ := ofLiteral_eq_ok h; rfl
    split
    · cases h : ofLiteral ('-' :: (rest.dropWhile isBlank).takeWhile isNumeral) with
      | error cause => simp only [h]; rfl
      | ok t => obtain ⟨value, -, rfl⟩ := ofLiteral_eq_ok h; simp only [h]; rfl
    · cases ofSymbol? c <;> rfl

/-- A text is read as tokens. -/
inductive Reads : Bool → List Char → List Token → Prop
  | done {folds : Bool} {s : List Char} (h : first? folds s = none) : Reads folds s []
  | token {folds : Bool} {s rest : List Char} {t : Token} {tokens : List Token}
    (h : first? folds s = some (.ok t, rest)) (hrest : Reads t.signFoldsAfter rest tokens) :
    Reads folds s (t :: tokens)

/-- A scan succeeds as a text is read. -/
theorem scanFrom_eq_ok_iff : scanFrom folds s = .ok tokens ↔ Reads folds s tokens := by
  constructor
  · intro h
    induction tokens generalizing folds s with
    | nil =>
      rw [scanFrom_eq] at h
      split at h
      · next hfirst => exact .done hfirst
      · cases h
      · next t rest _ =>
        cases hrest : scanFrom t.signFoldsAfter rest <;> rw [hrest] at h <;> cases h
    | cons t tokens ih =>
      rw [scanFrom_eq] at h
      split at h
      · cases h
      · cases h
      · next u rest hfirst =>
        cases hrest : scanFrom u.signFoldsAfter rest with
        | error cause => rw [hrest] at h; cases h
        | ok tail =>
          rw [hrest] at h
          cases h
          exact .token hfirst (ih hrest)
  · intro h
    induction h with
    | done h => rw [scanFrom_eq, h]
    | token h _ ih => rw [scanFrom_eq, h]; simp only [ih]; rfl

/-- A token takes characters from a text. -/
theorem length_lt_of_first? (h : first? folds s = some (.ok t, rest)) : rest.length < s.length := by
  obtain ⟨gap, lexeme, rfl, -, hlexeme, -⟩ := first?_eq_ok_iff.1 h
  have hpos := List.length_pos_iff.2 hlexeme.ne_nil
  simp only [List.length_append]
  omega

/-- Blanks in front are skipped. -/
theorem scanFrom_append_left (hgap : gap.all isBlank = true) :
    scanFrom folds (gap ++ s) = scanFrom folds s := by
  rw [scanFrom_eq, first?_append_left hgap, ← scanFrom_eq]

/-! ## A text after another one -/

/-- A minus sign after the tokens belongs to a numeral, when one before them does if `folds`
holds. -/
def foldsAfter (folds : Bool) : List Token → Bool
  | [] => folds
  | t :: rest => foldsAfter t.signFoldsAfter rest

/-- What is after a text that is read is read as it is alone, but for the minus sign, if the place
between the two cuts no run. -/
theorem scanFrom_append (h : Reads folds s tokens) (hcut : Uncut s tail) :
    scanFrom folds (s ++ tail) = (scanFrom (foldsAfter folds tokens) tail).map (tokens ++ ·) := by
  induction h with
  | @done folds s h =>
    rw [scanFrom_append_left (first?_eq_none_iff.1 h), foldsAfter]
    cases scanFrom folds tail <;> rfl
  | token h _ ih =>
    obtain ⟨hfirst, hrest⟩ := first?_append h hcut
    rw [scanFrom_eq, hfirst]
    simp only [ih hrest, foldsAfter]
    cases scanFrom _ tail <;> rfl

/-- Two texts that are read one after the other are read as one. -/
theorem Reads.append {after : List Token} (h : Reads folds s tokens) (hcut : Uncut s tail)
    (hrest : Reads (foldsAfter folds tokens) tail after) :
    Reads folds (s ++ tail) (tokens ++ after) := by
  rw [← scanFrom_eq_ok_iff, scanFrom_append h hcut, scanFrom_eq_ok_iff.2 hrest]
  rfl

/-- A closing parenthesis is read after what is before it. -/
theorem Reads.append_closing {after : List Token} (h : Reads folds s tokens)
    (hrest : Reads false rest after) :
    Reads folds (s ++ ')' :: rest) (tokens ++ .paren false :: after) := by
  have hcut : Uncut s (')' :: rest) := by
    apply uncut_of_stops <;> rintro c ⟨⟩ <;> decide
  exact h.append hcut (.token (first?_of_lexeme (.paren false) trivial) hrest)

/-- In parentheses a text is read as it is alone: a minus sign at its start belongs to a numeral in
both places. -/
theorem Reads.parenthesized {after : List Token} (h : Reads true s tokens)
    (hrest : Reads false rest after) :
    Reads folds ('(' :: (s ++ ')' :: rest)) (.paren true :: (tokens ++ .paren false :: after)) :=
  .token (first?_of_lexeme (.paren true) trivial) (h.append_closing hrest)

/-! ## Parentheses -/

/-- A character of a class without parentheses leaves the count. -/
theorem balancedFrom_cons {p : Char → Bool} (hopen : p '(' = false) (hclose : p ')' = false)
    {c : Char} (hc : p c = true) (depth : Nat) (rest : List Char) :
    balancedFrom depth (c :: rest) = balancedFrom depth rest := by
  have hopen : c ≠ '(' := by rintro rfl; rw [hopen] at hc; cases hc
  have hclose : c ≠ ')' := by rintro rfl; rw [hclose] at hc; cases hc
  rw [balancedFrom.eq_def]
  split <;> simp_all

theorem balancedFrom_append {p : Char → Bool} (hopen : p '(' = false) (hclose : p ')' = false)
    (hrun : run.all p = true) (depth : Nat) (rest : List Char) :
    balancedFrom depth (run ++ rest) = balancedFrom depth rest := by
  induction run with
  | nil => rfl
  | cons c run ih =>
    rw [List.all_cons, Bool.and_eq_true] at hrun
    rw [List.cons_append, balancedFrom_cons hopen hclose hrun.1, ih hrun.2]

theorem balancedFrom_blanks (hgap : gap.all isBlank = true) (depth : Nat) (rest : List Char) :
    balancedFrom depth (gap ++ rest) = balancedFrom depth rest :=
  balancedFrom_append (by decide) (by decide) hgap depth rest

theorem balancedFrom_numeral (hrun : run.all isNumeral = true) (depth : Nat) (rest : List Char) :
    balancedFrom depth (run ++ rest) = balancedFrom depth rest :=
  balancedFrom_append (by decide) (by decide) hrun depth rest

/-- A parenthesis is written alone, and what writes another token holds none. -/
theorem balancedFrom_lexeme (h : Lexeme folds t lexeme) (depth : Nat) (rest : List Char) :
    balancedFrom depth (lexeme ++ rest) =
      (!isStray depth t && balancedFrom (depthAfter depth t) rest) := by
  cases h with
  | numeral hrun => exact balancedFrom_numeral hrun _ _
  | negative _ hgap hrun =>
    have hsign := balancedFrom_cons (p := (· == '-')) rfl rfl (c := '-') rfl depth
    rw [List.cons_append, List.cons_append, List.append_assoc, hsign, balancedFrom_blanks hgap]
    exact balancedFrom_numeral hrun _ _
  | operator op =>
    exact balancedFrom_cons (p := (· == op.symbol)) (by cases op <;> rfl) (by cases op <;> rfl)
      (beq_self_eq_true _) _ _
  | func f => exact balancedFrom_append (by decide) (by decide) (all_isLetter_name f) _ _
  | paren opening =>
    cases opening with
    | true => simp [balancedFrom, isStray, isClosing, depthAfter, GenToken.isOpening]
    | false =>
      cases depth <;> simp [balancedFrom, isStray, isClosing, depthAfter, GenToken.isOpening]

/-- The parentheses of a text that is read are those of its tokens. -/
theorem balancedFrom_of_reads (h : Reads folds s tokens) (depth : Nat) :
    balancedFrom depth s = matchedFrom depth tokens := by
  induction h generalizing depth with
  | @done _ s h =>
    have := balancedFrom_blanks (first?_eq_none_iff.1 h) depth []
    rwa [List.append_nil] at this
  | token h _ ih =>
    obtain ⟨gap, lexeme, rfl, hgap, hlexeme, -⟩ := first?_eq_ok_iff.1 h
    rw [balancedFrom_blanks hgap, balancedFrom_lexeme hlexeme, ih]
    rfl

/-- The parentheses of a text with tokens balance as those of the tokens do. -/
theorem balanced_of_scan (h : scan s = .ok tokens) : balanced s = true ↔ Balanced tokens := by
  rw [balanced, balancedFrom_of_reads (scanFrom_eq_ok_iff.1 h), matchedFrom_zero_iff]

end

end DeskCalc.Token
