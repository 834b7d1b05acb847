import DeskCalc.Proofs.Token.Scanning

/-!
# Blanks in a text

Blanks separate tokens and mean nothing else: put anywhere but inside a name or a numeral, they
change nothing that a user sees of a scan (`scan_insert_blanks`). The two texts are read side by
side (`SameFirst`). Up to the blanks they give the same tokens. A minus sign right before the blanks
is where they differ in what is looked at next: the sign skips the blanks itself, so it finds the
same numeral in both texts, or none in both.

Trimming a text is the case of blanks at its ends (`scan_trim`). What is not blank of a text is
`visible`, and trimming leaves that as it is.
-/

namespace DeskCalc.Token

open DeskCalc.Text DeskCalc.Decimal

/-- The characters that are no blanks. -/
def visible (s : List Char) : List Char :=
  s.filter (!isBlank ·)

section
variable {folds : Bool} {s before gap after rest : List Char} {tokens : List Token}

/-- What is read first from a text before `after`, and what from the same text before a gap and
`after`. Faults may differ in the place that they are found at. -/
inductive SameFirst (gap after : List Char) : Option (Except ScanError Token × List Char) →
    Option (Except ScanError Token × List Char) → Prop
  /-- The gap was skipped, or it was not reached. -/
  | same (r : Option (Except ScanError Token × List Char)) : SameFirst gap after r r
  /-- The gap is still to come. -/
  | token {t : Token} {rest : List Char} (hcut : Uncut rest after) :
    SameFirst gap after (some (.ok t, rest ++ after)) (some (.ok t, rest ++ (gap ++ after)))
  | fault {a b : ScanError} {rest rest' : List Char}
    (h : a.toExpressionError = b.toExpressionError) :
    SameFirst gap after (some (.error a, rest)) (some (.error b, rest'))

theorem SameFirst.of_uncut (hcut : Uncut rest after) (gap : List Char)
    (r : Except ScanError Token) :
    SameFirst gap after (some (r, rest ++ after)) (some (r, rest ++ (gap ++ after))) := by
  cases r with
  | error cause => exact .fault rfl
  | ok t => exact .token hcut

/-- Blanks that are put where no run is cut do not change what is read first. -/
theorem sameFirst_insert (hgap : gap.all isBlank = true) (hcut : Uncut s after) :
    SameFirst gap after (first? folds (s ++ after)) (first? folds (s ++ (gap ++ after))) := by
  induction s with
  | nil =>
    rw [List.nil_append, List.nil_append, first?_append_left hgap]
    exact .same _
  | cons c s ih =>
    have hcons : Uncut ([c] ++ s) after := hcut
    have hrest : Uncut s after := hcons.of_append
    have hfar := hcut.blanks hgap
    rw [List.cons_append, List.cons_append, first?, first?]
    split
    · exact ih hrest
    split
    · next hletter =>
      rw [takeWhile_append_of_cons hletter hcut.letters,
        takeWhile_append_of_cons hletter hfar.letters,
        dropWhile_append_of_cons hletter hcut.letters,
        dropWhile_append_of_cons hletter hfar.letters]
      exact .of_uncut (hrest.dropWhile _) gap _
    split
    · next hnumeral =>
      rw [takeWhile_append_of_cons hnumeral hcut.numerals,
        takeWhile_append_of_cons hnumeral hfar.numerals,
        dropWhile_append_of_cons hnumeral hcut.numerals,
        dropWhile_append_of_cons hnumeral hfar.numerals]
      exact .of_uncut (hrest.dropWhile _) gap _
    split
    · rw [List.dropWhile_append, List.dropWhile_append]
      have hrun := hrest.dropWhile isBlank
      cases hblanks : s.dropWhile isBlank with
      | nil =>
        -- only blanks are between the sign and the gap, and the sign skips both
        rw [List.isEmpty_nil, if_pos rfl, if_pos rfl,
          List.dropWhile_append_of_pos (List.all_eq_true.1 hgap)]
        exact .same _
      | cons d run =>
        rw [hblanks] at hrun
        have hne := List.cons_ne_nil d run
        simp only [List.isEmpty_cons, Bool.false_eq_true, if_false]
        rw [takeWhile_append_of_uncut hne hrun.numerals,
          takeWhile_append_of_uncut hne (hrun.blanks hgap).numerals,
          dropWhile_append_of_uncut hne hrun.numerals,
          dropWhile_append_of_uncut hne (hrun.blanks hgap).numerals]
        exact .of_uncut (hrun.dropWhile _) gap _
    · cases ofSymbol? c with
      | some t => exact .token hrest
      | none => exact .fault rfl

/-- Blanks that are put where no run is cut do not change what a user sees of a scan. -/
theorem scanFrom_insert_blanks (hgap : gap.all isBlank = true) (hcut : Uncut s after) :
    (scanFrom folds (s ++ (gap ++ after))).mapError ScanError.toExpressionError =
      (scanFrom folds (s ++ after)).mapError ScanError.toExpressionError := by
  induction hn : (s ++ after).length using Nat.strongRecOn generalizing folds s with
  | ind n ih =>
    subst hn
    have hsame : SameFirst gap after (first? folds (s ++ after))
      (first? folds (s ++ (gap ++ after))) := sameFirst_insert hgap hcut
    rw [scanFrom_eq, scanFrom_eq folds (s ++ after)]
    generalize hfirst : first? folds (s ++ after) = first,
      first? folds (s ++ (gap ++ after)) = second at hsame
    cases hsame with
    | same => rfl
    | @token t rest hcut =>
      have hmap (r : Except ScanError (List Token)) :
          (r.map (t :: ·)).mapError ScanError.toExpressionError =
            (r.mapError ScanError.toExpressionError).map (t :: ·) := by cases r <;> rfl
      have hrest : (scanFrom t.signFoldsAfter (rest ++ (gap ++ after))).mapError
          ScanError.toExpressionError =
          (scanFrom t.signFoldsAfter (rest ++ after)).mapError ScanError.toExpressionError :=
        ih _ (length_lt_of_first? hfirst) hcut rfl
      exact (hmap _).trans ((congrArg _ hrest).trans (hmap _).symm)
    | fault h => exact congrArg Except.error h.symm

/-- **Blanks mean nothing outside names and numerals.** Put at any place that is not strictly inside
a run of letters or a run of digits and points, they leave the tokens, or the error. -/
theorem scan_insert_blanks (hletters : ¬ InsideRun isLetter before after)
    (hnumerals : ¬ InsideRun isNumeral before after) (hgap : gap.all isBlank = true) :
    (scan (before ++ gap ++ after)).mapError ScanError.toExpressionError =
      (scan (before ++ after)).mapError ScanError.toExpressionError := by
  rw [List.append_assoc]
  exact scanFrom_insert_blanks hgap ⟨hletters, hnumerals⟩

/-- Blanks between a minus sign and the numeral that it belongs to, in a text with a fault behind
them. -/
theorem scan_insert_blanks_after_sign :
    ¬ InsideRun isLetter "3*-".toList "2x".toList ∧
      ¬ InsideRun isNumeral "3*-".toList "2x".toList ∧ " \t".toList.all isBlank = true ∧
      (scan "3*- \t2x".toList).mapError ScanError.toExpressionError =
        (scan "3*-2x".toList).mapError ScanError.toExpressionError := by
  have hletters : ¬ InsideRun isLetter "3*-".toList "2x".toList := by
    rw [not_insideRun_iff]
    rintro c ⟨⟩ hc
    exact absurd hc (by decide)
  have hnumerals : ¬ InsideRun isNumeral "3*-".toList "2x".toList := by
    rw [not_insideRun_iff]
    rintro c ⟨⟩ hc
    exact absurd hc (by decide)
  have hgap : " \t".toList.all isBlank = true := by decide
  exact ⟨hletters, hnumerals, hgap, scan_insert_blanks hletters hnumerals hgap⟩

/-! ## Blanks at the ends -/

/-- What is trimmed is blank. -/
theorem exists_eq_append_trim (s : List Char) :
    ∃ before after : List Char, s = before ++ trim s ++ after ∧
      before.all isBlank = true ∧ after.all isBlank = true := by
  have hfront := List.takeWhile_append_dropWhile (p := isBlank) (l := s)
  have hback := List.takeWhile_append_dropWhile (p := isBlank) (l := (s.dropWhile isBlank).reverse)
  refine ⟨s.takeWhile isBlank, ((s.dropWhile isBlank).reverse.takeWhile isBlank).reverse, ?_,
    List.all_takeWhile, by rw [List.all_reverse]; exact List.all_takeWhile⟩
  rw [trim, List.append_assoc, ← List.reverse_append, hback, List.reverse_reverse, hfront]

/-- **Trimming changes nothing that a user sees of a scan.** -/
theorem scan_trim (s : List Char) :
    (scan (trim s)).mapError ScanError.toExpressionError =
      (scan s).mapError ScanError.toExpressionError := by
  obtain ⟨before, after, hs, hbefore, hafter⟩ := exists_eq_append_trim s
  rw [List.append_assoc] at hs
  have hleft : scan s = scan (trim s ++ after) :=
    (congrArg scan hs).trans (scanFrom_append_left hbefore)
  have hright : (scan (trim s ++ (after ++ []))).mapError ScanError.toExpressionError =
      (scan (trim s ++ [])).mapError ScanError.toExpressionError :=
    scanFrom_insert_blanks hafter (uncut_nil (trim s))
  rw [List.append_nil, List.append_nil] at hright
  rw [hleft]
  exact hright.symm

/-- A trimmed text has the tokens of the text. -/
theorem scan_trim_eq_ok_iff {s : List Char} : scan (trim s) = .ok tokens ↔ scan s = .ok tokens := by
  have h := scan_trim s
  constructor <;> intro hscan <;> rw [hscan] at h
  · cases hs : scan s <;> rw [hs] at h <;> cases h; rfl
  · cases hs : scan (trim s) <;> rw [hs] at h <;> cases h; rfl

/-! ## Blanks left out -/

theorem visible_append (a b : List Char) : visible (a ++ b) = visible a ++ visible b :=
  List.filter_append a b

theorem visible_blanks (h : gap.all isBlank = true) : visible gap = [] := by
  refine List.filter_eq_nil_iff.2 fun c hc => ?_
  simp [List.all_eq_true.1 h c hc]

/-- A run of characters that are no blanks is kept. -/
theorem visible_run {p : Char → Bool} {run : List Char} (hp : ∀ c, p c = true → isBlank c = false)
    (hrun : run.all p = true) : visible run = run := by
  refine List.filter_eq_self.2 fun c hc => ?_
  simp [hp c (List.all_eq_true.1 hrun c hc)]

theorem visible_flatten (pieces : List (List Char)) :
    visible pieces.flatten = pieces.flatMap visible := by
  rw [visible, List.filter_flatten, List.flatMap_def]
  rfl

theorem visible_trim (s : List Char) : visible (trim s) = visible s := by
  obtain ⟨before, after, hs, hbefore, hafter⟩ := exists_eq_append_trim s
  calc visible (trim s) = visible (before ++ trim s ++ after) := by
        rw [visible_append, visible_append, visible_blanks hbefore, visible_blanks hafter,
          List.nil_append, List.append_nil]
    _ = visible s := congrArg visible hs.symm

end

end DeskCalc.Token
