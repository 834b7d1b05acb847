import DeskCalc.Proofs.Result
import DeskCalc.Proofs.Token.Names

/-!
# The first fault of a text

A text that is not read as tokens has one faulty piece that is reached by tokens: what is before it
is read, and no token can be read from it (`Faulty`). The piece is a run of letters that is no
function, a run of digits and points that is no numeral, with the minus sign that belongs to it, or
a character that is part of no token. It decides the error, and there is no other such piece
(`scan_first_fault`).

A later piece that looks faulty does not count, since the text before it holds the first one and is
not read. Nor does a part of a run: what is before the piece may be read, as `sin` is before the
`x` of `sinx`, but then the piece is not the whole run.
-/

namespace DeskCalc.Token

open DeskCalc.Text DeskCalc.Decimal

/-- No token can be read from the piece of a text between `before` and `after`, and the error says
why. `folds` says that a minus sign at the place of the piece belongs to a numeral. -/
inductive Faulty (folds : Prop) (before : List Char) :
    List Char → List Char → ExpressionError → Prop
  /-- All letters that stand together, and they name no function. -/
  | word {run after : List Char} (hrun : MaximalRun isLetter before run after)
    (hname : ∀ f : Func, f.name ≠ .ofList run) :
    Faulty folds before run after (.invalidFunction (.ofList run))
  /-- All digits and points that stand together, and they have no value. -/
  | numeral {run after : List Char} (hrun : MaximalRun isNumeral before run after)
    (hvalue : literal? run = none) : Faulty folds before run after (.invalidToken (.ofList run))
  /-- A minus sign with all blanks after it and all digits and points after these, if there are any.
  The error leaves the blanks out. -/
  | negative {gap run after : List Char} (hfolds : folds) (hgap : gap.all isBlank = true)
    (hblanks : Stops isBlank (run ++ after)) (hrun : run.all isNumeral = true)
    (hstops : Stops isNumeral after) (hvalue : literal? ('-' :: run) = none) :
    Faulty folds before ('-' :: gap ++ run) after (.invalidToken (.ofList ('-' :: run)))
  /-- A character that is no part of a token and no blank. -/
  | character {c : Char} {after : List Char} (hblank : isBlank c = false)
    (hletter : isLetter c = false) (hnumeral : isNumeral c = false)
    (hoperator : ∀ op : Operator, op.symbol ≠ c) (hparen : c ≠ '(' ∧ c ≠ ')') :
    Faulty folds before [c] after (.invalidToken (.singleton c))

/-- The text before the piece is read as tokens, and no token can be read from the piece. -/
structure FaultAt (s before piece after : List Char) (e : ExpressionError) : Prop where
  text_eq : s = before ++ (piece ++ after)
  faulty : ∃ tokens, scan before = .ok tokens ∧
    Faulty (SignFoldsAt tokens tokens.length) before piece after e

section
variable {folds : Bool} {s before before' piece piece' after after' rest rest' : List Char}
  {c : Char} {tokens tokens' : List Token} {cause cause' : ScanError} {e e' : ExpressionError}

/-! ## What is not read -/

/-- A run of letters that is not read names no function. -/
theorem ofWord_eq_error (h : ofWord s = .error cause) :
    (∀ f : Func, f.name ≠ .ofList s) ∧ cause = .unknownName (.ofList s) := by
  unfold ofWord at h
  split at h
  · cases h
  · next hnone =>
    cases h
    refine ⟨fun f hf => ?_, rfl⟩
    rw [← hf, Func.ofName?_name] at hnone
    cases hnone

theorem ofWord_of_ne (h : ∀ f : Func, f.name ≠ .ofList s) :
    ofWord s = .error (.unknownName (.ofList s)) := by
  cases hword : ofWord s with
  | ok t =>
    obtain ⟨f, -, hf⟩ := ofWord_eq_ok hword
    exact absurd hf (h f)
  | error cause => rw [(ofWord_eq_error hword).2]

/-- A numeral that is not read has no value. -/
theorem ofLiteral_eq_error (h : ofLiteral s = .error cause) :
    literal? s = none ∧ cause = .malformedNumber (.ofList s) := by
  unfold ofLiteral at h
  split at h
  · cases h
  · next hnone => cases h; exact ⟨hnone, rfl⟩

theorem ofLiteral_of_none (h : literal? s = none) :
    ofLiteral s = .error (.malformedNumber (.ofList s)) := by
  rw [ofLiteral, h]

/-- A character that is not read is no operator and no parenthesis. -/
theorem ofSymbol?_eq_none_iff :
    ofSymbol? c = none ↔ (∀ op : Operator, op.symbol ≠ c) ∧ c ≠ '(' ∧ c ≠ ')' := by
  constructor
  · intro h
    refine ⟨?_, ?_, ?_⟩
    · rintro op rfl
      cases op <;> cases h
    · rintro rfl
      cases h
    · rintro rfl
      cases h
  · rintro ⟨hop, hopening, hclosing⟩
    rw [ofSymbol?, if_neg hopening, if_neg hclosing, Option.map_eq_none_iff]
    cases hc : Operator.ofSymbol? c with
    | none => rfl
    | some op => exact absurd (Operator.ofSymbol?_eq_some_iff.1 hc) (hop op)

/-! ## Faulty pieces and the token at the front -/

/-- A faulty piece starts with a character that is no blank. -/
theorem Faulty.stops_isBlank {folds : Prop} (h : Faulty folds before piece after e) :
    Stops isBlank (piece ++ after) := by
  cases h with
  | word hrun =>
    obtain ⟨c, tail, rfl⟩ := List.exists_cons_of_ne_nil hrun.ne_nil
    rintro d ⟨⟩
    exact isBlank_eq_false_of_isLetter (List.all_eq_true.1 hrun.all c List.mem_cons_self)
  | numeral hrun => exact stops_isBlank_append hrun.ne_nil hrun.all after
  | negative => rintro d ⟨⟩; decide
  | character hblank => rintro d ⟨⟩; exact hblank

/-- A faulty piece cuts no run where it starts. -/
theorem Faulty.uncut {folds : Prop} (h : Faulty folds before piece after e) :
    Uncut before (piece ++ after) := by
  have hstarts {p : Char → Bool} (h : Stops p before.reverse) (s : List Char) :
      ¬ InsideRun p before s := by
    rw [not_insideRun_iff]
    intro c hc hp
    rw [← List.head?_reverse] at hc
    rw [h c hc] at hp
    cases hp
  cases h with
  | word hrun =>
    refine ⟨hstarts hrun.starts _, not_insideRun_iff.2 fun _ _ _ => ?_⟩
    obtain ⟨c, tail, rfl⟩ := List.exists_cons_of_ne_nil hrun.ne_nil
    rintro d ⟨⟩
    exact isNumeral_eq_false_of_isLetter (List.all_eq_true.1 hrun.all c List.mem_cons_self)
  | numeral hrun =>
    refine ⟨not_insideRun_iff.2 fun _ _ _ => ?_, hstarts hrun.starts _⟩
    obtain ⟨c, tail, rfl⟩ := List.exists_cons_of_ne_nil hrun.ne_nil
    rintro d ⟨⟩
    exact isLetter_eq_false_of_isNumeral (List.all_eq_true.1 hrun.all c List.mem_cons_self)
  | negative => apply uncut_of_stops <;> rintro d ⟨⟩ <;> decide
  | character _ hletter hnumeral => apply uncut_of_stops <;> rintro d ⟨⟩ <;> assumption

/-- The error is found at a faulty piece, and the text after it is left. -/
theorem first?_of_faulty (h : Faulty (folds = true) before piece after e) :
    ∃ cause, first? folds (piece ++ after) = some (.error cause, after) ∧
      cause.toExpressionError = e := by
  cases h with
  | word hrun hname =>
    refine ⟨.unknownName (.ofList piece), ?_, rfl⟩
    rw [first?_word hrun.ne_nil hrun.all hrun.stops, ofWord_of_ne hname]
  | numeral hrun hvalue =>
    refine ⟨.malformedNumber (.ofList piece), ?_, rfl⟩
    rw [first?_numeral hrun.ne_nil hrun.all hrun.stops, ofLiteral_of_none hvalue]
  | @negative gap run after hfolds hgap hblanks hrun hstops hvalue =>
    refine ⟨.malformedNumber (.ofList ('-' :: run)), ?_, rfl⟩
    subst hfolds
    rw [List.cons_append, List.cons_append, List.append_assoc,
      first?_sign hgap hblanks hrun hstops, ofLiteral_of_none hvalue]
  | @character c after hblank hletter hnumeral hoperator hparen =>
    refine ⟨.unexpected c after.length, ?_, rfl⟩
    have hminus : (c == '-') = false := beq_false_of_ne (hoperator .sub).symm
    have hsign : (c == '-' && folds) = false := by rw [hminus, Bool.false_and]
    rw [List.singleton_append, first?, if_neg (by simp [hblank]), if_neg (by simp [hletter]),
      if_neg (by simp [hnumeral]), if_neg (by simp [hsign]),
      ofSymbol?_eq_none_iff.2 ⟨hoperator, hparen⟩]

/-- A run that is not cut where it starts has no character of its class before it. -/
theorem stops_reverse_of_uncut {p : Char → Bool} (h : ¬ InsideRun p before (c :: rest))
    (hc : p c = true) : Stops p before.reverse := by
  intro d hd
  rw [List.head?_reverse] at hd
  cases hp : p d with
  | false => rfl
  | true =>
    rw [not_insideRun_iff.1 h d hd hp c rfl] at hc
    cases hc

/-- Where an error is found at a character that is no blank, a faulty piece starts. -/
theorem exists_faulty_of_cons (hblank : isBlank c = false)
    (h : first? folds (c :: rest) = some (.error cause, after)) (hcut : Uncut before (c :: rest)) :
    ∃ piece, c :: rest = piece ++ after ∧
      Faulty (folds = true) before piece after cause.toExpressionError := by
  have hsplit (p : Char → Bool) (s : List Char) : s.takeWhile p ++ s.dropWhile p = s :=
    List.takeWhile_append_dropWhile
  rw [first?, if_neg (by simp [hblank])] at h
  split at h
  · next hletter =>
    injection h with h
    injection h with hword hafter
    obtain ⟨hname, rfl⟩ := ofWord_eq_error hword
    refine ⟨_, ?_, .word ⟨List.cons_ne_nil _ _, ?_, ?_, ?_⟩ hname⟩
    · rw [← hafter, List.cons_append, hsplit]
    · rw [List.all_cons, hletter, List.all_takeWhile]; rfl
    · exact stops_reverse_of_uncut hcut.letters hletter
    · exact hafter ▸ stops_dropWhile isLetter rest
  split at h
  · next hnumeral =>
    injection h with h
    injection h with hliteral hafter
    obtain ⟨hvalue, rfl⟩ := ofLiteral_eq_error hliteral
    refine ⟨_, ?_, .numeral ⟨List.cons_ne_nil _ _, ?_, ?_, ?_⟩ hvalue⟩
    · rw [← hafter, List.cons_append, hsplit]
    · rw [List.all_cons, hnumeral, List.all_takeWhile]; rfl
    · exact stops_reverse_of_uncut hcut.numerals hnumeral
    · exact hafter ▸ stops_dropWhile isNumeral rest
  split at h
  · next hsign =>
    rw [Bool.and_eq_true, beq_iff_eq] at hsign
    obtain ⟨rfl, hfolds⟩ := hsign
    injection h with h
    injection h with hliteral hafter
    obtain ⟨hvalue, rfl⟩ := ofLiteral_eq_error hliteral
    have hrun := hsplit isNumeral (rest.dropWhile isBlank)
    rw [hafter] at hrun
    have hgap : (rest.takeWhile isBlank).all isBlank = true := List.all_takeWhile
    refine ⟨_, ?_, .negative hfolds hgap ?_ List.all_takeWhile ?_ hvalue⟩
    · rw [List.cons_append, List.cons_append, List.append_assoc, hrun, hsplit]
    · rw [hrun]
      exact stops_dropWhile isBlank rest
    · exact hafter ▸ stops_dropWhile isNumeral _
  · next hletter hnumeral _ =>
    split at h
    · cases h
    · next hsymbol =>
      cases h
      obtain ⟨hoperator, hparen⟩ := ofSymbol?_eq_none_iff.1 hsymbol
      exact ⟨[c], rfl, .character hblank (by simpa using hletter) (by simpa using hnumeral)
        hoperator hparen⟩

/-- Where an error is found there is a faulty piece, after blanks. -/
theorem exists_faulty_of_first? (h : first? folds s = some (.error cause, after))
    (hcut : Uncut before s) :
    ∃ gap piece, s = gap ++ (piece ++ after) ∧ gap.all isBlank = true ∧
      Faulty (folds = true) (before ++ gap) piece after cause.toExpressionError := by
  have hgap : (s.takeWhile isBlank).all isBlank = true := List.all_takeWhile
  have hs : s.takeWhile isBlank ++ s.dropWhile isBlank = s := List.takeWhile_append_dropWhile
  rw [← hs, first?_append_left hgap] at h
  rw [← hs] at hcut
  cases hrest : s.dropWhile isBlank with
  | nil => rw [hrest] at h; cases h
  | cons c rest =>
    rw [hrest] at h hcut
    have hblank : isBlank c = false := stops_dropWhile isBlank s c (by rw [hrest]; rfl)
    obtain ⟨piece, hpiece, hfaulty⟩ := exists_faulty_of_cons hblank h (hcut.skip hgap)
    refine ⟨s.takeWhile isBlank, piece, ?_, hgap, hfaulty⟩
    rw [← hpiece, ← hrest, hs]

/-! ## The first fault of a scan -/

/-- The place after tokens is one where a minus sign belongs to a numeral, or not. -/
theorem foldsAfter_iff : foldsAfter folds tokens = true ↔ FoldsAt folds tokens tokens.length := by
  induction tokens generalizing folds with
  | nil => rfl
  | cons t rest ih => rw [foldsAfter, ih, List.length_cons, foldsAt_cons_succ]

theorem foldsAfter_true_iff :
    foldsAfter true tokens = true ↔ SignFoldsAt tokens tokens.length := by
  rw [foldsAfter_iff, foldsAt_true_iff]

/-- A scan that fails reads tokens from the text before its fault. -/
theorem exists_first?_of_scanFrom (h : scanFrom folds s = .error cause) :
    ∃ before tokens rest after, s = before ++ rest ∧ Uncut before rest ∧
      Reads folds before tokens ∧
      first? (foldsAfter folds tokens) rest = some (.error cause, after) := by
  induction hn : s.length using Nat.strongRecOn generalizing folds s with
  | ind n ih =>
    subst hn
    rw [scanFrom_eq] at h
    split at h
    · cases h
    · next found after hfirst =>
      cases h
      exact ⟨[], [], s, after, rfl, nil_uncut s, .done rfl, hfirst⟩
    · next t rest hfirst =>
      have hrest : scanFrom t.signFoldsAfter rest = .error cause := by
        cases hscan : scanFrom t.signFoldsAfter rest <;> rw [hscan] at h <;> cases h
        rfl
      obtain ⟨before, tokens, rest', after, rfl, hcut, hreads, hfault⟩ :=
        ih _ (length_lt_of_first? hfirst) hrest rfl
      obtain ⟨gap, lexeme, rfl, hgap, hlexeme, hsep⟩ := first?_eq_ok_iff.1 hfirst
      refine ⟨gap ++ (lexeme ++ before), t :: tokens, rest', after, by simp, ?_, ?_, hfault⟩
      · by_cases hne : before = []
        · rw [hne, List.append_nil]
          rw [hne] at hsep
          exact (hsep.uncut hlexeme).prepend hlexeme.ne_nil gap
        · rw [← List.append_assoc]
          exact hcut.prepend hne _
      · exact .token (first?_eq_ok_iff.2 ⟨gap, lexeme, rfl, hgap, hlexeme, hsep.of_append⟩) hreads

/-- Tokens reach one fault of a text only, and stop in front of it at one place. -/
theorem first_fault_unique (h : Reads folds before tokens) (hcut : Uncut before rest)
    (hfault : first? (foldsAfter folds tokens) rest = some (.error cause, after))
    (hblank : Stops isBlank rest) (h' : Reads folds before' tokens') (hcut' : Uncut before' rest')
    (hfault' : first? (foldsAfter folds tokens') rest' = some (.error cause', after'))
    (hblank' : Stops isBlank rest') (heq : before ++ rest = before' ++ rest') :
    rest = rest' ∧ after = after' ∧ cause = cause' := by
  induction h generalizing before' tokens' with
  | @done folds before hdone =>
    have hgap := first?_eq_none_iff.1 hdone
    have hfirst : first? folds (before ++ rest) = some (.error cause, after) := by
      rw [first?_append_left hgap]
      exact hfault
    cases h' with
    | done hdone' =>
      have hgap' := first?_eq_none_iff.1 hdone'
      have hrest : rest = rest' := by
        rw [← dropWhile_run hgap hblank, heq, dropWhile_run hgap' hblank']
      rw [heq, first?_append_left hgap'] at hfirst
      cases hfirst.symm.trans hfault'
      exact ⟨hrest, rfl, rfl⟩
    | token hfirst' _ =>
      rw [heq, (first?_append hfirst' hcut').1] at hfirst
      cases hfirst
  | token hfirst _ ih =>
    obtain ⟨htoken, hcut⟩ := first?_append hfirst hcut
    rw [heq] at htoken
    cases h' with
    | done hdone' =>
      rw [first?_append_left (first?_eq_none_iff.1 hdone')] at htoken
      cases htoken.symm.trans hfault'
    | token hfirst' hreads' =>
      obtain ⟨htoken', hcut'⟩ := first?_append hfirst' hcut'
      rw [htoken'] at htoken
      simp only [Option.some.injEq, Prod.mk.injEq, Except.ok.injEq] at htoken
      obtain ⟨rfl, heq⟩ := htoken
      exact ih hcut hfault hreads' hcut' hfault' heq.symm

/-- A scan that fails stops at a faulty piece. -/
theorem exists_faultAt_of_scan (h : scan s = .error cause) :
    ∃ before piece after, FaultAt s before piece after cause.toExpressionError := by
  obtain ⟨before, tokens, rest, after, rfl, hcut, hreads, hfault⟩ := exists_first?_of_scanFrom h
  obtain ⟨gap, piece, rfl, hgap, hfaulty⟩ := exists_faulty_of_first? hfault hcut
  have hgapcut : Uncut before gap := by
    have hnil := (uncut_nil before).blanks hgap
    rwa [List.append_nil] at hnil
  have hbefore : Reads true (before ++ gap) (tokens ++ []) :=
    hreads.append hgapcut (.done (first?_eq_none hgap))
  rw [List.append_nil] at hbefore
  rw [foldsAfter_true_iff] at hfaulty
  exact ⟨before ++ gap, piece, after, (List.append_assoc _ _ _).symm, tokens,
    scanFrom_eq_ok_iff.2 hbefore, hfaulty⟩

/-- A faulty piece in a text, as it is met by the scan. -/
theorem FaultAt.exists_reads (h : FaultAt s before piece after e) :
    ∃ tokens cause, Reads true before tokens ∧ Uncut before (piece ++ after) ∧
      first? (foldsAfter true tokens) (piece ++ after) = some (.error cause, after) ∧
      Stops isBlank (piece ++ after) ∧ cause.toExpressionError = e := by
  obtain ⟨tokens, hscan, hfaulty⟩ := h.faulty
  have hcut := hfaulty.uncut
  have hblank := hfaulty.stops_isBlank
  rw [← foldsAfter_true_iff] at hfaulty
  obtain ⟨cause, hfault, he⟩ := first?_of_faulty hfaulty
  exact ⟨tokens, cause, scanFrom_eq_ok_iff.1 hscan, hcut, hfault, hblank, he⟩

/-- A text with a faulty piece is not read. -/
theorem FaultAt.scan_eq (h : FaultAt s before piece after e) :
    (scan s).mapError ScanError.toExpressionError = .error e := by
  obtain ⟨tokens, cause, hreads, hcut, hfault, -, he⟩ := h.exists_reads
  rw [h.text_eq, scan, scanFrom_append hreads hcut, scanFrom_eq, hfault]
  exact congrArg Except.error he

theorem FaultAt.unique (h : FaultAt s before piece after e)
    (h' : FaultAt s before' piece' after' e') :
    before = before' ∧ piece = piece' ∧ after = after' ∧ e = e' := by
  obtain ⟨tokens, cause, hreads, hcut, hfault, hblank, rfl⟩ := h.exists_reads
  obtain ⟨tokens', cause', hreads', hcut', hfault', hblank', rfl⟩ := h'.exists_reads
  have heq := h.text_eq.symm.trans h'.text_eq
  obtain ⟨hrest, rfl, rfl⟩ :=
    first_fault_unique hreads hcut hfault hblank hreads' hcut' hfault' hblank' heq
  rw [← hrest] at heq
  exact ⟨List.append_cancel_right heq, List.append_cancel_right hrest, rfl, rfl⟩

/-- **A text is refused for its first fault.** It is not read exactly when it has a faulty piece
that is reached by tokens. The piece decides the error, and the text has no other such piece. -/
theorem scan_first_fault (s : List Char) :
    (∀ e, (scan s).mapError ScanError.toExpressionError = .error e ↔
      ∃ before piece after, FaultAt s before piece after e) ∧
    ∀ before piece after e before' piece' after' e', FaultAt s before piece after e →
      FaultAt s before' piece' after' e' →
      before = before' ∧ piece = piece' ∧ after = after' ∧ e = e' := by
  refine ⟨fun e => ⟨fun h => ?_, ?_⟩, fun _ _ _ _ _ _ _ _ h h' => h.unique h'⟩
  · obtain ⟨cause, hscan, rfl⟩ := exists_of_mapError_eq_error h
    exact exists_faultAt_of_scan hscan
  · rintro ⟨before, piece, after, hfault⟩
    exact hfault.scan_eq

/-- A minus sign with a blank after it and two points in its numeral, in front of another fault. -/
theorem scan_first_fault_after_sign :
    FaultAt "3 * - 1.2.3 foo".toList "3 * ".toList "- 1.2.3".toList " foo".toList
        (.invalidToken "-1.2.3") ∧
      (scan "3 * - 1.2.3 foo".toList).mapError ScanError.toExpressionError =
        .error (.invalidToken "-1.2.3") := by
  obtain ⟨three, hthree⟩ := Option.isSome_iff_exists.1 (show (literal? ['3']).isSome from rfl)
  have times : Reads false " * ".toList _ := .token rfl (.done rfl)
  have before : Reads true "3 * ".toList _ := .token (first?_of_literal? hthree rfl) times
  have hgap : [' '].all isBlank = true := rfl
  have hblanks : Stops isBlank "1.2.3 foo".toList := by rintro c ⟨⟩; decide
  have hstops : Stops isNumeral " foo".toList := by rintro c ⟨⟩; decide
  have hfolds : SignFoldsAt [.number three.toFloat "3", .operator .mul] 2 :=
    .inr ⟨1, _, rfl, rfl, .inr ⟨_, rfl⟩⟩
  have hfault : FaultAt "3 * - 1.2.3 foo".toList "3 * ".toList "- 1.2.3".toList " foo".toList
      (.invalidToken "-1.2.3") :=
    ⟨rfl, _, scanFrom_eq_ok_iff.2 before, .negative hfolds hgap hblanks rfl hstops rfl⟩
  exact ⟨hfault, ((scan_first_fault _).1 _).2 ⟨_, _, _, hfault⟩⟩

end

end DeskCalc.Token
