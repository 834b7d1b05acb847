import DeskCalc.Token.Scan

/-!
# The token at the front of a text

One step of a scan. `first?` reads a token from the front of a text and says what is left of it;
`Lexeme` says with which characters a token is written. The two are the same thing
(`first?_eq_ok_iff`): a token is read where blanks and the characters of the token are in front, and
what is after them does not continue the token (`Separate`). So proofs about what is read are by
cases on `Lexeme` and do not open the scan.
-/

namespace DeskCalc.Token

open DeskCalc.Text DeskCalc.Decimal

/-- The token at the front of a text after its blanks, or the fault there, and the text after it. -/
def first? (signFolds : Bool) : List Char → Option (Except ScanError Token × List Char)
  | [] => none
  | c :: rest =>
    if isBlank c then first? signFolds rest
    else if isLetter c then
      some (ofWord (c :: rest.takeWhile isLetter), rest.dropWhile isLetter)
    else if isNumeral c then
      some (ofLiteral (c :: rest.takeWhile isNumeral), rest.dropWhile isNumeral)
    else if c == '-' && signFolds then
      let run := rest.dropWhile isBlank
      some (ofLiteral ('-' :: run.takeWhile isNumeral), run.dropWhile isNumeral)
    else
      match ofSymbol? c with
      | some t => some (.ok t, rest)
      | none => some (.error (.unexpected c rest.length), rest)

/-- The characters that write a token. `folds` says whether a minus sign belongs to a numeral
there. -/
inductive Lexeme (folds : Bool) : Token → List Char → Prop
  /-- A run of digits and points that has a value. -/
  | numeral {run : List Char} {value : Binary64} (hrun : run.all isNumeral = true)
    (hvalue : literal? run = some value) :
    Lexeme folds (.number value.toFloat (.ofList run)) run
  /-- The same after a minus sign and blanks, which the token leaves out. -/
  | negative {gap run : List Char} {value : Binary64} (hfolds : folds = true)
    (hgap : gap.all isBlank = true) (hrun : run.all isNumeral = true)
    (hvalue : literal? ('-' :: run) = some value) :
    Lexeme folds (.number value.toFloat (.ofList ('-' :: run))) ('-' :: gap ++ run)
  | operator (op : Operator) : Lexeme folds (.operator op) [op.symbol]
  | func (f : Func) : Lexeme folds (.func f) f.name.toList
  | paren (opening : Bool) : Lexeme folds (.paren opening) [if opening then '(' else ')']

/-- No character at the front passes the test. -/
def Stops (p : Char → Bool) (s : List Char) : Prop :=
  ∀ c ∈ s.head?, p c = false

/-- The text after a token does not continue it, and a minus sign that is an operator is not where
it belongs to a numeral. -/
def Separate (folds : Bool) (t : Token) (rest : List Char) : Prop :=
  match t with
  | .number .. => Stops isNumeral rest
  | .func _ => Stops isLetter rest
  | .operator op => op = .sub → folds = false
  | _ => True

section
variable {folds : Bool} {s run rest gap lexeme : List Char} {t : Token}

/-! ## Runs of characters -/

theorem takeWhile_append_of_stops {p : Char → Bool} (h : Stops p rest) (s : List Char) :
    (s ++ rest).takeWhile p = s.takeWhile p := by
  induction s with
  | nil =>
    cases rest with
    | nil => rfl
    | cons c rest => exact List.takeWhile_cons_of_neg (by simp [h c rfl])
  | cons c s ih => rw [List.cons_append, List.takeWhile_cons, List.takeWhile_cons, ih]

theorem dropWhile_append_of_stops {p : Char → Bool} (h : Stops p rest) (s : List Char) :
    (s ++ rest).dropWhile p = s.dropWhile p ++ rest := by
  induction s with
  | nil =>
    cases rest with
    | nil => rfl
    | cons c rest => exact List.dropWhile_cons_of_neg (by simp [h c rfl])
  | cons c s ih =>
    rw [List.cons_append, List.dropWhile_cons, List.dropWhile_cons, ih]
    split <;> rfl

theorem takeWhile_run {p : Char → Bool} (hrun : run.all p = true) (hstop : Stops p rest) :
    (run ++ rest).takeWhile p = run := by
  have hrest : rest.takeWhile p = [] := takeWhile_append_of_stops hstop []
  rw [List.takeWhile_append_of_pos (List.all_eq_true.1 hrun), hrest, List.append_nil]

theorem dropWhile_run {p : Char → Bool} (hrun : run.all p = true) (hstop : Stops p rest) :
    (run ++ rest).dropWhile p = rest := by
  have hrest : rest.dropWhile p = rest := dropWhile_append_of_stops hstop []
  rw [List.dropWhile_append_of_pos (List.all_eq_true.1 hrun), hrest]

theorem stops_nil (p : Char → Bool) : Stops p [] := by
  intro c hc
  cases hc

theorem stops_dropWhile (p : Char → Bool) (s : List Char) : Stops p (s.dropWhile p) := by
  intro c hc
  have := List.head?_dropWhile_not p s
  rwa [Option.mem_def.1 hc] at this

/-- A numeral holds no blank. -/
theorem isBlank_eq_false_of_isNumeral {c : Char} (h : isNumeral c = true) : isBlank c = false := by
  rcases Bool.or_eq_true_iff.1 h with h | h
  · exact isBlank_eq_false_of_isDigit h
  · rw [eq_of_beq h]; decide

/-- A numeral holds no letter. -/
theorem isLetter_eq_false_of_isNumeral {c : Char} (h : isNumeral c = true) :
    isLetter c = false := by
  rcases Bool.or_eq_true_iff.1 h with h | h
  · exact isLetter_eq_false_of_isDigit h
  · rw [eq_of_beq h]; decide

theorem eq_false_of_isBlank {p : Char → Bool} (hp : ∀ c, p c = true → isBlank c = false) {c : Char}
    (hblank : isBlank c = true) : p c = false := by
  cases h : p c with
  | false => rfl
  | true => rw [hp c h] at hblank; cases hblank

/-- Blanks end a run of characters among which there is none. -/
theorem stops_blanks {p : Char → Bool} (hp : ∀ c, p c = true → isBlank c = false)
    (hgap : gap.all isBlank = true) : Stops p gap := by
  intro c hc
  exact eq_false_of_isBlank hp (List.all_eq_true.1 hgap c (List.mem_of_mem_head? hc))

/-- A numeral starts with no blank. -/
theorem stops_isBlank_append (hne : run ≠ []) (hrun : run.all isNumeral = true)
    (rest : List Char) : Stops isBlank (run ++ rest) := by
  obtain ⟨c, tail, rfl⟩ := List.exists_cons_of_ne_nil hne
  rw [List.all_cons, Bool.and_eq_true] at hrun
  rintro d ⟨⟩
  exact isBlank_eq_false_of_isNumeral hrun.1

/-! ## What a run is read as -/

/-- What a run of letters is read as. -/
theorem ofWord_eq_ok (h : ofWord s = .ok t) : ∃ f : Func, t = .func f ∧ f.name = .ofList s := by
  unfold ofWord at h
  split at h
  · next f hf =>
    cases h
    exact ⟨f, rfl, Func.ofName?_eq_some_iff.1 hf⟩
  · cases h

/-- What a numeral is read as. -/
theorem ofLiteral_eq_ok (h : ofLiteral s = .ok t) :
    ∃ value, literal? s = some value ∧ t = .number value.toFloat (.ofList s) := by
  unfold ofLiteral at h
  split at h
  · next value hvalue =>
    cases h
    exact ⟨value, hvalue, rfl⟩
  · cases h

/-- What a character is read as. -/
theorem ofSymbol?_eq_some {c : Char} (h : ofSymbol? c = some t) :
    (∃ opening, t = .paren opening ∧ c = if opening then '(' else ')') ∨
      ∃ op : Operator, t = .operator op ∧ c = op.symbol := by
  unfold ofSymbol? at h
  split at h
  · next hc => cases h; exact .inl ⟨true, rfl, hc⟩
  split at h
  · next hc => cases h; exact .inl ⟨false, rfl, hc⟩
  · obtain ⟨op, hop, rfl⟩ := Option.map_eq_some_iff.1 h
    exact .inr ⟨op, rfl, (Operator.ofSymbol?_eq_some_iff.1 hop).symm⟩

/-- A numeral with a value has a character, and so has one after a sign. -/
theorem ne_nil_of_literal? {value : Binary64} (h : literal? run = some value) : run ≠ [] := by
  rintro rfl
  cases h

theorem ne_nil_of_negative {value : Binary64} (h : literal? ('-' :: run) = some value) :
    run ≠ [] := by
  rintro rfl
  cases h

theorem ofLiteral_eq {value : Binary64} (h : literal? run = some value) :
    ofLiteral run = .ok (.number value.toFloat (.ofList run)) := by
  rw [ofLiteral, h]

/-- A numeral with a value is read as its number. -/
theorem first?_of_literal? {value : Binary64} (hvalue : literal? run = some value)
    (h : first? folds s = some (ofLiteral run, rest)) :
    first? folds s = some (.ok (.number value.toFloat (.ofList run)), rest) := by
  rw [h, ofLiteral_eq hvalue]

theorem toList_name_ne_nil (f : Func) : f.name.toList ≠ [] := by
  cases f <;> decide

/-- The name of a function is a run of letters. -/
theorem all_isLetter_name (f : Func) : f.name.toList.all isLetter = true := by
  cases f <;> decide

/-- The name of a function is read as the function. -/
theorem ofWord_name (f : Func) : ofWord f.name.toList = .ok (.func f) := by
  rw [ofWord, String.ofList_toList, Func.ofName?_name]

/-! ## What is read first -/

/-- Nothing is read from blanks. -/
theorem first?_eq_none (hgap : gap.all isBlank = true) : first? folds gap = none := by
  induction gap with
  | nil => rfl
  | cons c gap ih =>
    rw [List.all_cons, Bool.and_eq_true] at hgap
    rw [first?, if_pos hgap.1, ih hgap.2]

/-- Blanks in front are skipped. -/
theorem first?_append_left (hgap : gap.all isBlank = true) :
    first? folds (gap ++ s) = first? folds s := by
  induction gap with
  | nil => rfl
  | cons c gap ih =>
    rw [List.all_cons, Bool.and_eq_true] at hgap
    rw [List.cons_append, first?, if_pos hgap.1, ih hgap.2]

/-- A run of letters is read as one name. -/
theorem first?_word (hne : run ≠ []) (hrun : run.all isLetter = true)
    (hstop : Stops isLetter rest) :
    first? folds (run ++ rest) = some (ofWord run, rest) := by
  obtain ⟨c, tail, rfl⟩ := List.exists_cons_of_ne_nil hne
  rw [List.all_cons, Bool.and_eq_true] at hrun
  rw [List.cons_append, first?, if_neg (by simp [isBlank_eq_false_of_isLetter hrun.1]),
    if_pos hrun.1, takeWhile_run hrun.2 hstop, dropWhile_run hrun.2 hstop]

/-- A run of digits and points is read as one numeral. -/
theorem first?_numeral (hne : run ≠ []) (hrun : run.all isNumeral = true)
    (hstop : Stops isNumeral rest) :
    first? folds (run ++ rest) = some (ofLiteral run, rest) := by
  obtain ⟨c, tail, rfl⟩ := List.exists_cons_of_ne_nil hne
  rw [List.all_cons, Bool.and_eq_true] at hrun
  rw [List.cons_append, first?, if_neg (by simp [isBlank_eq_false_of_isNumeral hrun.1]),
    if_neg (by simp [isLetter_eq_false_of_isNumeral hrun.1]), if_pos hrun.1,
    takeWhile_run hrun.2 hstop, dropWhile_run hrun.2 hstop]

/-- A minus sign that belongs to a numeral is read with it. -/
theorem first?_sign (hgap : gap.all isBlank = true) (hblanks : Stops isBlank (run ++ rest))
    (hrun : run.all isNumeral = true) (hstop : Stops isNumeral rest) :
    first? true ('-' :: (gap ++ (run ++ rest))) = some (ofLiteral ('-' :: run), rest) := by
  rw [first?, if_neg (by decide), if_neg (by decide), if_neg (by decide), if_pos (by decide)]
  simp only [dropWhile_run hgap hblanks, takeWhile_run hrun hstop, dropWhile_run hrun hstop]

/-- An operator or a parenthesis is read alone, unless it is a minus sign that belongs to a
numeral. -/
theorem first?_symbol {c : Char} (h : ofSymbol? c = some t) (hsign : (c == '-' && folds) = false) :
    first? folds (c :: rest) = some (.ok t, rest) := by
  have hclasses : isBlank c = false ∧ isLetter c = false ∧ isNumeral c = false := by
    rcases ofSymbol?_eq_some h with ⟨opening, -, rfl⟩ | ⟨op, -, rfl⟩
    · cases opening <;> decide
    · cases op <;> decide
  obtain ⟨hblank, hletter, hnumeral⟩ := hclasses
  rw [first?, if_neg (by simp [hblank]), if_neg (by simp [hletter]), if_neg (by simp [hnumeral]),
    if_neg (by simp [hsign]), h]

theorem Lexeme.ne_nil (h : Lexeme folds t lexeme) : lexeme ≠ [] := by
  cases h with
  | numeral _ hvalue => exact ne_nil_of_literal? hvalue
  | func f => exact toList_name_ne_nil f
  | negative | operator | paren => exact List.cons_ne_nil _ _

/-- A token is read from its characters. -/
theorem first?_of_lexeme (h : Lexeme folds t lexeme) (hsep : Separate folds t rest) :
    first? folds (lexeme ++ rest) = some (.ok t, rest) := by
  cases h with
  | numeral hrun hvalue =>
    rw [first?_numeral (ne_nil_of_literal? hvalue) hrun hsep, ofLiteral_eq hvalue]
  | negative hfolds hgap hrun hvalue =>
    subst hfolds
    have hblanks := stops_isBlank_append (ne_nil_of_negative hvalue) hrun rest
    rw [List.cons_append, List.cons_append, List.append_assoc,
      first?_sign hgap hblanks hrun hsep, ofLiteral_eq hvalue]
  | operator op =>
    have hsymbol : ofSymbol? op.symbol = some (.operator op) := by cases op <;> rfl
    refine first?_symbol hsymbol ?_
    cases op with
    | sub => exact hsep rfl
    | add | mul | div | pow => rfl
  | func f => rw [first?_word (toList_name_ne_nil f) (all_isLetter_name f) hsep, ofWord_name]
  | paren opening => cases opening <;> exact first?_symbol rfl rfl

/-- What is read has its characters in front, after blanks. -/
theorem exists_lexeme_of_first? (h : first? folds s = some (.ok t, rest)) :
    ∃ gap lexeme, s = gap ++ (lexeme ++ rest) ∧ gap.all isBlank = true ∧
      Lexeme folds t lexeme ∧ Separate folds t rest := by
  induction s with
  | nil => cases h
  | cons c s ih =>
    have hcut (p : Char → Bool) : s.takeWhile p ++ s.dropWhile p = s :=
      List.takeWhile_append_dropWhile
    rw [first?] at h
    split at h
    · next hblank =>
      obtain ⟨gap, lexeme, rfl, hgap, hlexeme, hsep⟩ := ih h
      exact ⟨c :: gap, lexeme, rfl, by rw [List.all_cons, hblank, hgap]; rfl, hlexeme, hsep⟩
    split at h
    · injection h with h
      injection h with hword hrest
      obtain ⟨f, rfl, hname⟩ := ofWord_eq_ok hword
      have hletters : f.name.toList = c :: s.takeWhile isLetter := by
        rw [hname, String.toList_ofList]
      refine ⟨[], f.name.toList, ?_, rfl, .func f, hrest ▸ stops_dropWhile isLetter s⟩
      rw [hletters, ← hrest, List.nil_append, List.cons_append, hcut]
    split at h
    · next hnumeral =>
      injection h with h
      injection h with hliteral hrest
      obtain ⟨value, hvalue, rfl⟩ := ofLiteral_eq_ok hliteral
      have hrun : (c :: s.takeWhile isNumeral).all isNumeral = true := by
        rw [List.all_cons, hnumeral, List.all_takeWhile]; rfl
      refine ⟨[], _, ?_, rfl, .numeral hrun hvalue, hrest ▸ stops_dropWhile isNumeral s⟩
      rw [← hrest, List.nil_append, List.cons_append, hcut]
    split at h
    · next hsign =>
      rw [Bool.and_eq_true, beq_iff_eq] at hsign
      obtain ⟨rfl, hfolds⟩ := hsign
      injection h with h
      injection h with hliteral hrest
      obtain ⟨value, hvalue, rfl⟩ := ofLiteral_eq_ok hliteral
      have hgap : (s.takeWhile isBlank).all isBlank = true := List.all_takeWhile
      refine ⟨[], _, ?_, rfl, .negative hfolds hgap List.all_takeWhile hvalue,
        hrest ▸ stops_dropWhile isNumeral _⟩
      rw [← hrest, List.nil_append, List.cons_append, List.cons_append, List.append_assoc,
        List.takeWhile_append_dropWhile, hcut]
    · next hsign =>
      split at h
      · next u hu =>
        cases h
        rcases ofSymbol?_eq_some hu with ⟨opening, rfl, rfl⟩ | ⟨op, rfl, rfl⟩
        · exact ⟨[], _, rfl, rfl, .paren opening, trivial⟩
        · refine ⟨[], _, rfl, rfl, .operator op, ?_⟩
          rintro rfl
          simpa [Operator.symbol] using hsign
      · cases h

/-- **What is read first is what is written first.** -/
theorem first?_eq_ok_iff :
    first? folds s = some (.ok t, rest) ↔
      ∃ gap lexeme, s = gap ++ (lexeme ++ rest) ∧ gap.all isBlank = true ∧
        Lexeme folds t lexeme ∧ Separate folds t rest := by
  refine ⟨exists_lexeme_of_first?, ?_⟩
  rintro ⟨gap, lexeme, rfl, hgap, hlexeme, hsep⟩
  rw [first?_append_left hgap, first?_of_lexeme hlexeme hsep]

/-- Nothing is read from blanks, and from nothing else. -/
theorem first?_eq_none_iff : first? folds s = none ↔ s.all isBlank = true := by
  refine ⟨fun h => ?_, first?_eq_none⟩
  induction s with
  | nil => rfl
  | cons c s ih =>
    rw [first?] at h
    split at h
    · next hblank => rw [List.all_cons, hblank, ih h]; rfl
    split at h
    · cases h
    split at h
    · cases h
    split at h
    · cases h
    split at h <;> cases h

end

end DeskCalc.Token
