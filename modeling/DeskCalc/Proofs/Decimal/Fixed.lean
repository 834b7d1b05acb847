import DeskCalc.Fault
import DeskCalc.Proofs.Binary64.Floats
import DeskCalc.Proofs.Binary64.Rounding
import DeskCalc.Proofs.Decimal.Positional

/-!
# The text of a result

The text of a finite double is that of a decimal (`form`). It is canonical (`canonical_form`), no
more than half of the last place from the double (`shown_near`), and read back as one numeral
(`writes_form`). So it is for every number of places; from the last place of the doubles on, the
text is exact (`shownNumber_mul_one`). A text is refused only where the number of places does not
fit into 31 bits (`writes_checkedText`).
-/

namespace DeskCalc

open Binary64

/-- The number that a finite double stands for. -/
def Binary64.toRat? : Binary64 → Option ℚ
  | finite negative units => some (Decimal.signed negative (units / one))
  | _ => none

namespace Decimal

section
variable {c : Char} {width n places units : Nat} {negative : Bool} {digits : List Char}

/-! ## Digits of a fixed number -/

theorem length_decimalDigits (width n : Nat) : (decimalDigits width n).length = width := by
  induction width generalizing n with
  | zero => rfl
  | succ width ih => rw [decimalDigits, List.length_append, ih]; rfl

theorem isDigit_of_mem_decimalDigits (h : c ∈ decimalDigits width n) : c.isDigit = true := by
  induction width generalizing n with
  | zero => cases h
  | succ width ih =>
    rw [decimalDigits, List.mem_append] at h
    rcases h with h | h
    · exact ih h
    · rw [List.mem_singleton.1 h, Nat.isDigit_digitChar]
      exact decide_eq_true (Nat.mod_lt n (by decide))

/-- The last digits of a number write what is left of it. -/
theorem ofDigitChars_decimalDigits (width n : Nat) :
    Nat.ofDigitChars 10 (decimalDigits width n) 0 = n % 10 ^ width := by
  induction width generalizing n with
  | zero => rw [Nat.pow_zero, Nat.mod_one]; rfl
  | succ width ih =>
    rw [decimalDigits, Nat.ofDigitChars_append, ih, Nat.ofDigitChars_cons, Nat.ofDigitChars_nil,
      Nat.pow_succ', Nat.mod_mul, Nat.add_comm]
    exact congrArg (· + _) (Nat.toNat_digitChar_sub_48_of_lt_ten (Nat.mod_lt n (by decide)))

/-- Only zero begins with a zero. -/
theorem toDigits_of_head? (h : (Nat.toDigits 10 n).head? = some '0') :
    Nat.toDigits 10 n = ['0'] := by
  induction n using Nat.strongRecOn with
  | ind n ih =>
    rw [Nat.toDigits_eq_if (by decide)] at h ⊢
    split at h
    · next hsmall =>
      rw [if_pos hsmall, Option.some.inj h]
    · next hlarge =>
      rw [List.head?_append_of_ne_nil _ Nat.toDigits_ne_nil] at h
      have hquotient : n / 10 = 0 :=
        calc n / 10 = Nat.ofDigitChars 10 (Nat.toDigits 10 (n / 10)) 0 :=
              Nat.ofDigitChars_ten_toDigits.symm
          _ = Nat.ofDigitChars 10 ['0'] 0 := by rw [ih (n / 10) (by omega) h]
      omega

/-! ## Zeros at the end -/

/-- The digits without the zeros at their end. -/
def stripped (digits : List Char) : List Char :=
  digits.rdropWhile (· == '0')

theorem getLast?_stripped (digits : List Char) : (stripped digits).getLast? ≠ some '0' := by
  intro h
  have hne : stripped digits ≠ [] := by
    rintro hnil
    rw [hnil] at h
    cases h
  have hlast := List.rdropWhile_last_not _ digits hne
  rw [List.getLast?_eq_some_getLast hne] at h
  exact hlast (beq_iff_eq.2 (Option.some.inj h))

theorem exists_append_zeros (digits : List Char) :
    ∃ k, digits = stripped digits ++ List.replicate k '0' := by
  have hzeros : ∀ c ∈ digits.rtakeWhile (· == '0'), c = '0' := fun _ hc =>
    beq_iff_eq.1 (List.mem_rtakeWhile_imp (p := (· == '0')) hc)
  refine ⟨(digits.rtakeWhile (· == '0')).length, ?_⟩
  rw [← List.eq_replicate_iff.2 ⟨rfl, hzeros⟩]
  exact List.rdropWhile_append_rtakeWhile.symm

/-! ## The decimal that is shown -/

/-- The number that is shown, counted in the last place. -/
def shownNumber (places units : Nat) : Nat :=
  roundHalfEven (units * 10 ^ min places lastPlace) one

/-- The decimal that is shown. -/
def form (places : Nat) (negative : Bool) (units : Nat) : Positional where
  negative := negative && magnitudeText places units != ['0']
  whole := Nat.toDigits 10 (shownNumber places units / 10 ^ min places lastPlace)
  fraction := stripped (decimalDigits (min places lastPlace)
    (shownNumber places units % 10 ^ min places lastPlace))

theorem magnitudeText_eq (places units : Nat) (negative : Bool) :
    magnitudeText places units =
      (form places negative units).whole ++ pointed (form places negative units).fraction :=
  rfl

/-- The text is that of the decimal. -/
theorem toList_fixedText {x : Float} (h : ofFloat x = finite negative units) (places : Nat) :
    (fixedText places x).toList = (form places negative units).text := by
  rw [fixedText, h]
  dsimp only
  rw [String.toList_ofList, Positional.text, ← magnitudeText_eq, form]
  dsimp only
  split <;> rfl

/-- Its digits write the number that is shown, less the zeros at the end. -/
theorem exists_numerator_form (places : Nat) (negative : Bool) (units : Nat) :
    ∃ k, min places lastPlace = (form places negative units).fraction.length + k ∧
      shownNumber places units = 10 ^ k * (form places negative units).numerator := by
  let n := shownNumber places units
  let shown := min places lastPlace
  let digits := decimalDigits shown (n % 10 ^ shown)
  obtain ⟨k, hk⟩ := exists_append_zeros digits
  refine ⟨k, ?_, ?_⟩
  · have hlength := congrArg List.length hk
    rw [length_decimalDigits, List.length_append, List.length_replicate] at hlength
    exact hlength
  · have hall : Nat.ofDigitChars 10 (Nat.toDigits 10 (n / 10 ^ shown) ++ digits) 0 = n := by
      rw [Nat.ofDigitChars_append, Nat.ofDigitChars_ten_toDigits,
        Nat.ofDigitChars_eq_ofDigitChars_zero, ofDigitChars_decimalDigits, length_decimalDigits,
        Nat.mod_mod, Nat.div_add_mod]
    rw [hk, ← List.append_assoc, Nat.ofDigitChars_append, Nat.ofDigitChars_replicate_zero] at hall
    exact hall.symm

theorem form_whole_ne_nil (places : Nat) (negative : Bool) (units : Nat) :
    (form places negative units).whole ≠ [] :=
  Nat.toDigits_ne_nil

/-- A zero without a point writes zero. -/
theorem numerator_of_zero {p : Positional} (hwhole : p.whole ≠ [])
    (h : p.whole ++ pointed p.fraction = ['0']) : p.numerator = 0 := by
  obtain ⟨negative, whole, fraction⟩ := p
  cases whole with
  | nil => exact absurd rfl hwhole
  | cons c rest =>
    obtain ⟨hc, hrest⟩ := List.cons.inj h
    obtain ⟨hnil, hpoint⟩ := List.append_eq_nil_iff.1 hrest
    cases fraction with
    | nil => rw [Positional.numerator, hc, hnil]; rfl
    | cons d digits => cases hpoint

/-- The decimal stands for the number that is shown, with the sign of the double. -/
theorem value_form (places : Nat) (negative : Bool) (units : Nat) :
    (form places negative units).value =
      signed negative (shownNumber places units / 10 ^ min places lastPlace) := by
  obtain ⟨k, hshown, hnumber⟩ := exists_numerator_form places negative units
  have hquotient : ((form places negative units).numerator : ℚ) /
      10 ^ (form places negative units).fraction.length =
        shownNumber places units / 10 ^ min places lastPlace := by
    rw [hshown, hnumber, pow_add, Nat.cast_mul, Nat.cast_pow, Nat.cast_ofNat,
      mul_comm ((10 : ℚ) ^ k), mul_div_mul_right _ _ (pow_ne_zero k (by norm_num))]
  rw [Positional.value, hquotient]
  by_cases hzero : magnitudeText places units = ['0']
  · -- zero has no sign
    have hnone : shownNumber places units = 0 := by
      rw [hnumber, numerator_of_zero (form_whole_ne_nil places negative units) hzero, Nat.mul_zero]
    rw [hnone]
    simp [signed]
  · have hsign : (form places negative units).negative = negative := by
      rw [form, bne_iff_ne.2 hzero, Bool.and_true]
    rw [hsign]

/-- **The decimal is canonical.** -/
theorem canonical_form (places : Nat) (negative : Bool) (units : Nat) :
    (form places negative units).Canonical where
  digits c hc := by
    rcases List.mem_append.1 hc with hc | hc
    · exact Nat.isDigit_of_mem_toDigits (by decide) (by decide) hc
    · exact isDigit_of_mem_decimalDigits ((List.rdropWhile_prefix _ _).subset hc)
  whole_ne_nil := form_whole_ne_nil places negative units
  leading := toDigits_of_head?
  trailing := getLast?_stripped _
  sign h := by
    rw [Positional.text, ← magnitudeText_eq] at h
    cases hsign : (form places negative units).negative with
    | true =>
      rw [hsign] at h
      have hzero : magnitudeText places units = ['0'] := (List.cons.inj h).2
      rw [form, hzero, bne_self_eq_false, Bool.and_false] at hsign
      cases hsign
    | false =>
      -- the first character is a digit
      rw [hsign] at h
      cases hfirst : Nat.toDigits 10 (shownNumber places units / 10 ^ min places lastPlace) with
      | nil => exact Nat.toDigits_ne_nil hfirst
      | cons c rest =>
        have hdigit : c.isDigit = true :=
          Nat.isDigit_of_mem_toDigits (by decide) (by decide) (hfirst ▸ List.mem_cons_self ..)
        have hminus : c = '-' := by
          rw [magnitudeText_eq places units negative, form, hfirst] at h
          exact (List.cons.inj h).1
        exact ne_of_isDigit (by decide) hdigit hminus

/-! ## How near the decimal is -/

/-- Up to the last place of the doubles, the number that is shown is no more than half of its last
place away. -/
theorem shownNumber_bounds (h : places ≤ lastPlace) (units : Nat) :
    2 * (shownNumber places units * one) ≤ 2 * (units * 10 ^ places) + one ∧
      2 * (units * 10 ^ places) ≤ 2 * (shownNumber places units * one) + one := by
  rw [shownNumber, Nat.min_eq_left h]
  exact roundHalfEven_bounds _ Binary64.one_pos

/-- From there on it is exact. -/
theorem shownNumber_mul_one (h : lastPlace ≤ places) (units : Nat) :
    shownNumber places units * one = units * 10 ^ lastPlace := by
  have hten : 10 ^ lastPlace = 5 ^ lastPlace * one := by decide +kernel
  have hexact : roundHalfEven (units * 5 ^ lastPlace * one) one = units * 5 ^ lastPlace :=
    roundHalfEven_mul_self _ Binary64.one_pos
  rw [shownNumber, Nat.min_eq_right h, hten, ← Nat.mul_assoc, hexact]

/-- What is shown is no more than half of the last place from the double. -/
theorem shown_near (places units : Nat) :
    |(shownNumber places units / 10 ^ min places lastPlace : ℚ) - units / one| ≤
      1 / (2 * 10 ^ places) := by
  have hone : (0 : ℚ) < (one : ℚ) := Nat.cast_pos.2 Binary64.one_pos
  have hten (k : Nat) : (0 : ℚ) < 10 ^ k := pow_pos (by norm_num) k
  rw [div_sub_div _ _ (hten _).ne' hone.ne', abs_div, abs_of_pos (mul_pos (hten _) hone)]
  rcases Nat.le_total places lastPlace with h | h
  · obtain ⟨hupper, hlower⟩ := shownNumber_bounds h units
    have hupper' : 2 * ((shownNumber places units : ℚ) * one) ≤
        2 * (units * 10 ^ places) + one := by exact_mod_cast hupper
    have hlower' : 2 * ((units : ℚ) * 10 ^ places) ≤
        2 * (shownNumber places units * one) + one := by exact_mod_cast hlower
    rw [Nat.min_eq_left h, div_le_div_iff₀ (mul_pos (hten _) hone) (mul_pos two_pos (hten _))]
    have hnear : |(shownNumber places units : ℚ) * one - 10 ^ places * units| ≤ one / 2 :=
      abs_le.2 ⟨by linarith, by linarith⟩
    calc |(shownNumber places units : ℚ) * one - 10 ^ places * units| * (2 * 10 ^ places)
        ≤ one / 2 * (2 * 10 ^ places) :=
          mul_le_mul_of_nonneg_right hnear (mul_pos two_pos (hten _)).le
      _ = 1 * (10 ^ places * one) := by ring
  · have hexact : (shownNumber places units : ℚ) * one = 10 ^ lastPlace * units := by
      rw [mul_comm ((10 : ℚ) ^ lastPlace)]
      exact_mod_cast shownNumber_mul_one h units
    rw [Nat.min_eq_right h, hexact, sub_self, abs_zero, zero_div]
    exact (one_div_pos.2 (mul_pos two_pos (hten _))).le

theorem abs_signed_sub (negative : Bool) (a b : ℚ) :
    |signed negative a - signed negative b| = |a - b| := by
  cases negative with
  | false => rfl
  | true => rw [signed, signed, if_pos rfl, if_pos rfl, neg_sub_neg, abs_sub_comm]

end

/-- How a text writes a double as a decimal with at most so many places after the point. -/
structure Writes (p : Positional) (places : Nat) (x : Float) (text : String) : Prop where
  toList_eq : text.toList = p.text
  canonical : p.Canonical
  places_le : p.fraction.length ≤ places
  /-- What the decimal stands for is no more than half of the last place from the double. -/
  near : ∃ q, (ofFloat x).toRat? = some q ∧ |p.value - q| ≤ 1 / (2 * 10 ^ places)
  /-- The text is read back as one numeral that is named by the text. -/
  scan_eq : Token.scan text.toList = .ok [.number p.double.toFloat text]

/-- The check of a number of places that is not negative. -/
theorem checkPlaces_natCast (places : Nat) :
    checkPlaces places =
      if 2 ^ 63 ≤ places then .error .huge else if 2 ^ 31 ≤ places then .error .large
      else .ok places := by
  rw [checkPlaces, if_neg (Int.not_lt.2 (Int.natCast_nonneg places)), Int.toNat_natCast]
  rfl

variable {x : Float}

theorem writes_form {negative : Bool} {units : Nat} (h : ofFloat x = finite negative units)
    (places : Nat) : Writes (form places negative units) places x (fixedText places x) where
  toList_eq := toList_fixedText h places
  canonical := canonical_form places negative units
  places_le := by
    obtain ⟨k, hshown, -⟩ := exists_numerator_form places negative units
    omega
  near := by
    refine ⟨signed negative (units / one), by rw [h]; rfl, ?_⟩
    rw [value_form, abs_signed_sub]
    exact shown_near places units
  scan_eq := by
    have hscan := (canonical_form places negative units).scan_eq
    rwa [← toList_fixedText h places, String.ofList_toList] at hscan

/-- **The text of a finite double is a canonical decimal that is no more than half of the last place
from it and is read back as one numeral.** So it is for every number of places, and a number of
places is refused if and only if it does not fit into 31 bits. -/
theorem writes_checkedText (hx : x.isFinite = true) (places : Nat) :
    (∃ p, Writes p places x (fixedText places x)) ∧
      (places < 2 ^ 31 → checkedText places x = .ok (fixedText places x)) ∧
      (2 ^ 31 ≤ places → ∃ cause, checkedText places x = .error cause ∧
        (Fault.places cause).name = "OverflowError") := by
  obtain ⟨negative, units, hunits⟩ := (isFinite_iff x).1 hx
  refine ⟨⟨_, writes_form hunits places⟩, fun h => ?_, fun h => ?_⟩
  · have hplaces : checkPlaces places = .ok places := by
      rw [checkPlaces_natCast, if_neg (Nat.not_le.2 (Nat.lt_trans h (by decide))),
        if_neg (Nat.not_le.2 h)]
    rw [checkedText, hunits]
    dsimp only
    rw [hplaces]
    rfl
  · have hplaces : checkPlaces places = .error .huge ∨ checkPlaces places = .error .large := by
      rw [checkPlaces_natCast, if_pos h]
      exact ite_eq_or_eq ..
    rw [checkedText, hunits]
    dsimp only
    rcases hplaces with hplaces | hplaces
    · exact ⟨.huge, by rw [hplaces]; rfl, rfl⟩
    · exact ⟨.large, by rw [hplaces]; rfl, rfl⟩

/-- A carry goes through all nines. -/
theorem writes_carry :
    ∃ p, Writes p 2 (ofRatio true 9999 1000).toFloat "-10" ∧
      checkedText 2 (ofRatio true 9999 1000).toFloat = .ok "-10" := by
  obtain ⟨⟨p, hp⟩, htext, -⟩ :=
    writes_checkedText (x := (ofRatio true 9999 1000).toFloat) (by decide +kernel) 2
  have hfixed : fixedText 2 (ofRatio true 9999 1000).toFloat = "-10" := by decide +kernel
  rw [hfixed] at hp htext
  exact ⟨p, hp, htext (by decide)⟩

/-- There is no text with more places than fit into 31 bits. -/
theorem checkedText_of_too_many_places :
    (finite false one).toFloat.isFinite = true ∧
      ∀ text, checkedText (2 ^ 31) (finite false one).toFloat ≠ .ok text := by
  have hrefused : checkedText (2 ^ 31) (finite false one).toFloat = .error .large := by
    decide +kernel
  refine ⟨by decide +kernel, fun text h => ?_⟩
  rw [hrefused] at h
  cases h

end Decimal

end DeskCalc
