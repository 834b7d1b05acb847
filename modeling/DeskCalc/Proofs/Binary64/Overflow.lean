import Mathlib.Algebra.Group.Nat.Defs
import DeskCalc.Binary64

/-!
# Where doubles end

The nearest double is an infinity from half a step below the first number that no finite double has
(`pow_le_nearest_iff`): half of the last step goes to the neighbour with the even significand, and
that is the one that does not exist. For whole numbers this is `overflowFrom`.

Scaling by a power of ten fails in two places, and the number that is scaled only has to be finite:
the power is too large, or the exponent is too large for a double itself
(`exists_roundTo_error_iff`).
-/

namespace DeskCalc.Binary64

/-- The least whole number with no finite double nearest to it. -/
def overflowFrom : Nat := Nat.pow 2 1024 - Nat.pow 2 970

/-- The exponent of the spacing of the greatest finite doubles. -/
def lastSpacing : Nat := 2045

section
variable {num den : Nat}

/-- What is half a unit below an even number is rounded to it. -/
theorem le_roundHalfEven_iff {k : Nat} (hk : k % 2 = 0) (num : Nat) (hden : 0 < den) :
    k ≤ roundHalfEven num den ↔ 2 * (k * den) ≤ 2 * num + den := by
  constructor
  · intro h
    have hbound := (roundHalfEven_bounds num hden).1
    have hle := Nat.mul_le_mul_right den h
    omega
  · intro h
    have hparts := Nat.div_add_mod num den
    have hrest := Nat.mod_lt num hden
    rw [Nat.mul_comm] at hparts
    rcases Nat.lt_trichotomy k (num / den + 1) with hlt | rfl | hgt
    · unfold roundHalfEven
      dsimp only
      split
      · omega
      · split <;> omega
    · rw [Nat.add_mul] at h
      unfold roundHalfEven
      dsimp only
      split
      · omega
      · split <;> omega
    · -- two more than the quotient is too much
      have hle := Nat.mul_le_mul_right den (Nat.succ_le_of_lt hgt)
      rw [Nat.succ_eq_add_one, Nat.add_mul, Nat.add_mul] at hle
      omega

theorem nearest_one (m : Nat) :
    nearest m 1 = roundHalfEven m (2 ^ spacing m) * 2 ^ spacing m := by
  rw [nearest, Nat.div_one, Nat.one_mul]
  rfl

/-- The nearest double of a quotient, times the divisor. -/
theorem nearest_mul_den (num den : Nat) :
    nearest num den * den =
      roundHalfEven num (den * 2 ^ spacing (num / den)) * (den * 2 ^ spacing (num / den)) :=
  calc nearest num den * den
      = roundHalfEven num (den * 2 ^ spacing (num / den)) * 2 ^ spacing (num / den) * den := rfl
    _ = _ := by rw [Nat.mul_assoc, Nat.mul_comm (2 ^ spacing (num / den))]

/-- The nearest double of a quotient is no less than the greatest power of two in it. -/
theorem pow_log2_le_nearest (hden : 0 < den) (h : 52 ≤ (num / den).log2) :
    2 ^ (num / den).log2 ≤ nearest num den := by
  have hstep : 2 ^ (num / den).log2 = 2 ^ 52 * 2 ^ spacing (num / den) := by
    rw [← Nat.pow_add, spacing, Nat.add_sub_cancel' h]
  have hquotient : num / den ≠ 0 := by
    intro hzero
    rw [hzero] at h
    simp at h
  have hle := (Nat.le_div_iff_mul_le hden).1 (hstep ▸ Nat.log2_self_le hquotient)
  rw [hstep]
  refine Nat.mul_le_mul_right _ ((le_roundHalfEven_iff (by decide) num
    (Nat.mul_pos hden (Nat.two_pow_pos _))).2 ?_)
  rw [Nat.mul_assoc, Nat.mul_comm _ den] at hle
  omega

/-- The nearest double of a quotient reaches a power of two from half a step below it, where the
step is that of the doubles before the power. -/
theorem pow_le_nearest_iff (hden : 0 < den) (s : Nat) :
    2 ^ 53 * 2 ^ s ≤ nearest num den ↔ 2 * (2 ^ 53 * 2 ^ s * den) ≤ 2 * num + 2 ^ s * den := by
  rcases Nat.lt_trichotomy (num / den).log2 (52 + s) with hlt | heq | hgt
  · -- the quotient is below half of the power, and rounding does not double it
    have hquotient : num / den < 2 ^ 52 * 2 ^ s := by
      rw [← Nat.pow_add]
      exact Nat.lt_of_lt_of_le Nat.lt_log2_self (Nat.pow_le_pow_right (by decide) hlt)
    have hnum := (Nat.div_lt_iff_lt_mul hden).1 hquotient
    have hstep : den * 2 ^ spacing (num / den) ≤ 2 ^ s * den := by
      rw [Nat.mul_comm]
      refine Nat.mul_le_mul_right den (Nat.pow_le_pow_right (by decide) ?_)
      unfold spacing
      omega
    have hbound := (roundHalfEven_bounds num
      (Nat.mul_pos hden (Nat.two_pow_pos (spacing (num / den))))).1
    rw [← nearest_mul_den] at hbound
    rw [← Nat.mul_le_mul_right_iff hden, Nat.mul_assoc]
    rw [Nat.mul_assoc] at hnum
    omega
  · have hspacing : spacing (num / den) = s := by rw [spacing, heq, Nat.add_sub_cancel_left]
    have hnearest : nearest num den = roundHalfEven num (den * 2 ^ s) * 2 ^ s := by
      rw [← hspacing]
      rfl
    rw [hnearest, Nat.mul_le_mul_right_iff (Nat.two_pow_pos s),
      le_roundHalfEven_iff (by decide) num (Nat.mul_pos hden (Nat.two_pow_pos s)), Nat.mul_assoc,
      Nat.mul_comm (2 ^ s)]
  · have hpow : 2 ^ 53 * 2 ^ s ≤ 2 ^ (num / den).log2 := by
      rw [← Nat.pow_add]
      exact Nat.pow_le_pow_right (by decide) (by omega)
    have hquotient : num / den ≠ 0 := by
      intro hzero
      rw [hzero] at hgt
      simp at hgt
    have hnum := (Nat.le_div_iff_mul_le hden).1 (Nat.le_trans hpow (Nat.log2_self_le hquotient))
    have hnearest := pow_log2_le_nearest hden (Nat.le_of_add_right_le (Nat.le_of_lt hgt))
    exact iff_of_true (Nat.le_trans hpow hnearest) (by omega)

/-- A quotient of units has a finite double nearest to it if it is below `overflowFrom`. -/
theorem limit_le_nearest_iff (hden : 0 < den) :
    limit ≤ nearest num den ↔ overflowFrom * one * den ≤ num := by
  have hlimit : limit = 2 ^ 53 * 2 ^ lastSpacing := by decide +kernel
  have hscaled : 2 * (2 ^ 53 * 2 ^ lastSpacing) = 2 * (overflowFrom * one) + 2 ^ lastSpacing := by
    decide +kernel
  rw [hlimit, pow_le_nearest_iff hden, ← Nat.mul_assoc, hscaled, Nat.add_mul,
    Nat.add_le_add_iff_right, Nat.mul_assoc 2, Nat.mul_le_mul_left_iff (by decide)]

/-- A whole number has a finite double nearest to it if it is below `overflowFrom`. -/
theorem limit_le_nearest_mul_one_iff (n : Nat) :
    limit ≤ nearest (n * one) 1 ↔ overflowFrom ≤ n := by
  rw [limit_le_nearest_iff (by decide), Nat.mul_one, Nat.mul_le_mul_right_iff (by decide +kernel)]

end

/-- Rounding to a number of places for which the power of ten can be computed. -/
theorem roundTo_finite {places : Int} (hlow : -(overflowFrom : Int) < places)
    (hhigh : places < 309) (negative : Bool) (units : Nat) :
    (finite negative units).roundTo places =
      let scaled := nearest (units * powerOfTen places) one
      if wholeFrom ≤ scaled then .ok (finite negative units)
      else if powerOfTen places = 0 then .ok nan
      else .ok (ofUnits negative
        (nearest ((scaled + one / 2) / one * one * one) (powerOfTen places))) := by
  have hlarge : 309 ≤ overflowFrom := by decide +kernel
  have hpower : ¬ greatestPower < places := by unfold greatestPower; omega
  rw [roundTo, if_neg (by rw [limit_le_nearest_mul_one_iff]; omega), if_neg hpower]

/-- **When a number cannot be scaled to be rounded.** It is finite, and the power of ten has no
finite double, or its exponent has none. -/
theorem exists_roundTo_error_iff (places : Int) (b : Binary64) :
    (∃ cause, b.roundTo places = .error cause) ↔
      (∃ negative units, b = .finite negative units) ∧
        (309 ≤ places ∨ places ≤ -(overflowFrom : Int)) := by
  have hexponent := limit_le_nearest_mul_one_iff places.natAbs
  have hpower : greatestPower < places ↔ 309 ≤ places := Int.lt_iff_add_one_le
  have hlarge : 309 ≤ overflowFrom := by decide +kernel
  cases b with
  | nan | infinite =>
    refine iff_of_false ?_ fun ⟨⟨_, _, hfinite⟩, _⟩ => nomatch hfinite
    rintro ⟨cause, hcause⟩
    cases hcause
  | finite negative units =>
    have hfinite : ∃ n u, finite negative units = .finite n u := ⟨negative, units, rfl⟩
    rw [and_iff_right hfinite, roundTo]
    split
    · next h => exact iff_of_true ⟨_, rfl⟩ (by omega)
    split
    · next h => exact iff_of_true ⟨_, rfl⟩ (.inl (hpower.1 h))
    · next h hplaces =>
      refine iff_of_false ?_ (by omega)
      rintro ⟨cause, hcause⟩
      dsimp only at hcause
      split at hcause
      · cases hcause
      · split at hcause <;> cases hcause

end DeskCalc.Binary64
