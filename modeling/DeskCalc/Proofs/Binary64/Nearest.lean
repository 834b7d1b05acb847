import DeskCalc.Proofs.Binary64.Overflow

/-!
# The nearest double

What is known of `nearest` besides its definition: it depends on the quotient alone
(`nearest_mul_right`), it does not pass a number of the grid (`le_nearest_of_le`,
`nearest_le_of_le`), from `2 ^ 52` units on it is off by one part in `2 ^ 53` at most
(`nearest_bounds`), and it is on the grid (`onGrid_nearest`).
-/

namespace DeskCalc.Binary64

/-- The number of units is a multiple of the spacing of the doubles around it. -/
def OnGrid (units : Nat) : Prop :=
  2 ^ spacing units ∣ units

section
variable {num den j k g m s c units : Nat}

/-! ## Whole numbers -/

/-- Multiples of one number are that number apart. -/
theorem mul_add_le_mul (h : j < k) (c : Nat) : j * c + c ≤ k * c := by
  rw [← Nat.succ_mul]
  exact Nat.mul_le_mul_right c h

theorem roundHalfEven_mul_right (num den : Nat) (hc : 0 < c) :
    roundHalfEven (num * c) (den * c) = roundHalfEven num den := by
  simp only [roundHalfEven, Nat.mul_div_mul_right _ _ hc, Nat.mul_mod_mul_right, ← Nat.mul_assoc,
    Nat.mul_lt_mul_right hc]

theorem roundHalfEven_mul_self (k : Nat) (hc : 0 < c) : roundHalfEven (k * c) c = k := by
  have hone : roundHalfEven k 1 = k := by simp [roundHalfEven, Nat.mod_one]
  have hcancel := roundHalfEven_mul_right k 1 hc
  rwa [Nat.one_mul, hone] at hcancel

/-- The rounded quotient does not pass a whole number below it. -/
theorem le_roundHalfEven (hden : 0 < den) (h : k * den ≤ num) : k ≤ roundHalfEven num den := by
  have hfloor : k ≤ num / den := (Nat.le_div_iff_mul_le hden).2 h
  unfold roundHalfEven
  dsimp only
  split
  · exact hfloor
  · split <;> omega

/-- Nor one above it. -/
theorem roundHalfEven_le (hden : 0 < den) (h : num ≤ k * den) : roundHalfEven num den ≤ k := by
  have hparts := Nat.div_add_mod num den
  have hfloor : num / den ≤ k := Nat.div_le_of_le_mul (by rwa [Nat.mul_comm])
  unfold roundHalfEven
  dsimp only
  rcases Nat.lt_or_eq_of_le hfloor with hlt | heq
  · split
    · exact hfloor
    · split <;> omega
  · -- the quotient is whole
    rw [heq, Nat.mul_comm] at hparts
    rw [if_pos (by omega)]
    exact hfloor

/-- What is half a unit above an even number is rounded to it. -/
theorem roundHalfEven_le_iff (hk : k % 2 = 0) (num : Nat) (hden : 0 < den) :
    roundHalfEven num den ≤ k ↔ 2 * num ≤ 2 * (k * den) + den := by
  constructor
  · intro h
    have hbound := (roundHalfEven_bounds num hden).2
    have hle := Nat.mul_le_mul_right den h
    omega
  · intro h
    have hparts := Nat.div_add_mod num den
    have hrest := Nat.mod_lt num hden
    rw [Nat.mul_comm] at hparts
    rcases Nat.lt_trichotomy (num / den) k with hlt | heq | hgt
    · unfold roundHalfEven
      dsimp only
      split
      · omega
      · split <;> omega
    · rw [heq] at hparts
      unfold roundHalfEven
      dsimp only
      rw [heq]
      split
      · omega
      · split <;> omega
    · -- one more than the number is too much
      have hle := mul_add_le_mul hgt den
      omega

/-! ## Doubles -/

/-- The nearest double is that of the quotient. -/
theorem nearest_mul_right (num den : Nat) (hc : 0 < c) :
    nearest (num * c) (den * c) = nearest num den := by
  simp only [nearest, Nat.mul_div_mul_right _ _ hc, Nat.mul_right_comm den c,
    roundHalfEven_mul_right _ _ hc]

/-- The nearest double does not pass a number of the grid below it. -/
theorem le_nearest_of_le (hs : spacing m ≤ s) (h : g * 2 ^ s ≤ m) : g * 2 ^ s ≤ nearest m 1 := by
  have hstep : g * 2 ^ s = g * 2 ^ (s - spacing m) * 2 ^ spacing m := by
    rw [Nat.mul_assoc, ← Nat.pow_add, Nat.sub_add_cancel hs]
  rw [nearest_one, hstep]
  exact Nat.mul_le_mul_right _ (le_roundHalfEven (Nat.two_pow_pos _) (hstep ▸ h))

/-- Nor one above it. -/
theorem nearest_le_of_le (hs : spacing m ≤ s) (h : m ≤ g * 2 ^ s) : nearest m 1 ≤ g * 2 ^ s := by
  have hstep : g * 2 ^ s = g * 2 ^ (s - spacing m) * 2 ^ spacing m := by
    rw [Nat.mul_assoc, ← Nat.pow_add, Nat.sub_add_cancel hs]
  rw [nearest_one, hstep]
  exact Nat.mul_le_mul_right _ (roundHalfEven_le (Nat.two_pow_pos _) (hstep ▸ h))

theorem spacing_le_of_lt (h : units < 2 ^ (53 + s)) : spacing units ≤ s := by
  rw [spacing]
  rcases Nat.eq_zero_or_pos units with rfl | hpos
  · exact Nat.zero_le _
  · have hlog := (Nat.log2_lt (Nat.ne_of_gt hpos)).2 h
    omega

theorem lt_of_spacing (units : Nat) : units < 2 ^ 53 * 2 ^ spacing units := by
  rw [← Nat.pow_add]
  refine Nat.lt_of_lt_of_le Nat.lt_log2_self (Nat.pow_le_pow_right (by decide) ?_)
  rw [spacing]
  omega

/-- A quotient of a unit or more is not rounded to zero. -/
theorem nearest_pos (hden : 0 < den) (h : den ≤ num) : 0 < nearest num den := by
  have hquotient : num / den ≠ 0 := Nat.ne_of_gt (Nat.div_pos h hden)
  have hstep : 2 ^ spacing (num / den) ≤ num / den :=
    calc 2 ^ spacing (num / den) ≤ 2 ^ (num / den).log2 :=
          Nat.pow_le_pow_right (by decide) (Nat.sub_le _ _)
      _ ≤ num / den := Nat.log2_self_le hquotient
  have hle : 1 * (den * 2 ^ spacing (num / den)) ≤ num := by
    rw [Nat.one_mul, Nat.mul_comm]
    exact (Nat.le_div_iff_mul_le hden).1 hstep
  exact Nat.mul_pos (le_roundHalfEven (Nat.mul_pos hden (Nat.two_pow_pos _)) hle)
    (Nat.two_pow_pos _)

/-- From `2 ^ 52` units on the step is one part in `2 ^ 52` at most. -/
theorem pow_spacing_le (h : 2 ^ 52 ≤ units) : 2 ^ 52 * 2 ^ spacing units ≤ units := by
  have hne : units ≠ 0 := by omega
  have hlog : 52 ≤ units.log2 := (Nat.le_log2 hne).2 h
  rw [← Nat.pow_add, spacing, Nat.add_sub_cancel' hlog]
  exact Nat.log2_self_le hne

/-- From `2 ^ 52` units on the nearest double is off by one part in `2 ^ 53` at most. -/
theorem nearest_bounds (hden : 0 < den) (h : 2 ^ 52 * den ≤ num) :
    2 ^ 53 * (nearest num den * den) ≤ 2 ^ 53 * num + num ∧
      2 ^ 53 * num ≤ 2 ^ 53 * (nearest num den * den) + num := by
  have hstep : 2 ^ 52 * (den * 2 ^ spacing (num / den)) ≤ num := by
    have hle := pow_spacing_le ((Nat.le_div_iff_mul_le hden).2 h)
    calc 2 ^ 52 * (den * 2 ^ spacing (num / den)) = 2 ^ 52 * 2 ^ spacing (num / den) * den := by
          rw [Nat.mul_assoc, Nat.mul_comm den]
      _ ≤ num / den * den := Nat.mul_le_mul_right den hle
      _ ≤ num := Nat.div_mul_le_self num den
  have hbounds := roundHalfEven_bounds num
    (Nat.mul_pos hden (Nat.two_pow_pos (spacing (num / den))))
  rw [nearest_mul_den]
  omega

/-- The nearest double is on the grid. -/
theorem onGrid_nearest (num : Nat) (hden : 0 < den) : OnGrid (nearest num den) := by
  let s := spacing (num / den)
  let r := roundHalfEven num (den * 2 ^ s)
  have hr : r ≤ 2 ^ 53 := by
    refine roundHalfEven_le (Nat.mul_pos hden (Nat.two_pow_pos s)) ?_
    have hlt := (Nat.div_lt_iff_lt_mul hden).1 (lt_of_spacing (num / den))
    calc num ≤ 2 ^ 53 * 2 ^ s * den := Nat.le_of_lt hlt
      _ = 2 ^ 53 * (den * 2 ^ s) := by rw [Nat.mul_assoc, Nat.mul_comm (2 ^ s)]
  have hnearest : nearest num den = r * 2 ^ s := rfl
  rw [hnearest, OnGrid]
  rcases Nat.lt_or_eq_of_le hr with hlt | heq
  · have hspacing : spacing (r * 2 ^ s) ≤ s := by
      refine spacing_le_of_lt ?_
      rw [Nat.pow_add]
      exact Nat.mul_lt_mul_of_pos_right hlt (Nat.two_pow_pos s)
    exact Nat.dvd_mul_left_of_dvd (Nat.pow_dvd_pow 2 hspacing) r
  · -- the next power of two, whose spacing is its own
    rw [heq, ← Nat.pow_add, spacing, Nat.log2_two_pow]
    exact Nat.pow_dvd_pow 2 (Nat.sub_le _ _)

end

end DeskCalc.Binary64
