import DeskCalc.Proofs.Binary64.Nearest

/-!
# Doubles and their bits

A number is an infinity or a number of units on the grid and below the limit (`IsNumber`). The
nearest double is one (`isNumber_ofRatio`), and so is what bits stand for, if it is not no number
(`isNumber_ofBits`). A number is read back from its bits (`ofBits_toBits`).
-/

namespace DeskCalc

namespace Binary64

/-- An infinity, or a number of units on the grid and below the limit. -/
inductive IsNumber : Binary64 → Prop
  | infinite (negative : Bool) : IsNumber (infinite negative)
  | finite {units : Nat} (negative : Bool) (hlimit : units < limit) (hgrid : OnGrid units) :
    IsNumber (finite negative units)

section
variable {units num den exponent fraction : Nat} {negative : Bool} {b : Binary64} {x : UInt64}

/-- The nearest double is a number. -/
theorem isNumber_ofRatio (negative : Bool) (num : Nat) (hden : 0 < den) :
    (ofRatio negative num den).IsNumber := by
  rw [ofRatio, ofUnits]
  split
  · next hlimit => exact .finite negative hlimit (onGrid_nearest _ hden)
  · exact .infinite negative

/-! ## Bits -/

/-- Bits are taken apart into the sign, the exponent and the fraction. -/
theorem ofBits_ofNat (negative : Bool) (hexponent : exponent < 2048)
    (hfraction : fraction < binade) :
    ofBits (.ofNat ((if negative then signBit else 0) + (exponent * binade + fraction))) =
      if exponent = 2047 then if fraction = 0 then infinite negative else nan
      else if exponent = 0 then finite negative fraction
      else finite negative ((binade + fraction) * 2 ^ (exponent - 1)) := by
  have hbinade : binade = 4503599627370496 := rfl
  have hsignBit : signBit = 9223372036854775808 := rfl
  generalize hbits : (if negative then signBit else 0) + (exponent * binade + fraction) = bits
  rw [hbinade] at hfraction
  rw [hbinade, hsignBit] at hbits
  have hword : (UInt64.ofNat bits).toNat = bits := by
    rw [UInt64.toNat_ofNat', Nat.mod_eq_of_lt]
    split at hbits <;> omega
  have hsign : decide (signBit ≤ bits) = negative := by
    rw [hsignBit]
    cases negative <;> simp at hbits ⊢ <;> omega
  have hexp : bits / binade % 2048 = exponent := by
    rw [hbinade]
    split at hbits <;> omega
  have hfrac : bits % binade = fraction := by
    rw [hbinade]
    split at hbits <;> omega
  rw [ofBits, hword, hsign, hexp, hfrac]
  rfl

theorem spacing_le_of_lt_limit (h : units < limit) : spacing units ≤ lastSpacing := by
  have hlimit : limit = 2 ^ 53 * 2 ^ lastSpacing := by decide +kernel
  refine spacing_le_of_lt ?_
  rwa [Nat.pow_add, ← hlimit]

/-- A magnitude below the first normal double is its own fraction. -/
theorem magnitudeBits_of_lt (h : units < binade) : magnitudeBits units = 0 * binade + units := by
  have hspacing : spacing units ≤ 0 := spacing_le_of_lt (Nat.lt_trans h (by decide))
  rw [magnitudeBits, Nat.le_zero.1 hspacing]
  exact congrArg _ (Nat.div_one units)

/-- The exponent of any other counts its spacing from one, and the fraction has no leading bit. -/
theorem magnitudeBits_of_le (h : binade ≤ units) :
    ∃ fraction < binade, units / 2 ^ spacing units = binade + fraction ∧
      magnitudeBits units = (spacing units + 1) * binade + fraction := by
  have hlow : binade ≤ units / 2 ^ spacing units :=
    (Nat.le_div_iff_mul_le (Nat.two_pow_pos _)).2 (pow_spacing_le h)
  have hhigh : units / 2 ^ spacing units < 2 ^ 53 :=
    (Nat.div_lt_iff_lt_mul (Nat.two_pow_pos _)).2 (lt_of_spacing units)
  obtain ⟨fraction, hfraction⟩ := Nat.exists_eq_add_of_le hlow
  have hbinade : binade + binade = 2 ^ 53 := rfl
  refine ⟨fraction, by omega, hfraction, ?_⟩
  calc magnitudeBits units = spacing units * binade + units / 2 ^ spacing units := rfl
    _ = spacing units * binade + (binade + fraction) := by rw [hfraction]
    _ = (spacing units + 1) * binade + fraction := by rw [Nat.add_mul, Nat.one_mul, Nat.add_assoc]

/-- **A number is read back from its bits.** -/
theorem ofBits_toBits (h : b.IsNumber) : ofBits b.toBits = b := by
  cases h with
  | infinite negative =>
    have hread := @ofBits_ofNat 2047 0 negative (by decide) (by decide)
    rwa [Nat.add_zero, if_pos rfl, if_pos rfl] at hread
  | @finite units negative hlimit hgrid =>
    rw [toBits]
    rcases Nat.lt_or_ge units binade with hlt | hge
    · rw [magnitudeBits_of_lt hlt, ofBits_ofNat negative (by decide) hlt]
      rfl
    · obtain ⟨fraction, hfraction, hparts, hbits⟩ := magnitudeBits_of_le hge
      have hspacing := spacing_le_of_lt_limit hlimit
      have hlast : lastSpacing = 2045 := rfl
      rw [hbits, ofBits_ofNat negative (by omega) hfraction, if_neg (by omega), if_neg (by omega),
        Nat.add_sub_cancel, ← hparts, Nat.div_mul_cancel hgrid]

/-- Bits stand for a number on the grid and below the limit, for an infinity or for no number. -/
theorem isNumber_ofBits (h : ofBits x ≠ nan) : (ofBits x).IsNumber := by
  have hfraction : x.toNat % binade < binade := Nat.mod_lt _ (by decide)
  have hexponent : x.toNat / binade % 2048 < 2048 := Nat.mod_lt _ (by decide)
  rw [ofBits] at h ⊢
  generalize x.toNat % binade = fraction, x.toNat / binade % 2048 = exponent
    at h hfraction hexponent
  split
  · split
    · exact .infinite _
    · next hlast hzero =>
      rw [if_pos hlast, if_neg hzero] at h
      exact absurd rfl h
  next hlast =>
  split
  · have hlt : fraction < 2 ^ (53 + 0) := Nat.lt_trans hfraction (by decide)
    refine .finite _ (Nat.lt_trans hfraction (by decide +kernel)) ?_
    rw [OnGrid, Nat.le_zero.1 (spacing_le_of_lt hlt)]
    exact Nat.one_dvd _
  · have hlimit : limit = 2 ^ 53 * 2 ^ lastSpacing := by decide +kernel
    have hbinade : binade + binade = 2 ^ 53 := rfl
    have hlastSpacing : lastSpacing = 2045 := rfl
    have hlt : (binade + fraction) * 2 ^ (exponent - 1) < 2 ^ 53 * 2 ^ (exponent - 1) :=
      Nat.mul_lt_mul_of_pos_right (by omega) (Nat.two_pow_pos _)
    refine .finite _ (Nat.lt_of_lt_of_le hlt ?_) ?_
    · rw [hlimit]
      exact Nat.mul_le_mul_left _ (Nat.pow_le_pow_right (by decide) (by omega))
    · rw [← Nat.pow_add] at hlt
      exact Nat.dvd_mul_left_of_dvd (Nat.pow_dvd_pow 2 (spacing_le_of_lt hlt)) _

end

end Binary64

end DeskCalc
