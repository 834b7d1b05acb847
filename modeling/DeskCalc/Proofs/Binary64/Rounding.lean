import DeskCalc.Proofs.Binary64.Bits

/-!
# Rounding what is rounded

The double nearest to a decimal fraction with `d` places is left alone when it is rounded to `d`
places, up to 22, unless it drifts (`roundTo_eq_self_iff`), and so is what was rounded to `d` places
before (`roundTo_again_iff`).

Scaled exactly, such a double is less than a half from the numerator of the fraction
(`scaled_near`). But from `2 ^ 51` on the doubles have a spacing of a half, so what is more than a
quarter above the numerator is scaled to a half above it, and a half is rounded away from zero. From
`2 ^ 52` on all doubles are whole and nothing is rounded.
-/

namespace DeskCalc.Binary64

/-- Scaled exactly by `10 ^ d`, the number is more than a quarter above the whole number nearest to
it, and this is below `2 ^ 52`. -/
def Drifts (d : Nat) : Binary64 → Prop
  | finite _ units =>
    let whole := (units * 10 ^ d + one / 2) / one
    whole < 2 ^ 52 ∧ (4 * whole + 1) * one < 4 * (units * 10 ^ d)
  | _ => False

instance (d : Nat) : ∀ b, Decidable (Drifts d b)
  | finite _ _ => inferInstanceAs (Decidable (_ ∧ _))
  | nan | infinite _ => inferInstanceAs (Decidable False)

/-- The exponent of the spacing of the doubles below `2 ^ 52`. -/
@[irreducible] def halfSpacing : Nat := 1073

/-- The number of units that make a half. -/
def half : Nat := 2 ^ halfSpacing

/-- The number of units that make a quarter. -/
def quarter : Nat := 2 ^ (halfSpacing - 1)

section
variable {d k m j units : Nat} {negative : Bool} {v w : Binary64}

theorem one_eq : one = 2 * half := by decide +kernel

theorem half_pos : 0 < half := Nat.two_pow_pos halfSpacing

theorem one_pos : 0 < one := by
  rw [one_eq]
  exact Nat.mul_pos (by decide) half_pos

/-- A whole number counted in halves. -/
theorem mul_one_eq (k : Nat) : k * one = 2 * k * half := by
  rw [one_eq, ← Nat.mul_assoc, Nat.mul_comm k 2]

theorem one_div_two : one / 2 = half := by
  rw [one_eq, Nat.mul_div_cancel_left half (by decide)]

/-! ## Scaling -/

/-- Powers of ten are exact up to 22 places. -/
theorem powerOfTen_eq (hd : d ≤ 22) : powerOfTen d = 10 ^ d * one := by
  have hall : ∀ d ∈ List.range 23, powerOfTen (d : Nat) = 10 ^ d * one := by decide +kernel
  exact hall d (List.mem_range.2 (by omega))

/-- To 22 places a number is scaled by a whole number. -/
theorem roundTo_eq (hd : d ≤ 22) (negative : Bool) (units : Nat) :
    (finite negative units).roundTo d =
      if wholeFrom ≤ nearest (units * 10 ^ d) 1 then .ok (finite negative units)
      else .ok (ofRatio negative ((nearest (units * 10 ^ d) 1 + half) / one) (10 ^ d)) := by
  have hlarge : 22 < overflowFrom := by decide +kernel
  have hscaled : nearest (units * (10 ^ d * one)) one = nearest (units * 10 ^ d) 1 := by
    have hcancel := nearest_mul_right (units * 10 ^ d) 1 one_pos
    rwa [Nat.one_mul, Nat.mul_assoc] at hcancel
  have hscale : ¬ 10 ^ d * one = 0 := Nat.ne_of_gt (Nat.mul_pos (Nat.pow_pos (by decide)) one_pos)
  rw [roundTo_finite (by omega) (by omega), powerOfTen_eq hd, one_div_two]
  dsimp only
  rw [hscaled, if_neg hscale]
  split
  · rfl
  · rw [nearest_mul_right _ _ one_pos]
    rfl

/-- Scaled back exactly, the double nearest to a decimal fraction is off by one part in `2 ^ 53` at
most. -/
theorem scaled_bounds (hd : d ≤ 22) (k : Nat) :
    2 ^ 53 * (nearest (k * one) (10 ^ d) * 10 ^ d) ≤ 2 ^ 53 * (k * one) + k * one ∧
      2 ^ 53 * (k * one) ≤ 2 ^ 53 * (nearest (k * one) (10 ^ d) * 10 ^ d) + k * one := by
  rcases Nat.eq_zero_or_pos k with rfl | hk
  · simp [nearest, roundHalfEven]
  · refine nearest_bounds (Nat.pow_pos (by decide)) ?_
    have hsmall : 2 ^ 52 * 10 ^ 22 ≤ one := by decide +kernel
    calc 2 ^ 52 * 10 ^ d ≤ 2 ^ 52 * 10 ^ 22 :=
          Nat.mul_le_mul_left _ (Nat.pow_le_pow_right (by decide) hd)
      _ ≤ one := hsmall
      _ ≤ k * one := Nat.le_mul_of_pos_left one hk

/-- So with a numerator below `2 ^ 52` it is less than a half from the numerator. -/
theorem scaled_near (hd : d ≤ 22) (hk : k < 2 ^ 52) (h : nearest (k * one) (10 ^ d) = units) :
    2 * k * half < units * 10 ^ d + half ∧ units * 10 ^ d < (2 * k + 1) * half := by
  have hbounds := h ▸ scaled_bounds hd k
  have hle := mul_add_le_mul hk one
  have hpos := half_pos
  rw [Nat.add_mul, Nat.one_mul]
  rw [mul_one_eq] at hbounds hle
  rw [one_eq] at hle
  omega

/-! ## The whole number -/

theorem wholeFrom_eq : wholeFrom = 2 ^ 53 * half := by decide +kernel

theorem spacing_le_of_lt_wholeFrom (h : m < wholeFrom) : spacing m ≤ halfSpacing := by
  refine spacing_le_of_lt ?_
  rwa [Nat.pow_add, ← half, ← wholeFrom_eq]

/-- The nearest double does not pass a multiple of a half that is a half below. -/
theorem le_nearest_add_half (hm : m < wholeFrom) (h : j * half ≤ m + half) :
    j * half ≤ nearest m 1 + half := by
  cases j with
  | zero => rw [Nat.zero_mul]; exact Nat.zero_le _
  | succ j =>
    rw [Nat.add_mul, Nat.one_mul] at h ⊢
    exact Nat.add_le_add_right
      (le_nearest_of_le (spacing_le_of_lt_wholeFrom hm) (Nat.le_of_add_le_add_right h)) half

/-- Where doubles are a half apart, what is no more than a quarter above a whole number is rounded
to it. -/
theorem nearest_le_iff (hspacing : spacing m = halfSpacing) :
    nearest m 1 ≤ 2 * k * half ↔ 4 * m ≤ (4 * k + 1) * one := by
  rw [nearest_one, hspacing, ← half, Nat.mul_le_mul_right_iff half_pos,
    roundHalfEven_le_iff (Nat.mul_mod_right 2 k) m half_pos, one_eq, Nat.add_mul, Nat.mul_assoc 2 k,
    Nat.mul_assoc 4 k, Nat.mul_left_comm k 2]
  omega

/-- What is no more than a quarter above a whole number is less than a half above it after it is
rounded. -/
theorem nearest_lt_of_le (hm : m < wholeFrom) (h : 4 * m ≤ (4 * k + 1) * one) :
    nearest m 1 < (2 * k + 1) * half := by
  rcases Nat.lt_or_eq_of_le (spacing_le_of_lt_wholeFrom hm) with hlt | heq
  · -- the doubles are a quarter apart at most
    have hhalf : half = 2 * quarter := by decide +kernel
    have hle : m ≤ (4 * k + 1) * quarter := by
      rw [one_eq, hhalf, ← Nat.mul_assoc 2 2, Nat.mul_left_comm] at h
      omega
    refine Nat.lt_of_le_of_lt (nearest_le_of_le (Nat.le_sub_one_of_lt hlt) hle) ?_
    rw [hhalf, ← Nat.mul_assoc]
    exact Nat.mul_lt_mul_of_pos_right (by omega) (Nat.two_pow_pos _)
  · have hle := (nearest_le_iff heq).2 h
    rw [Nat.add_mul, Nat.one_mul]
    exact Nat.lt_of_le_of_lt hle (Nat.lt_add_of_pos_right half_pos)

/-- What is more than a quarter above a whole number from `2 ^ 51` on is at least a half above it
after it is rounded. -/
theorem le_nearest_of_lt (hm : m < wholeFrom) (hk : 2 ^ 51 ≤ k) (h : (4 * k + 1) * one < 4 * m) :
    (2 * k + 1) * half ≤ nearest m 1 := by
  have hlarge : 2 ^ 52 * half ≤ m := by
    have hle := Nat.mul_le_mul_right one hk
    rw [Nat.add_mul, Nat.mul_assoc] at h
    rw [one_eq] at h hle
    omega
  have hspacing : spacing m = halfSpacing := by
    refine Nat.le_antisymm (spacing_le_of_lt_wholeFrom hm) ?_
    have hne : m ≠ 0 := by have := half_pos; omega
    have hlog : 52 + halfSpacing ≤ m.log2 := (Nat.le_log2 hne).2 (by rwa [Nat.pow_add, ← half])
    exact Nat.le_sub_of_add_le' hlog
  have hlt := Nat.lt_of_not_le (mt (nearest_le_iff hspacing).1 (Nat.not_le_of_lt h))
  rw [nearest_one, hspacing, ← half] at hlt ⊢
  exact Nat.mul_le_mul_right half (Nat.lt_of_mul_lt_mul_right hlt)

/-- A number within a half of a whole one is taken for it. -/
theorem add_half_div_one (hlow : 2 * k * half ≤ m + half) (hhigh : m < (2 * k + 1) * half) :
    (m + half) / one = k := by
  refine Nat.div_eq_of_lt_le (by rwa [mul_one_eq]) ?_
  rw [Nat.add_mul] at hhigh
  rw [mul_one_eq, Nat.mul_add, Nat.add_mul]
  omega

/-! ## Decimal fractions -/

/-- Scaled exactly, the double of a decimal fraction is nearest to the numerator. -/
theorem whole_eq (hd : d ≤ 22) (hk : k < 2 ^ 52) (h : nearest (k * one) (10 ^ d) = units) :
    (units * 10 ^ d + half) / one = k := by
  obtain ⟨hlow, hhigh⟩ := scaled_near hd hk h
  exact add_half_div_one (Nat.le_of_lt hlow) hhigh

theorem drifts_iff (hd : d ≤ 22) (hk : k < 2 ^ 52) (h : nearest (k * one) (10 ^ d) = units) :
    Drifts d (finite negative units) ↔ (4 * k + 1) * one < 4 * (units * 10 ^ d) := by
  rw [Drifts, one_div_two, whole_eq hd hk h, and_iff_right hk]

theorem scaled_lt_wholeFrom (hd : d ≤ 22) (hk : k < 2 ^ 52)
    (h : nearest (k * one) (10 ^ d) = units) : units * 10 ^ d < wholeFrom := by
  have hodd : 2 * k + 1 ≤ 2 ^ 53 := by omega
  rw [wholeFrom_eq]
  exact Nat.lt_of_lt_of_le (scaled_near hd hk h).2 (Nat.mul_le_mul_right half hodd)

/-- Without a drift the numerator is found again. -/
theorem roundTo_of_not_drifts (hd : d ≤ 22) (hk : k < 2 ^ 52)
    (h : nearest (k * one) (10 ^ d) = units) (hdrifts : ¬ Drifts d (finite negative units)) :
    (finite negative units).roundTo d = .ok (ofRatio negative k (10 ^ d)) := by
  have hm := scaled_lt_wholeFrom hd hk h
  have hlt := nearest_lt_of_le hm (Nat.le_of_not_lt (mt (drifts_iff hd hk h).2 hdrifts))
  have hlow := le_nearest_add_half hm (Nat.le_of_lt (scaled_near hd hk h).1)
  have hfew : ¬ wholeFrom ≤ nearest (units * 10 ^ d) 1 := by
    have hodd : 2 * k + 1 ≤ 2 ^ 53 := by omega
    rw [wholeFrom_eq]
    exact Nat.not_le_of_lt (Nat.lt_of_lt_of_le hlt (Nat.mul_le_mul_right half hodd))
  rw [roundTo_eq hd, if_neg hfew, add_half_div_one hlow hlt]

/-- Only a numerator from `2 ^ 51` on is missed by more than a quarter. -/
theorem pow_le_of_drifts (hd : d ≤ 22) (hk : k < 2 ^ 52) (h : nearest (k * one) (10 ^ d) = units)
    (hdrifts : Drifts d (finite negative units)) : 2 ^ 51 ≤ k := by
  have hfar := (drifts_iff hd hk h).1 hdrifts
  have hbound := h ▸ (scaled_bounds hd k).1
  rw [Nat.add_mul, Nat.mul_assoc] at hfar
  refine Nat.le_of_mul_le_mul_right (c := one) ?_ one_pos
  omega

/-- With a drift the next numerator is found. -/
theorem roundTo_of_drifts (hd : d ≤ 22) (hk : k < 2 ^ 52)
    (h : nearest (k * one) (10 ^ d) = units) (hdrifts : Drifts d (finite negative units)) :
    (finite negative units).roundTo d = .ok (ofRatio negative (k + 1) (10 ^ d)) := by
  have hm := scaled_lt_wholeFrom hd hk h
  have hfar := (drifts_iff hd hk h).1 hdrifts
  have hlow := le_nearest_of_lt hm (pow_le_of_drifts hd hk h hdrifts) hfar
  have hhigh : nearest (units * 10 ^ d) 1 ≤ (2 * k + 1) * half :=
    nearest_le_of_le (spacing_le_of_lt_wholeFrom hm) (Nat.le_of_lt (scaled_near hd hk h).2)
  have hfew : ¬ wholeFrom ≤ nearest (units * 10 ^ d) 1 := by
    have hodd : 2 * k + 1 < 2 ^ 53 := by omega
    rw [wholeFrom_eq]
    exact Nat.not_le_of_lt
      (Nat.lt_of_le_of_lt hhigh (Nat.mul_lt_mul_of_pos_right hodd half_pos))
  have hwhole : (nearest (units * 10 ^ d) 1 + half) / one = k + 1 := by
    refine add_half_div_one ?_ ?_
    · rw [Nat.mul_add, Nat.add_mul]
      rw [Nat.add_mul] at hlow
      omega
    · refine Nat.lt_of_le_of_lt hhigh (Nat.mul_lt_mul_of_pos_right ?_ half_pos)
      omega
  rw [roundTo_eq hd, if_neg hfew, hwhole]

/-- The next numerator has another double. -/
theorem nearest_succ_ne (hd : d ≤ 22) (hk : k < 2 ^ 52) :
    nearest ((k + 1) * one) (10 ^ d) ≠ nearest (k * one) (10 ^ d) := by
  intro h
  have hnext := (scaled_bounds hd (k + 1)).2
  have hbound := (scaled_bounds hd k).1
  have hle := mul_add_le_mul hk one
  have hpos := one_pos
  rw [h, Nat.add_mul] at hnext
  omega

/-- Nothing drifts that is no less than a half below `2 ^ 52`. -/
theorem not_drifts_of_le (h : 2 ^ 52 * one ≤ units * 10 ^ d + half) :
    ¬ Drifts d (finite negative units) := by
  rintro ⟨hwhole, -⟩
  rw [one_div_two] at hwhole
  exact Nat.not_le_of_lt hwhole ((Nat.le_div_iff_mul_le one_pos).2 h)

/-- Numbers from a quarter below `2 ^ 52` on are not rounded. -/
theorem wholeFrom_le_nearest_iff : wholeFrom ≤ nearest m 1 ↔ 2 * wholeFrom ≤ 2 * m + half := by
  rw [wholeFrom_eq, half, pow_le_nearest_iff (by decide), Nat.mul_one, Nat.mul_one]

/-- A numerator from `2 ^ 52` on is found again, if it is looked for. -/
theorem roundTo_of_large (hd : d ≤ 22) (hk : 2 ^ 52 ≤ k)
    (h : nearest (k * one) (10 ^ d) = units)
    (hratio : ofRatio negative k (10 ^ d) = finite negative units) :
    (finite negative units).roundTo d = .ok (finite negative units) ∧
      ¬ Drifts d (finite negative units) := by
  have hbound := h ▸ (scaled_bounds hd k).2
  have hle := Nat.mul_le_mul_right one hk
  have hnear : 2 ^ 53 * half ≤ units * 10 ^ d + half := by
    rw [one_eq] at hbound hle
    omega
  refine ⟨?_, not_drifts_of_le (by rwa [one_eq, ← Nat.mul_assoc])⟩
  rw [roundTo_eq hd]
  split
  · rfl
  next hfew =>
  have hfar := mt wholeFrom_le_nearest_iff.2 hfew
  have hm : units * 10 ^ d < wholeFrom := by omega
  have hkeq : k = 2 ^ 52 := by
    refine Nat.le_antisymm (Nat.le_of_not_lt fun hlt => ?_) hk
    have hnext := mul_add_le_mul hlt one
    rw [wholeFrom_eq] at hm
    rw [one_eq] at hbound hnext
    omega
  have hwhole : (nearest (units * 10 ^ d) 1 + half) / one = k := by
    have hlow := le_nearest_add_half hm hnear
    have hlt := Nat.lt_of_not_le hfew
    rw [wholeFrom_eq] at hlt
    refine add_half_div_one ?_ ?_
    · rwa [hkeq, ← Nat.pow_succ']
    · rw [hkeq, Nat.add_mul]
      omega
  rw [hwhole, hratio]

/-- What `ofRatio` gives if it is finite. -/
theorem nearest_of_ofRatio {num den : Nat} {sign : Bool}
    (h : ofRatio negative num den = finite sign units) :
    sign = negative ∧ nearest (num * one) den = units := by
  rw [ofRatio, ofUnits] at h
  split at h
  · cases h; exact ⟨rfl, rfl⟩
  · cases h

/-- A finite double nearest to a decimal fraction is left alone unless it drifts. -/
theorem roundTo_ofRatio_iff (hd : d ≤ 22)
    (h : ofRatio negative k (10 ^ d) = finite negative units) :
    (finite negative units).roundTo d = .ok (finite negative units) ↔
      ¬ Drifts d (finite negative units) := by
  obtain ⟨-, hunits⟩ := nearest_of_ofRatio h
  rcases Nat.lt_or_ge k (2 ^ 52) with hk | hk
  · constructor
    · intro hsame hdrifts
      rw [roundTo_of_drifts hd hk hunits hdrifts] at hsame
      obtain ⟨-, hnext⟩ := nearest_of_ofRatio (Except.ok.inj hsame)
      exact nearest_succ_ne hd hk (hnext.trans hunits.symm)
    · intro hdrifts
      rw [roundTo_of_not_drifts hd hk hunits hdrifts, h]
  · exact iff_of_true (roundTo_of_large hd hk hunits h).1 (roundTo_of_large hd hk hunits h).2

/-- **The double nearest to a decimal fraction is left alone unless it drifts.** -/
theorem roundTo_eq_self_iff (hd : d ≤ 22) (h : ofRatio negative k (10 ^ d) = v) :
    v.roundTo d = .ok v ↔ ¬ Drifts d v := by
  cases v with
  | nan | infinite => exact iff_of_true rfl id
  | finite sign units =>
    obtain ⟨rfl, -⟩ := nearest_of_ofRatio h
    exact roundTo_ofRatio_iff hd h

/-- Only numerators from `2 ^ 51` and below `2 ^ 52` can drift. -/
theorem numerator_of_drifts (hd : d ≤ 22) (h : ofRatio negative k (10 ^ d) = v)
    (hdrifts : Drifts d v) : 2 ^ 51 ≤ k ∧ k < 2 ^ 52 := by
  cases v with
  | nan | infinite => exact hdrifts.elim
  | finite sign units =>
    obtain ⟨rfl, hunits⟩ := nearest_of_ofRatio h
    have hk : k < 2 ^ 52 := by
      refine Nat.lt_of_not_le fun hle => ?_
      exact (roundTo_of_large hd hle hunits h).2 hdrifts
    exact ⟨pow_le_of_drifts hd hk hunits hdrifts, hk⟩

/-- **So is what was rounded to as many places before.** -/
theorem roundTo_again_iff (hd : d ≤ 22) (h : v.roundTo d = .ok w) :
    w.roundTo d = .ok w ↔ ¬ Drifts d w := by
  cases v with
  | nan | infinite => cases h; exact iff_of_true rfl id
  | finite negative units =>
    have hsame := h
    rw [roundTo_eq hd] at h
    split at h
    · next hwhole =>
      cases h
      refine iff_of_true hsame (not_drifts_of_le ?_)
      have hnear := wholeFrom_le_nearest_iff.1 hwhole
      rw [wholeFrom_eq] at hnear
      rw [one_eq]
      omega
    · cases w with
      | nan | infinite => exact iff_of_true rfl id
      | finite sign rounded =>
        obtain ⟨rfl, -⟩ := nearest_of_ofRatio (Except.ok.inj h)
        exact roundTo_ofRatio_iff hd (Except.ok.inj h)

/-- What was rounded is a number. -/
theorem isNumber_of_roundTo (hd : d ≤ 22) (hv : v.IsNumber) (h : v.roundTo d = .ok w) :
    w.IsNumber := by
  cases v with
  | nan | infinite => cases h; exact hv
  | finite negative units =>
    rw [roundTo_eq hd] at h
    split at h
    · cases h; exact hv
    · exact Except.ok.inj h ▸ isNumber_ofRatio negative _ (Nat.pow_pos (by decide))

/-- A decimal fraction can be written with more places. -/
theorem ofRatio_pow_le (negative : Bool) (n : Nat) (hd : j ≤ d) :
    ofRatio negative (n * 10 ^ (d - j)) (10 ^ d) = ofRatio negative n (10 ^ j) := by
  have hpow : 10 ^ d = 10 ^ j * 10 ^ (d - j) := by rw [← Nat.pow_add, Nat.add_sub_cancel' hd]
  rw [ofRatio, ofRatio, hpow, Nat.mul_right_comm, nearest_mul_right _ _ (Nat.pow_pos (by decide))]

end

end DeskCalc.Binary64
