import DeskCalc.Fault
import DeskCalc.Proofs.Binary64.Floats
import DeskCalc.Proofs.Binary64.Rounding

/-!
# Where rounding leaves the finite numbers

The rounding of a finite number fails, gives no number, overshoots to an infinity or gives a finite
number (`Ending`), and which of these it is depends on the number in one case only
(`ending_roundTo`). What may come of it is a failure, where the power of ten is too large for a
double, and a finite number (`Harmless`). All else comes from negative numbers of places, because
the guard looks at the scaled number, and a small power of ten takes every number below it:

* below `-323` places the power of ten is zero, and zero is divided by zero to scale back;
* from `-308` to `-293` places a number can be rounded up to a whole number that has no finite
  double when it is scaled back (`Overshoots`, `range_of_overshoots`).

From `-292` places on, what is small enough to be rounded is finite after it is scaled back.
-/

namespace DeskCalc

namespace Binary64

/-- The whole number that a number of units is rounded to after it is scaled. -/
def scaledWhole (places : Int) (units : Nat) : Nat :=
  (nearest (units * powerOfTen places) one + one / 2) / one

/-- The number is rounded, and what it is rounded to, scaled back, has no finite double nearest to
it. -/
def Overshoots (places : Int) : Binary64 → Prop
  | finite _ units =>
    0 < powerOfTen places ∧ nearest (units * powerOfTen places) one < wholeFrom ∧
      overflowFrom * powerOfTen places ≤ scaledWhole places units * one
  | _ => False

instance (places : Int) : ∀ b, Decidable (Overshoots places b)
  | finite _ _ => inferInstanceAs (Decidable (_ ∧ _ ∧ _))
  | nan | infinite _ => inferInstanceAs (Decidable False)

section
variable {places : Int} {negative : Bool} {units : Nat}

/-! ## Powers of ten -/

/-- A power of ten that is whole is no less than one. -/
theorem one_le_powerOfTen (d : Nat) : one ≤ powerOfTen d := by
  have hle : one ≤ 10 ^ d * one := Nat.le_mul_of_pos_left one (Nat.pow_pos (by decide))
  have hone : one = 2 ^ 53 * 2 ^ 1021 := by decide +kernel
  have hnearest : 2 ^ 53 * 2 ^ 1021 ≤ nearest (10 ^ d * one) 1 := by
    rw [pow_le_nearest_iff (by decide), Nat.mul_one, ← hone]
    omega
  rwa [← hone] at hnearest

/-- The power of ten is no longer zero from `-323` on. -/
theorem powerOfTen_pos_iff : 0 < powerOfTen places ↔ -323 ≤ places := by
  cases places with
  | ofNat d =>
    have hplaces : 0 ≤ Int.ofNat d := Int.natCast_nonneg d
    exact iff_of_true (Nat.lt_of_lt_of_le one_pos (one_le_powerOfTen d)) (by omega)
  | negSucc k =>
    rw [powerOfTen]
    split
    · next hk =>
      have hle : 10 ^ (k + 1) ≤ one :=
        calc 10 ^ (k + 1) ≤ 10 ^ 323 := by rwa [Nat.pow_le_pow_iff_right (by decide)]
          _ ≤ one := by decide +kernel
      exact iff_of_true (nearest_pos (Nat.pow_pos (by decide)) hle) (by omega)
    · exact iff_of_false (Nat.lt_irrefl 0) (by omega)

/-- From `-292` places on, a number that is rounded is finite after it is scaled back. -/
theorem wholeFrom_lt_mul_powerOfTen (h : -292 ≤ places) :
    wholeFrom < overflowFrom * powerOfTen places := by
  cases places with
  | ofNat d =>
    have hone : wholeFrom < overflowFrom * one := by decide +kernel
    exact Nat.lt_of_lt_of_le hone (Nat.mul_le_mul_left _ (one_le_powerOfTen d))
  | negSucc k =>
    have hten : 10 ^ (k + 1) ≤ 10 ^ 292 := by
      rw [Nat.pow_le_pow_iff_right (by decide)]
      omega
    have hnormal : 2 ^ 52 * 10 ^ (k + 1) ≤ one :=
      calc 2 ^ 52 * 10 ^ (k + 1) ≤ 2 ^ 52 * 10 ^ 292 := Nat.mul_le_mul_left _ hten
        _ ≤ one := by decide +kernel
    have hnear := (nearest_bounds (Nat.pow_pos (by decide)) hnormal).2
    have hpower : powerOfTen (.negSucc k) = nearest one (10 ^ (k + 1)) := if_pos (by omega)
    rw [hpower]
    generalize nearest one (10 ^ (k + 1)) = units at hnear
    refine Nat.lt_of_not_le fun hle => ?_
    have hscaled : overflowFrom * (units * 10 ^ (k + 1)) ≤ wholeFrom * 10 ^ 292 :=
      calc overflowFrom * (units * 10 ^ (k + 1)) = overflowFrom * units * 10 ^ (k + 1) :=
            (Nat.mul_assoc ..).symm
        _ ≤ wholeFrom * 10 ^ (k + 1) := Nat.mul_le_mul_right _ hle
        _ ≤ wholeFrom * 10 ^ 292 := Nat.mul_le_mul_left _ hten
    have hgap : 2 ^ 53 * (wholeFrom * 10 ^ 292) + overflowFrom * one <
        2 ^ 53 * (overflowFrom * one) := by decide +kernel
    have hoverflow := Nat.mul_le_mul_left overflowFrom hnear
    rw [Nat.mul_add, Nat.mul_left_comm _ (2 ^ 53), Nat.mul_left_comm _ (2 ^ 53)] at hoverflow
    omega

/-- Up to `-309` places the power of ten is below the normal numbers. -/
theorem powerOfTen_lt (h : places ≤ -309) : powerOfTen places < 2 ^ 48 := by
  have hall : ∀ j ∈ List.range 15, powerOfTen (.negSucc (308 + j)) < 2 ^ 48 := by decide +kernel
  cases places with
  | ofNat d =>
    have hplaces : 0 ≤ Int.ofNat d := Int.natCast_nonneg d
    omega
  | negSucc k =>
    rcases Nat.lt_or_ge k 323 with hk | hk
    · obtain ⟨j, rfl⟩ := Nat.exists_eq_add_of_le (by omega : 308 ≤ k)
      exact hall j (List.mem_range.2 (by omega))
    · have hzero : powerOfTen (.negSucc k) = 0 := if_neg (Nat.not_lt.2 hk)
      rw [hzero]
      decide

/-! ## The whole number -/

/-- Only numbers below `2 ^ 52` are rounded. -/
theorem scaledWhole_le (h : nearest (units * powerOfTen places) one < wholeFrom) :
    scaledWhole places units ≤ binade := by
  have hle : scaledWhole places units * one ≤ nearest (units * powerOfTen places) one + one / 2 :=
    Nat.div_mul_le_self _ _
  have hlt : scaledWhole places units * one < (binade + 1) * one := by
    have hhalf : one / 2 ≤ one := Nat.div_le_self one 2
    rw [wholeFrom] at h
    rw [Nat.add_mul, Nat.one_mul]
    omega
  rw [Nat.mul_lt_mul_right one_pos] at hlt
  exact Nat.le_of_lt_succ hlt

/-- Up to `-309` places every finite number is scaled to less than a half. -/
theorem scaledWhole_eq_zero (hplaces : places ≤ -309) (hlimit : units < limit) :
    scaledWhole places units = 0 := by
  have hscaled : units * powerOfTen places < 2 ^ 1072 * one := by
    have hlarge : limit * 2 ^ 48 ≤ 2 ^ 1072 * one := by decide +kernel
    exact Nat.lt_of_lt_of_le (Nat.mul_lt_mul'' hlimit (powerOfTen_lt hplaces)) hlarge
  have hhalf : half = 2 ^ 53 * 2 ^ 1020 := by decide +kernel
  have hlt : nearest (units * powerOfTen places) one < half := by
    refine Nat.lt_of_not_le fun hle => ?_
    rw [hhalf, pow_le_nearest_iff one_pos] at hle
    have hstep : 2 * (2 ^ 53 * 2 ^ 1020 * one) = 2 * (2 ^ 1072 * one) + 2 ^ 1073 * one := by
      decide +kernel
    have hsmall : 2 ^ 1020 * one ≤ 2 ^ 1073 * one := by decide +kernel
    omega
  refine Nat.div_eq_of_lt ?_
  have hone := one_eq
  rw [one_div_two]
  omega

/-- Only a few numbers of places, all of them negative, are too many for a large number. -/
theorem range_of_overshoots (hlimit : units < limit)
    (h : Overshoots places (finite negative units)) : -308 ≤ places ∧ places ≤ -293 := by
  obtain ⟨hpower, hscaled, hlarge⟩ := h
  constructor
  · refine Int.not_lt.1 fun hlow => ?_
    rw [scaledWhole_eq_zero (by omega) hlimit, Nat.zero_mul] at hlarge
    have hpos : 0 < overflowFrom * powerOfTen places := Nat.mul_pos (by decide +kernel) hpower
    omega
  · refine Int.not_lt.1 fun hhigh => ?_
    have hlt : wholeFrom < overflowFrom * powerOfTen places :=
      wholeFrom_lt_mul_powerOfTen (by omega)
    have hle := Nat.mul_le_mul_right one (scaledWhole_le hscaled)
    rw [wholeFrom] at hlt
    omega

/-! ## The ends of a rounding -/

/-- How the rounding of a finite number ends. -/
inductive Ending (places : Int) (negative : Bool) (units : Nat) :
    Except ScaleError Binary64 → Prop
  /-- There is no power of ten to scale by. -/
  | error (cause : ScaleError) (h : 309 ≤ places ∨ places ≤ -(overflowFrom : Int)) :
    Ending places negative units (.error cause)
  /-- The power of ten is zero. -/
  | nan (hlow : -(overflowFrom : Int) < places) (hhigh : places < -323) :
    Ending places negative units (.ok nan)
  /-- The rounded number is too large to be scaled back. -/
  | infinite (h : Overshoots places (finite negative units)) :
    Ending places negative units (.ok (infinite negative))
  /-- The rounded number is finite. -/
  | finite {rounded : Nat} (hlow : -323 ≤ places) (hhigh : places < 309)
    (h : ¬ Overshoots places (finite negative units))
    (hnumber : (finite negative rounded).IsNumber) :
    Ending places negative units (.ok (finite negative rounded))

/-- **How the rounding of a finite number ends**, for every number of places. -/
theorem ending_roundTo (h : (finite negative units).IsNumber) (places : Int) :
    Ending places negative units ((finite negative units).roundTo places) := by
  have hpower : 0 < powerOfTen places ↔ -323 ≤ places := powerOfTen_pos_iff
  by_cases hfails : 309 ≤ places ∨ places ≤ -(overflowFrom : Int)
  · obtain ⟨cause, hcause⟩ := (exists_roundTo_error_iff places _).2 ⟨⟨negative, units, rfl⟩, hfails⟩
    rw [hcause]
    exact .error cause hfails
  have hlow : -(overflowFrom : Int) < places := by omega
  have hhigh : places < 309 := by omega
  rw [roundTo_finite hlow hhigh]
  dsimp only
  rw [← scaledWhole]
  split
  · next hwhole =>
    -- the power of ten is not zero, or the number would have been scaled to zero
    refine .finite (hpower.1 (Nat.pos_of_ne_zero fun hzero => ?_)) hhigh
      (fun hover => Nat.not_lt.2 hwhole hover.2.1) h
    rw [hzero, Nat.mul_zero] at hwhole
    revert hwhole
    decide +kernel
  next hwhole =>
  split
  · next hzero => exact .nan hlow (by omega)
  next hzero =>
  have hpos := Nat.pos_of_ne_zero hzero
  have hover : limit ≤ nearest (scaledWhole places units * one * one) (powerOfTen places) ↔
      overflowFrom * powerOfTen places ≤ scaledWhole places units * one := by
    rw [limit_le_nearest_iff hpos, Nat.mul_right_comm, Nat.mul_le_mul_right_iff one_pos]
  rw [ofUnits]
  split
  · next hlimit =>
    exact .finite (hpower.1 hpos) hhigh
      (fun hovershoots => Nat.not_le.2 hlimit (hover.2 hovershoots.2.2))
      (.finite negative hlimit (onGrid_nearest _ hpos))
  · next hlimit =>
    exact .infinite ⟨hpos, Nat.not_le.1 hwhole, hover.1 (Nat.not_lt.1 hlimit)⟩

end

end Binary64

open Binary64

/-- What rounding to so many places may give for a finite number: a failure where the power of ten
is too large for a double, and a finite number everywhere else. -/
def Harmless (places : Int) : Except ScaleError Float → Prop
  | .error cause => 309 ≤ places ∧ (Fault.rounding cause).name = "OverflowError"
  | .ok y => places < 309 ∧ y.isFinite = true

instance (places : Int) : ∀ outcome, Decidable (Harmless places outcome)
  | .error _ | .ok _ => inferInstanceAs (Decidable (_ ∧ _))

/-- **When rounding keeps a finite number finite.** The places are too many for a power of ten, or
they are no less than `-323` and the rounded number does not overshoot the finite doubles; this it
can do from `-308` to `-293` places only. -/
theorem harmless_rounded_iff {x : Float} (hx : x.isFinite = true) (places : Int) :
    (Harmless places (rounded places x) ↔
        309 ≤ places ∨ -323 ≤ places ∧ ¬ Overshoots places (ofFloat x)) ∧
      (Overshoots places (ofFloat x) → -308 ≤ places ∧ places ≤ -293) := by
  obtain ⟨negative, units, hunits, hnumber⟩ := isNumber_of_isFinite hx
  rw [rounded, hunits]
  have hrange : Overshoots places (finite negative units) → -308 ≤ places ∧ places ≤ -293 := by
    cases hnumber with
    | finite _ hlimit _ => exact range_of_overshoots hlimit
  refine ⟨?_, hrange⟩
  have hend := ending_roundTo hnumber places
  generalize (finite negative units).roundTo places = outcome at hend
  cases hend with
  | error cause h =>
    have hlarge : 323 < overflowFrom := by decide +kernel
    rcases h with hhigh | hlow
    · exact iff_of_true ⟨hhigh, rfl⟩ (.inl hhigh)
    · refine iff_of_false (fun hfails => ?_) (by omega)
      have hhigh := hfails.1
      omega
  | nan hlow hhigh =>
    have hnan : ofFloat nan.toFloat = nan := by decide +kernel
    refine iff_of_false (fun hfinite => ?_) (by omega)
    obtain ⟨_, _, hsome⟩ := (isFinite_iff _).1 hfinite.2
    rw [hnan] at hsome
    cases hsome
  | infinite h =>
    have hplaces := hrange h
    refine iff_of_false (fun hfinite => ?_) fun hsafe => ?_
    · obtain ⟨_, _, hsome⟩ := (isFinite_iff _).1 hfinite.2
      rw [ofFloat_toFloat (.infinite negative)] at hsome
      cases hsome
    · exact hsafe.elim (fun hhigh => by omega) fun hnever => hnever.2 h
  | finite hlow hhigh h hrounded =>
    exact iff_of_true ⟨hhigh, (isFinite_iff _).2 ⟨_, _, ofFloat_toFloat hrounded⟩⟩
      (.inr ⟨hlow, h⟩)

/-- The greatest double is rounded up beyond the doubles at `-308` places, and stays as it is at
`-292`. -/
theorem harmless_greatest :
    ¬ Harmless (-308) (rounded (-308) (.ofBits 0x7fefffffffffffff)) ∧
      Harmless (-292) (rounded (-292) (.ofBits 0x7fefffffffffffff)) := by
  have hfinite : (Float.ofBits 0x7fefffffffffffff).isFinite = true := by decide +kernel
  rw [(harmless_rounded_iff hfinite (-308)).1, (harmless_rounded_iff hfinite (-292)).1]
  decide +kernel

/-- One is scaled to zero, which is divided by zero to scale it back. -/
theorem rounded_one_not_a_number :
    (finite false one).toFloat.isFinite = true ∧
      ¬ Harmless (-324) (rounded (-324) (finite false one).toFloat) := by
  decide +kernel

end DeskCalc
