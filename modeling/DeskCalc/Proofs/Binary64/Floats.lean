import Mathlib
import DeskCalc.Proofs.Binary64.Bits

/-!
# Floats

What a float stands for is what it was made from, if that is a number (`ofFloat_toFloat`): the bits
of a number are kept (`toBits_ofBits`), and only patterns of what is no number are lost, for which a
float has one in place of all.

The core library has its own tests on floats. They agree with what a float stands for: a float is no
number when it stands for none (`isNaN_iff`), and finite when it stands for a number of units
(`isFinite_iff`).
-/

namespace DeskCalc.Binary64

section
open Float.Model Float.Model.UnpackedFloat

/-! ## Bits -/

theorem toNat_unpackExponent (b : BitVec Format.binary64.numBits) :
    (unpackExponent b).toNat = b.toNat / binade % 2048 := by
  have hbinade : binade = 2 ^ 52 := rfl
  simp [unpackExponent, Nat.shiftRight_eq_div_pow, hbinade]

theorem toNat_unpackMantissa (b : BitVec Format.binary64.numBits) :
    (unpackMantissa b).toNat = b.toNat % binade := by
  have hbinade : binade = 2 ^ 52 := rfl
  simp [unpackMantissa, hbinade]

theorem unpackExponent_eq_last_iff (b : BitVec Format.binary64.numBits) :
    unpackExponent b = -1#(Format.binary64.exponentBits) ↔ b.toNat / binade % 2048 = 2047 := by
  rw [← toNat_unpackExponent, ← BitVec.toNat_inj]
  rfl

theorem unpackMantissa_eq_zero_iff (b : BitVec Format.binary64.numBits) :
    unpackMantissa b = 0#(Format.binary64.mantissaBitsWithoutImplicit) ↔
      b.toNat % binade = 0 := by
  rw [← toNat_unpackMantissa, ← BitVec.toNat_inj]
  rfl

/-- **A float keeps the bits of a number.** -/
theorem toBits_ofBits {x : UInt64} (h : ofBits x ≠ nan) : (Float.ofBits x).toBits = x := by
  refine UInt64.toBitVec_inj.1 (pack_unpack_of_valid ⟨fun hlast hfraction => absurd ?_ h⟩)
  have hexponent := (unpackExponent_eq_last_iff x.toBitVec).1 hlast
  have hzero := mt (unpackMantissa_eq_zero_iff x.toBitVec).2 hfraction
  rw [UInt64.toNat_toBitVec] at hexponent hzero
  rw [ofBits, if_pos hexponent, if_neg hzero]

/-- **What a float stands for is what it was made from**, if that is a number. -/
theorem ofFloat_toFloat {v : Binary64} (h : v.IsNumber) : ofFloat v.toFloat = v := by
  have hread := ofBits_toBits h
  have hne : ofBits v.toBits ≠ nan := by
    rw [hread]
    rintro rfl
    cases h
  rw [ofFloat, toFloat, toBits_ofBits hne, hread]

/-! ## Kinds of floats -/

/-- A float that the core library has unpacked, and a double of the same kind. -/
inductive SameKind : UnpackedFloat → Binary64 → Prop
  | nan : SameKind .notANumber nan
  | infinite (sign : Sign) (negative : Bool) : SameKind (.infinity sign) (infinite negative)
  | zero (sign : Sign) (negative : Bool) (units : Nat) :
    SameKind (.zero sign) (finite negative units)
  | finite {sign : Sign} {mantissa : Nat} {exponent : Int} (hpos : 0 < mantissa)
    (negative : Bool) (units : Nat) :
    SameKind (.finite sign mantissa exponent hpos) (finite negative units)

/-- The core library finds the same kind in the bits. -/
theorem sameKind_ofBits (x : UInt64) :
    SameKind (UnpackedFloat.unpack Format.binary64 x.toBitVec) (ofBits x) := by
  have hlast := unpackExponent_eq_last_iff x.toBitVec
  have hzero := unpackMantissa_eq_zero_iff x.toBitVec
  rw [UInt64.toNat_toBitVec] at hlast hzero
  rw [UnpackedFloat.unpack, ofBits]
  dsimp only
  split
  · next h =>
    rw [if_pos (hlast.1 h)]
    split
    · next hm => rw [if_pos (hzero.1 hm)]; exact .infinite _ _
    · next hm => rw [if_neg (mt hzero.2 hm)]; exact .nan
  · next h =>
    -- both cases of `ofBits` that are left are finite
    rw [if_neg (mt hlast.2 h), ← apply_ite]
    split
    · split
      · exact .zero _ _ _
      · exact .finite _ _ _
    · exact .finite _ _ _

theorem sameKind_ofFloat (x : Float) : SameKind x.toModel.unpack (ofFloat x) :=
  sameKind_ofBits x.toBits

end

/-- A float is no number when it stands for none. -/
theorem isNaN_iff (x : Float) : x.isNaN = true ↔ ofFloat x = nan := by
  have hkind := sameKind_ofFloat x
  have htest : x.isNaN = x.toModel.unpack.isNaN := rfl
  rw [htest]
  generalize x.toModel.unpack = u, ofFloat x = b at hkind
  cases hkind with
  | nan => exact iff_of_true rfl rfl
  | infinite | zero | finite => exact iff_of_false nofun nofun

/-- A float is finite when it stands for a number of units. -/
theorem isFinite_iff (x : Float) :
    x.isFinite = true ↔ ∃ negative units, ofFloat x = finite negative units := by
  have hkind := sameKind_ofFloat x
  have htest : x.isFinite = x.toModel.unpack.isFinite := rfl
  rw [htest]
  generalize x.toModel.unpack = u, ofFloat x = b at hkind
  cases hkind with
  | nan | infinite => exact iff_of_false nofun fun ⟨_, _, h⟩ => nomatch h
  | zero _ negative units | finite _ negative units =>
    exact iff_of_true rfl ⟨negative, units, rfl⟩

/-- A finite float stands for a number of units on the grid and below the limit. -/
theorem isNumber_of_isFinite {x : Float} (h : x.isFinite = true) :
    ∃ negative units, ofFloat x = finite negative units ∧ (finite negative units).IsNumber := by
  obtain ⟨negative, units, hx⟩ := (isFinite_iff x).1 h
  have hnumber : (ofFloat x).IsNumber := isNumber_ofBits fun hnan => by
    rw [← ofFloat, hx] at hnan
    cases hnan
  exact ⟨negative, units, hx, hx ▸ hnumber⟩

/-- A number makes a float that is a number. -/
theorem isNaN_toFloat {b : Binary64} (h : b.IsNumber) : b.toFloat.isNaN = false := by
  refine Bool.eq_false_iff.2 fun hnan => ?_
  rw [isNaN_iff, ofFloat_toFloat h] at hnan
  rw [hnan] at h
  cases h

end DeskCalc.Binary64
