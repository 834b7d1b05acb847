/-!
# Doubles, exactly

A finite double is a sign and a whole number of units, where the unit `2 ^ -1074` is the least
positive double. All exact work is done on units: `nearest` rounds any quotient of naturals to the
grid of the doubles, a half going to the neighbour with the even significand, and `ofRatio` is the
double nearest to a fraction. Reading a numeral, scaling by a power of ten and testing whether a
short decimal reads back are all instances of it.

The grid goes on above the greatest finite double, as if the exponent had no bound; `ofUnits` then
takes what lies there to infinity.
-/

namespace DeskCalc

/-- What a double stands for. -/
inductive Binary64
  /-- No number. -/
  | nan
  /-- An infinity of either sign. -/
  | infinite (negative : Bool)
  /-- The number of units, and the sign, which zero has as well. -/
  | finite (negative : Bool) (units : Nat)
  deriving DecidableEq

namespace Binary64

/-- The number of units that make one. -/
def one : Nat := Nat.pow 2 1074

/-- The least number of units that no finite double has. -/
def limit : Nat := Nat.pow 2 2098

/-- The quotient rounded to a natural number, a half to the even neighbour. -/
def roundHalfEven (num den : Nat) : Nat :=
  let low := num / den
  let rest := num % den
  if 2 * rest < den then low
  else if den < 2 * rest then low + 1
  else low + low % 2

/-- Twice the rounded quotient is at most one from twice the quotient. -/
theorem roundHalfEven_bounds (num : Nat) {den : Nat} (h : 0 < den) :
    2 * (roundHalfEven num den * den) ≤ 2 * num + den ∧
      2 * num ≤ 2 * (roundHalfEven num den * den) + den := by
  have parts := Nat.div_add_mod num den
  have small := Nat.mod_lt num h
  rw [Nat.mul_comm] at parts
  unfold roundHalfEven
  dsimp only
  split
  · constructor <;> omega
  · split
    · rw [Nat.add_mul]
      constructor <;> omega
    · have parity : num / den % 2 = 0 ∨ num / den % 2 = 1 := by omega
      rw [Nat.add_mul]
      rcases parity with even | odd
      · rw [even]
        constructor <;> omega
      · rw [odd]
        constructor <;> omega

/-- The exponent of the spacing of the doubles around `units`. -/
def spacing (units : Nat) : Nat :=
  units.log2 - 52

/-- The units of the double nearest to `num / den` units, a half to the even significand. -/
def nearest (num den : Nat) : Nat :=
  let step := Nat.pow 2 (spacing (num / den))
  roundHalfEven num (den * step) * step

/-- The double of a number of units on the grid. -/
def ofUnits (negative : Bool) (units : Nat) : Binary64 :=
  if units < limit then finite negative units else infinite negative

/-- The double nearest to `num / den`. -/
def ofRatio (negative : Bool) (num den : Nat) : Binary64 :=
  ofUnits negative (nearest (num * one) den)

/-- The bit of the sign. -/
def signBit : Nat := Nat.pow 2 63

/-- The number of doubles with one exponent, which is the unit of the exponent's bits. -/
def binade : Nat := Nat.pow 2 52

/-- Sign bit, eleven bits of exponent and 52 bits of significand. -/
def ofBits (bits : UInt64) : Binary64 :=
  let negative := decide (signBit ≤ bits.toNat)
  let exponent := bits.toNat / binade % 2048
  let fraction := bits.toNat % binade
  if exponent = 2047 then
    if fraction = 0 then infinite negative else nan
  else if exponent = 0 then finite negative fraction
  else finite negative ((binade + fraction) * Nat.pow 2 (exponent - 1))

/-- The bits of the magnitude. A magnitude below the first normal double is its own bits, and every
step of the exponent takes a binade. -/
def magnitudeBits (units : Nat) : Nat :=
  spacing units * binade + units / Nat.pow 2 (spacing units)

/-- The bits of a double. There is one pattern for all that is no number. -/
def toBits : Binary64 → UInt64
  | nan => 0x7ff8000000000000
  | infinite negative => .ofNat ((if negative then signBit else 0) + 2047 * binade)
  | finite negative units => .ofNat ((if negative then signBit else 0) + magnitudeBits units)

/-- What the double stands for. -/
def ofFloat (x : Float) : Binary64 :=
  ofBits x.toBits

/-- The double that stands for it. -/
def toFloat (b : Binary64) : Float :=
  .ofBits b.toBits

/-! ## Rounding to decimal places -/

/-- The units of the double nearest to the power of ten, from `10 ^ -323` on; below, it is zero. The
power function of a machine can give the double above it instead, as many do at 23 and 210. -/
def powerOfTen : Int → Nat
  | .ofNat d => nearest (Nat.pow 10 d * one) 1
  | .negSucc k => if k < 323 then nearest one (Nat.pow 10 (k + 1)) else 0

/-- The greatest power of ten that is finite. -/
def greatestPower : Int := 308

/-- Magnitudes from `2 ^ 52` on are whole. -/
def wholeFrom : Nat := binade * one

/-- Why there is no power of ten to scale by. -/
inductive ScaleError
  /-- The power is too large for a double. -/
  | power
  /-- The exponent is too large for a double, whatever its sign. -/
  | exponent
  deriving DecidableEq

/-- Rounds to decimal places, a half away from zero: scale, round to a whole number, scale back,
where both scalings round to the nearest double. What is not finite, and what has no fractional part
after scaling, stays as it is. -/
def roundTo (places : Int) : Binary64 → Except ScaleError Binary64
  | finite negative units =>
    if limit ≤ nearest (places.natAbs * one) 1 then .error .exponent
    else if greatestPower < places then .error .power
    else
      let scale := powerOfTen places
      let scaled := nearest (units * scale) one
      if wholeFrom ≤ scaled then .ok (finite negative units)
      else if scale = 0 then .ok nan
      else
        let whole := (scaled + one / 2) / one
        .ok (ofUnits negative (nearest (whole * one * one) scale))
  | b => .ok b

end Binary64

end DeskCalc
