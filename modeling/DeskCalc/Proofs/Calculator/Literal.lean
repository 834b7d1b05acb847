import DeskCalc.Proofs.Binary64.Floats
import DeskCalc.Proofs.Binary64.Rounding
import DeskCalc.Proofs.Calculator.Stages
import DeskCalc.Proofs.Decimal.Literal

/-!
# Literals that are already rounded

A literal is read as one token, and the double that it writes is the double nearest to a decimal
fraction with as many places as it has digits after the point. So its value is that double if
rounding leaves it alone (`evaluate_literal_iff`).
-/

namespace DeskCalc

open Text Decimal Token Binary64

namespace Calculator

variable {c : Calculator} {d : Nat} {text : String} {v : Binary64}

/-- The value of a literal is the number that it writes, rounded. -/
theorem evaluate_literal (h : literal? text.toList = some v) :
    c.evaluate text = (rounded c.places v.toFloat).mapError .rounding := by
  have hform : c.postfixForm text = .ok [.number v.toFloat text] := by
    have hscan := scan_trim_eq_ok_iff.2 (scan_literal h)
    rw [String.ofList_toList] at hscan
    exact postfixForm_eq_ok_iff.2 ⟨_, hscan, List.cons_ne_nil _ _, rfl⟩
  rw [evaluate_of_postfixForm hform, valueOf_of_value_eq_ok rfl]

/-- **The value of a literal is its double unless this drifts.** -/
theorem evaluate_literal_iff (hd : d ≤ 22) (hplaces : c.places = d)
    (h : literal? text.toList = some v) (hfraction : fractionPlaces text.toList ≤ d) :
    c.evaluate text = .ok v.toFloat ↔ ¬ Drifts d v := by
  obtain ⟨negative, n, hv⟩ := exists_ofRatio_of_literal? h
  have hratio := (ofRatio_pow_le negative n hfraction).trans hv
  have hnumber := isNumber_of_literal? h
  rw [← roundTo_eq_self_iff hd hratio, evaluate_literal h, hplaces, mapError_eq_ok_iff, rounded,
    ofFloat_toFloat hnumber]
  constructor
  · intro heq
    cases hround : v.roundTo d with
    | error cause => rw [hround] at heq; cases heq
    | ok w =>
      rw [hround] at heq
      have hsame := congrArg ofFloat (Except.ok.inj heq)
      rw [ofFloat_toFloat hnumber, ofFloat_toFloat (isNumber_of_roundTo hd hnumber hround)] at hsame
      rw [hsame]
  · intro heq
    rw [heq]
    rfl

/-- A literal whose double drifts has another value. -/
theorem evaluate_ne_of_drifts (hd : d ≤ 22) (hplaces : c.places = d)
    (h : literal? text.toList = some v) (hfraction : fractionPlaces text.toList ≤ d)
    (hdrifts : Drifts d v) : c.evaluate text ≠ .ok v.toFloat := fun heq =>
  (evaluate_literal_iff hd hplaces h hfraction).1 heq hdrifts

end Calculator

/-- What rounding to `d` places leaves alone. -/
structure KeepsRounded (d : Nat) : Prop where
  /-- The double nearest to a decimal fraction with `d` places. -/
  fraction : ∀ negative k v, ofRatio negative k (10 ^ d) = v →
    (v.roundTo d = .ok v ↔ ¬ Drifts d v)
  /-- What was rounded to `d` places before. -/
  again : ∀ v w : Binary64, v.roundTo d = .ok w → (w.roundTo d = .ok w ↔ ¬ Drifts d w)
  /-- The double of a literal with no more than `d` digits after the point. -/
  literal : ∀ (c : Calculator) (text : String) (v : Binary64), c.places = d →
    literal? text.toList = some v → fractionPlaces text.toList ≤ d →
    (c.evaluate text = .ok v.toFloat ↔ ¬ Drifts d v)
  /-- Only numerators from `2 ^ 51` and below `2 ^ 52` can drift. -/
  range : ∀ negative k v, ofRatio negative k (10 ^ d) = v → Drifts d v → 2 ^ 51 ≤ k ∧ k < 2 ^ 52

/-- **Rounding leaves alone what is already rounded, unless it drifts.** -/
theorem keepsRounded {d : Nat} (hd : d ≤ 22) : KeepsRounded d where
  fraction _ _ _ := roundTo_eq_self_iff hd
  again _ _ := roundTo_again_iff hd
  literal _ _ _ := Calculator.evaluate_literal_iff hd
  range _ _ _ := numerator_of_drifts hd

/-- A literal in this range that does not drift has its double as value. -/
theorem evaluate_numerator_in_range :
    Calculator.standard.evaluate "-262144.04" = .ok (ofRatio true 26214404 100).toFloat :=
  ((@keepsRounded 10 (by decide)).literal .standard "-262144.04" (ofRatio true 26214404 100) rfl
    (by decide +kernel) (by decide)).2 (by decide +kernel)

/-- A literal in this range that drifts has another value. -/
theorem literal_drifts :
    literal? "262144.03".toList = some (ofRatio false 26214403 100) ∧
      fractionPlaces "262144.03".toList ≤ 10 ∧
      Calculator.standard.evaluate "262144.03" ≠ .ok (ofRatio false 26214403 100).toFloat :=
  ⟨by decide +kernel, by decide, @Calculator.evaluate_ne_of_drifts .standard 10 _ _ (by decide) rfl
    (by decide +kernel) (by decide) (by decide +kernel)⟩

end DeskCalc
