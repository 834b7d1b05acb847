import Mathlib.Algebra.Field.Rat
import DeskCalc.Proofs.Decimal.Literal

/-!
# Decimals in positional form

A decimal is a sign, the digits before the point and those after it (`Positional`). Its digits write
a whole number, and the number of places says what the decimal stands for (`Positional.value`). A
canonical decimal has no digit that could be left out, and zero has no sign
(`Positional.Canonical`). What it writes is read back as one numeral
(`Positional.Canonical.scan_eq`): the double nearest to what it stands for.
-/

namespace DeskCalc

open Text Decimal Binary64

namespace Decimal

/-- A decimal in positional form. -/
structure Positional where
  negative : Bool
  /-- The digits before the point. -/
  whole : List Char
  /-- The digits after the point. -/
  fraction : List Char

/-- The digits after the point with the point, if there are any. -/
def pointed : List Char → List Char
  | [] => []
  | digits => '.' :: digits

/-- The value with its sign. -/
def signed (negative : Bool) (value : ℚ) : ℚ :=
  if negative then -value else value

namespace Positional

/-- The decimal as it is written. -/
def text (p : Positional) : List Char :=
  (if p.negative then ['-'] else []) ++ (p.whole ++ pointed p.fraction)

/-- The whole number that the digits write without the point. -/
def numerator (p : Positional) : Nat :=
  Nat.ofDigitChars 10 (p.whole ++ p.fraction) 0

/-- The number that the decimal stands for. -/
def value (p : Positional) : ℚ :=
  signed p.negative (p.numerator / 10 ^ p.fraction.length)

/-- The double nearest to the number that the decimal stands for. -/
def double (p : Positional) : Binary64 :=
  .ofRatio p.negative p.numerator (10 ^ p.fraction.length)

/-- The decimal is written with digits only, with one before the point at least, and with none that
could be left out. Zero has no sign. -/
structure Canonical (p : Positional) : Prop where
  digits : ∀ c ∈ p.whole ++ p.fraction, c.isDigit = true
  whole_ne_nil : p.whole ≠ []
  leading : p.whole.head? = some '0' → p.whole = ['0']
  trailing : p.fraction.getLast? ≠ some '0'
  sign : p.text ≠ ['-', '0']

end Positional

section
variable {c : Char} {run whole fraction : List Char} {p : Positional}

/-! ## Digits -/

/-- A digit has its place value. -/
theorem decimalDigit?_of_isDigit (h : c.isDigit = true) :
    decimalDigit? c = some (c.toNat - '0'.toNat) := by
  have hzero : '0'.toNat = 48 := rfl
  have hnine : '9'.toNat = 57 := rfl
  obtain ⟨hlow, hhigh⟩ := Char.isDigit_iff_toNat.1 h
  rw [decimalDigit?, zeros, placeValue?, if_neg (by omega), if_pos (by omega), hzero]

theorem mapM_decimalDigit? (h : ∀ c ∈ run, c.isDigit = true) :
    run.mapM decimalDigit? = some (run.map fun c => c.toNat - '0'.toNat) := by
  induction run with
  | nil => rfl
  | cons c rest ih =>
    rw [List.forall_mem_cons] at h
    rw [List.mapM_cons, decimalDigit?_of_isDigit h.1, ih h.2]
    rfl

theorem ofDigits_map (run : List Char) :
    ofDigits (run.map fun c => c.toNat - '0'.toNat) = Nat.ofDigitChars 10 run 0 :=
  List.foldl_map

theorem ne_of_isDigit {d : Char} (hd : d.isDigit = false) (h : c.isDigit = true) : c ≠ d := by
  rintro rfl
  rw [h] at hd
  cases hd

/-! ## Reading back -/

theorem stops_pointed (fraction : List Char) : Token.Stops (· != '.') (pointed fraction) := by
  cases fraction with
  | nil => exact Token.stops_nil _
  | cons d rest =>
    intro c hc
    cases hc
    rfl

/-- The value of an unsigned numeral with a digit before the point. -/
theorem unsigned?_pointed (h : ∀ c ∈ whole ++ fraction, c.isDigit = true) (hwhole : whole ≠ [])
    (negative : Bool) :
    unsigned? negative (whole ++ pointed fraction) = some (ofRatio negative
      (Nat.ofDigitChars 10 (whole ++ fraction) 0) (10 ^ fraction.length)) := by
  obtain ⟨hbefore, hafter⟩ := List.forall_mem_append.1 h
  have hpoint : whole.all (· != '.') = true := List.all_eq_true.2 fun c hc =>
    bne_iff_ne.2 (ne_of_isDigit (by decide) (hbefore c hc))
  have hdrop : (pointed fraction).drop 1 = fraction := by cases fraction <;> rfl
  have hsome : whole.isEmpty = false := List.isEmpty_eq_false_iff.2 hwhole
  rw [unsigned?, Token.takeWhile_run hpoint (stops_pointed fraction),
    Token.dropWhile_run hpoint (stops_pointed fraction), hdrop, mapM_decimalDigit? hbefore,
    mapM_decimalDigit? hafter, ← ofDigits_map, List.map_append]
  simp only [Option.bind_eq_bind, Option.bind_some, List.isEmpty_map, hsome, Bool.false_and,
    Bool.false_eq_true, if_false, List.length_map]
  rfl

namespace Positional

/-- **A decimal with a digit before the point is a literal**, whose value is the double nearest to
what it stands for. -/
theorem literal?_text (h : ∀ c ∈ p.whole ++ p.fraction, c.isDigit = true)
    (hwhole : p.whole ≠ []) : literal? p.text = some p.double := by
  have hvalue := unsigned?_pointed h hwhole p.negative
  rw [text, double, numerator]
  cases hsign : p.negative with
  | true => rwa [hsign] at hvalue
  | false =>
    rw [hsign] at hvalue
    cases hfirst : p.whole with
    | nil => exact absurd hfirst hwhole
    | cons c rest =>
      rw [hfirst] at h hvalue
      have hminus : c ≠ '-' := ne_of_isDigit (by decide) (h c (List.mem_cons_self ..))
      unfold literal?
      split
      · next heq => exact absurd (List.cons.inj heq).1 hminus
      · exact hvalue

/-- **A canonical decimal is read back as one token**, which is named as it is written. -/
theorem Canonical.scan_eq (h : p.Canonical) :
    Token.scan p.text = .ok [.number p.double.toFloat (.ofList p.text)] :=
  Token.scan_literal (literal?_text h.digits h.whole_ne_nil)

end Positional

end

end Decimal

end DeskCalc
