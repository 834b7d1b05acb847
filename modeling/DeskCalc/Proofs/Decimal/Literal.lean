import DeskCalc.Proofs.Binary64.Bits
import DeskCalc.Proofs.Result
import DeskCalc.Proofs.Token.Scanning

/-!
# Literals

A literal that has a value is made of digits and points, with a minus sign or none, so it is read as
one token (`scan_literal`). Its value is the double nearest to a decimal fraction with as many
places as the literal has digits after the point (`exists_ofRatio_of_literal?`), so it is a number
or an infinity (`isNumber_of_literal?`).
-/

namespace DeskCalc

open Text Decimal Token Binary64

namespace Decimal

/-- The number of digits after the point. -/
def fractionPlaces (text : List Char) : Nat :=
  ((text.dropWhile (· != '.')).drop 1).length

section
variable {c : Char} {n : Nat} {run : List Char} {negative : Bool} {v : Binary64}

/-! ## The characters of a literal -/

theorem exists_of_placeValue? {starts : List Nat} {code : Nat}
    (h : placeValue? starts code = some n) :
    ∃ start ∈ starts, start ≤ code ∧ code ≤ start + 9 := by
  induction starts with
  | nil => cases h
  | cons start rest ih =>
    rw [placeValue?] at h
    split at h
    · cases h
    split at h
    · next hlow hhigh => exact ⟨start, .head _, by omega, by omega⟩
    · obtain ⟨start, hstart, hcode⟩ := ih h
      exact ⟨start, .tail _ hstart, hcode⟩

/-- A decimal digit is a digit. -/
theorem isDigit_of_decimalDigit? (h : decimalDigit? c = some n) : isDigit c = true := by
  have hwithin : ∀ start ∈ zeros, ∃ p ∈ digits, p.1 ≤ start ∧ start + 9 ≤ p.2 := by
    decide +kernel
  obtain ⟨start, hstart, hlow, hhigh⟩ := exists_of_placeValue? h
  obtain ⟨p, hp, hfirst, hlast⟩ := hwithin start hstart
  exact (Ranges.covers_iff digits_ascending c.toNat).2
    ⟨p, hp, Nat.le_trans hfirst hlow, Nat.le_trans hhigh hlast⟩

theorem isNumeral_of_mapM {places : List Nat} (h : run.mapM decimalDigit? = some places) :
    ∀ c ∈ run, isNumeral c = true := by
  have hdigits : List.Forall₂ (fun c n => isNumeral c = true ∧ decimalDigit? c = some n)
      run places :=
    (forall₂_of_mapM_eq_some h).imp fun c n hc =>
      ⟨Bool.or_eq_true_iff.2 (.inl (isDigit_of_decimalDigit? hc)), hc⟩
  exact ((List.forall₂_and_left _ _).1 hdigits).1

/-- A numeral with a value has digits and a point only. -/
theorem all_isNumeral_of_unsigned? (h : unsigned? negative run = some v) :
    run.all isNumeral = true := by
  rw [unsigned?] at h
  obtain ⟨whole, hwhole, h⟩ := Option.bind_eq_some_iff.1 h
  obtain ⟨fraction, hfraction, -⟩ := Option.bind_eq_some_iff.1 h
  refine List.all_eq_true.2 fun c hc => ?_
  rw [← List.takeWhile_append_dropWhile (p := (· != '.')) (l := run), List.mem_append] at hc
  rcases hc with hc | hc
  · exact isNumeral_of_mapM hwhole c hc
  · cases hback : run.dropWhile (· != '.') with
    | nil => rw [hback] at hc; cases hc
    | cons point rest =>
      have hpoint := List.head?_dropWhile_not (· != '.') run
      rw [hback] at hc hfraction hpoint
      rcases List.mem_cons.1 hc with rfl | hc
      · have heq : c = '.' := by simpa using hpoint
        rw [heq]
        decide
      · exact isNumeral_of_mapM hfraction c hc

/-- The value of a numeral is that of a decimal fraction. -/
theorem exists_ofRatio_of_unsigned? (h : unsigned? negative run = some v) :
    ∃ n, ofRatio negative n (10 ^ fractionPlaces run) = v := by
  rw [unsigned?] at h
  obtain ⟨whole, -, h⟩ := Option.bind_eq_some_iff.1 h
  obtain ⟨fraction, hfraction, h⟩ := Option.bind_eq_some_iff.1 h
  split at h
  · cases h
  · refine ⟨ofDigits (whole ++ fraction), ?_⟩
    rw [fractionPlaces, (forall₂_of_mapM_eq_some hfraction).length_eq]
    exact Option.some.inj h

/-- The value of a literal is that of a decimal fraction with as many places as the literal has
digits after the point. -/
theorem exists_ofRatio_of_literal? {text : List Char} (h : literal? text = some v) :
    ∃ negative n, ofRatio negative n (10 ^ fractionPlaces text) = v := by
  unfold literal? at h
  split at h
  · next run =>
    obtain ⟨n, hn⟩ := exists_ofRatio_of_unsigned? h
    exact ⟨true, n, hn⟩
  · exact ⟨false, exists_ofRatio_of_unsigned? h⟩

/-- A literal that has a value writes a number. -/
theorem isNumber_of_literal? {text : List Char} (h : literal? text = some v) : v.IsNumber := by
  obtain ⟨negative, n, rfl⟩ := exists_ofRatio_of_literal? h
  exact isNumber_ofRatio negative n (Nat.pow_pos (by decide))

end

end Decimal

namespace Token

/-- A literal is read as one token. -/
theorem scan_literal {text : List Char} {v : Binary64} (h : literal? text = some v) :
    scan text = .ok [.number v.toFloat (.ofList text)] := by
  have hlexeme : Lexeme true (.number v.toFloat (.ofList text)) text := by
    have hvalue := h
    unfold literal? at h
    split at h
    · next run =>
      exact @Lexeme.negative true [] run v rfl rfl (all_isNumeral_of_unsigned? h) hvalue
    · exact .numeral (all_isNumeral_of_unsigned? h) hvalue
  have hfirst := @first?_of_lexeme true [] text _ hlexeme (stops_nil isNumeral)
  rw [List.append_nil] at hfirst
  exact scanFrom_eq_ok_iff.2 (.token hfirst (.done rfl))

end Token

end DeskCalc
