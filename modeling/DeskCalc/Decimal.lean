import DeskCalc.Binary64
import DeskCalc.Text.Class

/-!
# Decimals

Doubles in digits, in three ways.

A literal is a run of decimal digits with at most one point, at least one digit, and possibly a
minus sign in front. The digits may be of any script. Its value is the double nearest to the decimal
fraction it writes, which is an infinity for a numeral that is too large.

The shortest text of a double stands in logs, tables and token names: the fewest significant digits
that read back as the same double, and of those the nearest to it. Numbers from `0.0001` to below
`10 ^ 16` are written positionally and with a point, the others with an exponent of at least two
digits.

The text of a result for the reader is rounded to at most so many places after the point, an exact
half to the even digit. It has no exponent, no zeros at the end of the fraction, and no point after
which nothing stands. Zero has no sign.
-/

namespace DeskCalc.Decimal

open DeskCalc.Text Binary64

/-! ## Literals -/

/-- A character of a run that may be a numeral. -/
def isNumeral (c : Char) : Bool :=
  isDigit c || c == '.'

/-- The number that a list of decimal digits writes. -/
def ofDigits (digits : List Nat) : Nat :=
  digits.foldl (fun n d => 10 * n + d) 0

/-- The value of an unsigned numeral: digits before the point, and those after it. -/
def unsigned? (negative : Bool) (run : List Char) : Option Binary64 := do
  let whole ← (run.takeWhile (· != '.')).mapM decimalDigit?
  let fraction ← ((run.dropWhile (· != '.')).drop 1).mapM decimalDigit?
  if whole.isEmpty && fraction.isEmpty then none
  else some (.ofRatio negative (ofDigits (whole ++ fraction)) (Nat.pow 10 fraction.length))

/-- The value of a literal. -/
def literal? : List Char → Option Binary64
  | '-' :: run => unsigned? true run
  | run => unsigned? false run

/-! ## Shortest texts -/

/-- `digits * 10 ^ exponent`. -/
structure Scientific where
  /-- The significant digits as one number. -/
  digits : Nat
  /-- The power of ten of the last digit. -/
  exponent : Int

namespace Scientific

/-- The units of the nearest double. -/
def nearestUnits : Scientific → Nat
  | ⟨digits, .ofNat e⟩ => nearest (digits * Nat.pow 10 e * one) 1
  | ⟨digits, .negSucc k⟩ => nearest (digits * one) (Nat.pow 10 (k + 1))

end Scientific

/-- The number of times that ten goes into `one / units`, rounded up. -/
def placesBelowOne : Nat → Nat → Nat
  | 0, _ => 0
  | bound + 1, units => if one ≤ units then 0 else placesBelowOne bound (10 * units) + 1

/-- The power of ten of the leading digit of a positive number of units. -/
def leadingExponent (units : Nat) : Int :=
  if one ≤ units then (Nat.toDigits 10 (units / one)).length - 1
  else -placesBelowOne 324 units

/-- The neighbour of `units` with `count` digits that reads back: the nearer one if both do. -/
def withDigits? (units count : Nat) : Option Scientific :=
  let exponent := leadingExponent units - count + 1
  let num := units * Nat.pow 10 (-exponent).toNat
  let den := one * Nat.pow 10 exponent.toNat
  let below : Scientific := ⟨num / den, exponent⟩
  let above : Scientific := ⟨num / den + 1, exponent⟩
  let preferBelow := roundHalfEven num den = num / den
  match decide (below.nearestUnits = units), decide (above.nearestUnits = units) with
  | true, true => some (if preferBelow then below else above)
  | true, false => some below
  | false, true => some above
  | false, false => none

/-- The shortest decimal that reads back. Seventeen digits always do. -/
def shortest (units : Nat) : Scientific :=
  ((List.range' 1 17).findSome? (withDigits? units)).getD ⟨0, 0⟩

/-- A decimal exponent: its sign, and two digits at least. -/
def exponentText (e : Int) : List Char :=
  let digits := Nat.toDigits 10 e.natAbs
  (if e < 0 then '-' else '+') :: (if digits.length < 2 then '0' :: digits else digits)

/-- Lays out a decimal that is not zero. -/
def layout (d : Scientific) : List Char :=
  let digits := ((Nat.toDigits 10 d.digits).reverse.dropWhile (· == '0')).reverse
  let point : Int := (Nat.toDigits 10 d.digits).length + d.exponent
  if -4 < point ∧ point ≤ 16 then
    if point ≤ 0 then
      '0' :: '.' :: List.replicate (-point).toNat '0' ++ digits
    else if digits.length ≤ point.toNat then
      digits ++ List.replicate (point.toNat - digits.length) '0' ++ ['.', '0']
    else
      digits.take point.toNat ++ '.' :: digits.drop point.toNat
  else
    let tail := digits.drop 1
    digits.take 1 ++ (if tail.isEmpty then [] else '.' :: tail) ++ 'e' :: exponentText (point - 1)

/-- The shortest text of a double. -/
def shortestText (x : Float) : String :=
  match ofFloat x with
  | .nan => "nan"
  | .infinite negative => if negative then "-inf" else "inf"
  | .finite negative units =>
    let magnitude := if units = 0 then ['0', '.', '0'] else layout (shortest units)
    .ofList (if negative then '-' :: magnitude else magnitude)

/-! ## Texts of a fixed number of places -/

/-- No double has a digit after this place. -/
def lastPlace : Nat := 1074

/-- The last `width` decimal digits of `n`. -/
def decimalDigits : Nat → Nat → List Char
  | 0, _ => []
  | width + 1, n => decimalDigits width (n / 10) ++ [Nat.digitChar (n % 10)]

/-- The fraction `n / 10 ^ places` without zeros at its end, and its point. -/
def fractionText (places n : Nat) : List Char :=
  match ((decimalDigits places n).reverse.dropWhile (· == '0')).reverse with
  | [] => []
  | digits => '.' :: digits

/-- The text of a finite magnitude. -/
def magnitudeText (places units : Nat) : List Char :=
  let shown := min places lastPlace
  let scale := Nat.pow 10 shown
  let n := roundHalfEven (units * scale) one
  Nat.toDigits 10 (n / scale) ++ fractionText shown (n % scale)

/-- The text of a double with at most so many places after the point. -/
def fixedText (places : Nat) (x : Float) : String :=
  match ofFloat x with
  | .nan => "NaN"
  | .infinite negative => if negative then "-∞" else "∞"
  | .finite negative units =>
    let text := magnitudeText places units
    .ofList (if negative && text != ['0'] then '-' :: text else text)

/-- What is wrong with a number of places. -/
inductive PlacesError
  | negative
  /-- It does not fit into 31 bits. -/
  | large
  /-- It does not fit into 63 bits. -/
  | huge
  deriving DecidableEq

/-- The places as a natural number that fits into 31 bits. -/
def checkPlaces (places : Int) : Except PlacesError Nat :=
  if places < 0 then .error .negative
  else if Nat.pow 2 63 ≤ places.toNat then .error .huge
  else if Nat.pow 2 31 ≤ places.toNat then .error .large
  else .ok places.toNat

/-- As `fixedText`, with a check of the places, if there are digits to show at all. -/
def checkedText (places : Int) (x : Float) : Except PlacesError String :=
  match ofFloat x with
  | .finite .. => (checkPlaces places).map (fixedText · x)
  | _ => .ok (fixedText 0 x)

end DeskCalc.Decimal
