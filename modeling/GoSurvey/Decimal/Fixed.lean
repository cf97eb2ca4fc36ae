import GoSurvey.Decimal.Binary

/-!
# Decimals with a fixed number of places

The exact binary value is rounded to a given number of places; a half goes to the even neighbour.
-/

namespace GoSurvey.Decimal

/-- A quotient rounded to the nearest integer, halves to the even one. -/
def roundDiv (num den : Nat) : Nat :=
  let q := num / den
  let r := num % den
  if 2 * r < den then q
  else if den < 2 * r then q + 1
  else if q % 2 = 0 then q else q + 1

/-- The text of a double with `places` digits after the point. -/
def fixed (places : Nat) (x : Float) : String :=
  match Real.ofFloat x with
  | .undefined => "NaN"
  | .infinite negative => if negative then "-inf" else "inf"
  | .finite b =>
    let units := roundDiv (b.mantissa * Nat.pow 10 places * Nat.pow 2 b.exponent.toNat)
      (Nat.pow 2 (-b.exponent).toNat)
    let ds := Nat.toDigits 10 units
    let ds := List.replicate (places + 1 - ds.length) '0' ++ ds
    let whole := ds.take (ds.length - places)
    let rest := ds.drop (ds.length - places)
    let sign := if b.negative then ['-'] else []
    String.ofList (sign ++ whole ++ (if places = 0 then [] else '.' :: rest))

end GoSurvey.Decimal
