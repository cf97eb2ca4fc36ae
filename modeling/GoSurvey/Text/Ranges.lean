/-!
# Ranges of characters

A set of characters is given by ranges of code points, of which every `step`-th belongs to it.
-/

namespace GoSurvey.Text

/-- The code points `first`, `first + step`, … up to `last`. -/
structure Range where
  first : Nat
  last : Nat
  step : Nat
deriving DecidableEq, Repr

namespace Range

/-- Whether a code point belongs to a range. -/
def has (r : Range) (n : Nat) : Bool :=
  r.first ≤ n && n ≤ r.last && (n - r.first) % r.step == 0

/-- Whether a character belongs to one of some ranges. -/
def anyHas (rs : List Range) (c : Char) : Bool :=
  rs.any (·.has c.toNat)

end Range

end GoSurvey.Text
