/-!
# Numbers with a binary exponent

A double is a sign, a mantissa and a power of two. Exact arithmetic on these three is all that
decimal text needs.
-/

namespace GoSurvey.Decimal

/-- The number `± mantissa · 2 ^ exponent`. The flag tells whether the number is the least one with
its exponent, so that its neighbour below is only half as far away as the one above. -/
structure Binary where
  negative : Bool
  mantissa : Nat
  exponent : Int
  isBinadeStart : Bool
deriving DecidableEq, Repr

/-- What a double stands for. -/
inductive Real where
  | finite (value : Binary)
  | infinite (negative : Bool)
  | undefined
deriving DecidableEq, Repr

namespace Real

/-- Reads the three fields of a double's bits: one of sign, eleven of exponent, fifty-two of
fraction. -/
def ofBits (bits : Nat) : Real :=
  let negative := bits / Nat.pow 2 63 % 2 == 1
  let exponent : Nat := bits / Nat.pow 2 52 % Nat.pow 2 11
  let fraction : Nat := bits % Nat.pow 2 52
  if exponent = Nat.pow 2 11 - 1 then
    if fraction = 0 then .infinite negative else .undefined
  else if exponent = 0 then
    .finite ⟨negative, fraction, -1074, false⟩
  else
    .finite
      ⟨negative, fraction + Nat.pow 2 52, (exponent : Int) - 1075, fraction == 0 && exponent > 1⟩

/-- What `x` stands for. -/
def ofFloat (x : Float) : Real :=
  ofBits x.toBits.toNat

end Real

end GoSurvey.Decimal
