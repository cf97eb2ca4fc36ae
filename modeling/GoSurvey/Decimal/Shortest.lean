import GoSurvey.Decimal.Binary

/-!
# The shortest decimal that reads back

Every real in a certain interval around a double rounds to that double. `shortest` gives the decimal
with the fewest digits in that interval, of several the nearest one, and of two equally near ones
the one with the even last digit. `text` writes it out.
-/

namespace GoSurvey.Decimal

/-- The number `digits · 10 ^ exponent`. -/
structure Scaled where
  digits : Nat
  exponent : Int
deriving DecidableEq, Repr

namespace Scaled

/-- Drops trailing zeros, at most as many as given. -/
def dropZeros : Nat → Scaled → Scaled
  | 0, s => s
  | n + 1, s =>
    if s.digits ≠ 0 ∧ s.digits % 10 = 0 then dropZeros n ⟨s.digits / 10, s.exponent + 1⟩ else s

end Scaled

/-- A positive number and the interval of reals that round to it, as fractions over `den`. The
ends belong to the interval if `closed`. -/
structure Interval where
  low : Nat
  value : Nat
  high : Nat
  den : Nat
  closed : Bool

namespace Interval

/-- The interval of a binary number: half a unit to each side, but a quarter downwards from the
start of a binade. -/
def ofBinary (b : Binary) : Interval :=
  let unit := Nat.pow 2 b.exponent.toNat
  let below := if b.isBinadeStart then 1 else 2
  { low := (4 * b.mantissa - below) * unit
    value := 4 * b.mantissa * unit
    high := (4 * b.mantissa + 2) * unit
    den := 4 * Nat.pow 2 (-b.exponent).toNat
    closed := b.mantissa % 2 == 0 }

/-- The number of digits before the decimal point; for a number below one, minus the number of
zeros that follow the point. -/
def magnitude (i : Interval) : Int :=
  if i.den ≤ i.value then
    ((Nat.toDigits 10 (i.value / i.den)).length : Int)
  else
    match (List.range 400).find? fun j => i.den ≤ i.value * Nat.pow 10 (j + 1) with
    | some j => -(j : Int)
    | none => -400

/-- The decimal with the given number of digits that lies in the interval and nearest to its
value, if there is one. -/
def nearest (i : Interval) (count : Nat) : Option Scaled :=
  let exponent := i.magnitude - (count : Int)
  let grid := i.den * Nat.pow 10 exponent.toNat
  let scale := Nat.pow 10 (-exponent).toNat
  let low := i.low * scale
  let value := i.value * scale
  let high := i.high * scale
  let inside (d : Nat) : Bool :=
    let x := d * grid
    if i.closed then low ≤ x && x ≤ high else low < x && x < high
  let down := value / grid
  let up := down + 1
  let below := value - down * grid
  let above := up * grid - value
  let preferUp := above < below || (above == below && down % 2 == 1)
  match inside down, inside up with
  | true, true => some ⟨if preferUp then up else down, exponent⟩
  | true, false => some ⟨down, exponent⟩
  | false, true => some ⟨up, exponent⟩
  | false, false => none

end Interval

/-- The shortest decimal that reads back to a positive number. Seventeen digits are always
enough. -/
def shortest (b : Binary) : Scaled :=
  let i := Interval.ofBinary b
  match (List.range 17).findSome? fun n => i.nearest (n + 1) with
  | some s => s.dropZeros 20
  | none => ⟨0, 0⟩

/-- Which powers of ten are written positionally, by the place of the leading digit. -/
structure Layout where
  least : Int
  greatest : Int

/-- The text of `digits · 10 ^ exponent`: positional between the two places of the layout, with a
fraction always shown, and with a signed exponent elsewhere. -/
def Layout.write (l : Layout) (s : Scaled) : List Char :=
  let ds := Nat.toDigits 10 s.digits
  let point : Int := s.exponent + ds.length
  let lead := point - 1
  if l.least ≤ lead ∧ lead ≤ l.greatest then
    if point ≤ 0 then
      '0' :: '.' :: (List.replicate (-point).toNat '0' ++ ds)
    else if (ds.length : Int) ≤ point then
      ds ++ List.replicate (point.toNat - ds.length) '0' ++ ['.', '0']
    else
      ds.take point.toNat ++ '.' :: ds.drop point.toNat
  else
    let power := (if lead < 0 then '-' else '+') :: Nat.toDigits 10 lead.natAbs
    match ds with
    | [d] => d :: 'e' :: power
    | d :: more => d :: '.' :: (more ++ 'e' :: power)
    | [] => []

/-- The text of a double; only finite numbers have one. -/
def Layout.text? (l : Layout) (x : Float) : Option (List Char) :=
  match Real.ofFloat x with
  | .finite b =>
    let sign := if b.negative then ['-'] else []
    if b.mantissa = 0 then some (sign ++ ['0', '.', '0']) else some (sign ++ l.write (shortest b))
  | _ => none

end GoSurvey.Decimal
