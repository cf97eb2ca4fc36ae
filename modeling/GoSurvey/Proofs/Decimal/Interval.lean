import Mathlib.Algebra.Order.Field.Power
import Mathlib.Data.Rat.Cast.Order
import Mathlib.Tactic.FieldSimp
import Mathlib.Tactic.Linarith
import Mathlib.Tactic.Positivity
import Mathlib.Tactic.Ring
import GoSurvey.Decimal.Shortest

/-!
# Decimals in the interval of a double

`Interval.Holds` says which rationals lie in the interval of a number. The decimals that are tried
for a double are in its interval by choice (`Interval.holds_nearest`). With seventeen digits there
is always one: the decimals are closer together then than the doubles (`isSome_nearest`). So the
shortest decimal of a double is in its interval (`holds_shortest`).
-/

namespace GoSurvey.Decimal

/-! ## Values -/

/-- The number that digits and an exponent stand for. -/
def Scaled.value (s : Scaled) : ℚ :=
  s.digits * (10 : ℚ) ^ s.exponent

/-- The number that a mantissa and an exponent stand for, without its sign. -/
def Binary.value (b : Binary) : ℚ :=
  b.mantissa * (2 : ℚ) ^ b.exponent

/-- A power as a fraction of whole numbers. -/
theorem zpow_eq_div {a : ℚ} (ha : a ≠ 0) (n : ℤ) : a ^ n = a ^ n.toNat / a ^ (-n).toNat := by
  rw [← zpow_natCast, ← zpow_natCast, ← zpow_sub₀ ha]
  congr 1
  omega

/-- Trailing zeros do not matter. -/
theorem Scaled.value_dropZeros (n : Nat) (s : Scaled) : (s.dropZeros n).value = s.value := by
  induction n generalizing s with
  | zero => rfl
  | succ n ih =>
    rw [dropZeros]
    split
    · rename_i h
      rw [ih]
      have hdigits : s.digits = 10 * (s.digits / 10) := by omega
      have hcast : (s.digits : ℚ) = 10 * (s.digits / 10 : ℕ) := by exact_mod_cast hdigits
      rw [value, value, hcast, zpow_add_one₀ (by norm_num)]
      ring
    · rfl

namespace Interval

/-- A number lies in the interval. -/
def Holds (i : Interval) (r : ℚ) : Prop :=
  if i.closed then (i.low : ℚ) / i.den ≤ r ∧ r ≤ i.high / i.den
  else (i.low : ℚ) / i.den < r ∧ r < i.high / i.den

/-- The test that is made for a decimal, in whole numbers. -/
def accepts (i : Interval) (s : Scaled) : Bool :=
  let x := s.digits * (i.den * Nat.pow 10 s.exponent.toNat)
  let scale := Nat.pow 10 (-s.exponent).toNat
  if i.closed then i.low * scale ≤ x && x ≤ i.high * scale
  else i.low * scale < x && x < i.high * scale

/-- How a decimal compares with a fraction, in whole numbers. -/
theorem div_le_value_iff {den : Nat} (hden : 0 < den) (n : Nat) (s : Scaled) :
    ((n : ℚ) / den ≤ s.value ↔
      n * Nat.pow 10 (-s.exponent).toNat ≤ s.digits * (den * Nat.pow 10 s.exponent.toNat)) ∧
    (s.value ≤ (n : ℚ) / den ↔
      s.digits * (den * Nat.pow 10 s.exponent.toNat) ≤ n * Nat.pow 10 (-s.exponent).toNat) := by
  -- Both sides are multiplied by their denominators.
  have hfactor : (0 : ℚ) < den * 10 ^ (-s.exponent).toNat := by positivity
  have hfraction : (n : ℚ) / den * (den * 10 ^ (-s.exponent).toNat) =
      (n * Nat.pow 10 (-s.exponent).toNat : ℕ) := by
    simp only [Nat.pow_eq]
    push_cast
    field_simp
  have hvalue : s.value * (den * 10 ^ (-s.exponent).toNat) =
      (s.digits * (den * Nat.pow 10 s.exponent.toNat) : ℕ) := by
    rw [Scaled.value, zpow_eq_div (by norm_num)]
    simp only [Nat.pow_eq]
    push_cast
    field_simp
  rw [← mul_le_mul_iff_left₀ hfactor, hfraction, hvalue, Nat.cast_le,
    ← mul_le_mul_iff_left₀ hfactor, hfraction, hvalue, Nat.cast_le]
  exact ⟨Iff.rfl, Iff.rfl⟩

/-- The test tells whether a decimal lies in the interval. -/
theorem accepts_iff {i : Interval} (hden : 0 < i.den) (s : Scaled) :
    i.accepts s = true ↔ i.Holds s.value := by
  obtain ⟨hlow, hlow'⟩ := div_le_value_iff hden i.low s
  obtain ⟨hhigh', hhigh⟩ := div_le_value_iff hden i.high s
  unfold accepts Holds
  cases i.closed with
  | true => simp [hlow, hhigh]
  | false =>
    simp only [Bool.false_eq_true, if_false, Bool.and_eq_true, decide_eq_true_eq, ← not_le, hlow',
      hhigh']

/-- The decimals with a given exponent right below and above a number. -/
def around (i : Interval) (exponent : Int) : Scaled × Scaled :=
  let down := i.value * Nat.pow 10 (-exponent).toNat / (i.den * Nat.pow 10 exponent.toNat)
  (⟨down, exponent⟩, ⟨down + 1, exponent⟩)

/-- One of the two decimals around a number is chosen, if one passes the test. -/
theorem nearest_cases (i : Interval) (count : Nat) :
    let pair := i.around (i.magnitude - count)
    (∃ s, i.nearest count = some s ∧ (s = pair.1 ∨ s = pair.2) ∧ i.accepts s = true) ∨
      i.nearest count = none ∧ i.accepts pair.1 = false ∧ i.accepts pair.2 = false := by
  intro pair
  cases hnearest : i.nearest count with
  | none =>
    rw [nearest] at hnearest
    split at hnearest <;> cases hnearest
    rename_i hdown hup
    exact .inr ⟨rfl, hdown, hup⟩
  | some s =>
    refine .inl ⟨s, rfl, ?_⟩
    rw [nearest] at hnearest
    split at hnearest <;> cases hnearest <;> rename_i hdown hup
    · -- Both pass, and the nearer one is taken.
      split
      · exact ⟨.inr rfl, hup⟩
      · exact ⟨.inl rfl, hdown⟩
    · exact ⟨.inl rfl, hdown⟩
    · exact ⟨.inr rfl, hup⟩

/-- A chosen decimal lies in the interval. -/
theorem holds_nearest {i : Interval} (hden : 0 < i.den) {count : Nat} {s : Scaled}
    (h : i.nearest count = some s) : i.Holds s.value := by
  rcases i.nearest_cases count with ⟨s', hs', -, haccepts⟩ | ⟨hnone, -⟩
  · obtain rfl := Option.some.inj (h.symm.trans hs')
    exact (accepts_iff hden s).1 haccepts
  · cases hnone.symm.trans h

/-- If no decimal is chosen, the number lies between two that are one step apart and outside of the
interval. -/
theorem exists_of_nearest_eq_none {i : Interval} (hden : 0 < i.den) {count : Nat}
    (h : i.nearest count = none) :
    ∃ down up : ℚ, down ≤ (i.value : ℚ) / i.den ∧ (i.value : ℚ) / i.den < up ∧
      up = down + 10 ^ (i.magnitude - (count : ℤ)) ∧ ¬ i.Holds down ∧ ¬ i.Holds up := by
  have hgrid : 0 < i.den * Nat.pow 10 (i.magnitude - (count : ℤ)).toNat :=
    Nat.mul_pos hden (Nat.pow_pos (by decide))
  rcases i.nearest_cases count with ⟨s, hs, -⟩ | ⟨-, hdown, hup⟩
  · cases h.symm.trans hs
  rw [← Bool.not_eq_true, accepts_iff hden] at hdown hup
  refine ⟨_, _, ?_, ?_, ?_, hdown, hup⟩
  · rw [(div_le_value_iff hden _ _).2]
    exact Nat.div_mul_le_self _ _
  · rw [← not_le, (div_le_value_iff hden _ _).2, not_le]
    exact Nat.lt_mul_of_div_lt (Nat.lt_succ_self _) hgrid
  · simp only [around, Scaled.value]
    push_cast
    ring

/-- What is strictly between the ends lies in the interval. -/
theorem holds_of_lt {i : Interval} {r : ℚ} (hlow : (i.low : ℚ) / i.den < r)
    (hhigh : r < (i.high : ℚ) / i.den) : i.Holds r := by
  unfold Holds
  split
  · exact ⟨hlow.le, hhigh.le⟩
  · exact ⟨hlow, hhigh⟩

/-- The power of ten at the leading digit is not greater than the number. -/
theorem zpow_magnitude_le {i : Interval} (hden : 0 < i.den)
    (hsmall : ∃ j < 400, i.den ≤ i.value * 10 ^ (j + 1)) :
    (10 : ℚ) ^ (i.magnitude - 1) ≤ (i.value : ℚ) / i.den := by
  have hd : (0 : ℚ) < i.den := by exact_mod_cast hden
  unfold magnitude
  split
  · rename_i hle
    -- A number with more than so many digits is at least a power of ten.
    have hpos : 0 < (Nat.toDigits 10 (i.value / i.den)).length := Nat.length_toDigits_pos
    have hpow : 10 ^ ((Nat.toDigits 10 (i.value / i.den)).length - 1) ≤ i.value / i.den := by
      by_cases hone : (Nat.toDigits 10 (i.value / i.den)).length = 1
      · rw [hone]
        exact (Nat.one_le_div_iff hden).2 hle
      · rw [← not_lt, ← Nat.length_toDigits_le_iff (by decide) (by omega)]
        omega
    have hmul := Nat.mul_le_of_le_div _ _ _ hpow
    rw [show ((Nat.toDigits 10 (i.value / i.den)).length : ℤ) - 1 =
      (((Nat.toDigits 10 (i.value / i.den)).length - 1 : ℕ) : ℤ) by omega, zpow_natCast,
      le_div_iff₀ hd]
    exact_mod_cast hmul
  · split
    · rename_i j hj
      have hle : i.den ≤ i.value * Nat.pow 10 (j + 1) := by simpa using List.find?_some hj
      rw [show -(j : ℤ) - 1 = -((j + 1 : ℕ) : ℤ) by omega, zpow_neg, zpow_natCast,
        le_div_iff₀ hd, inv_mul_le_iff₀ (by positivity), mul_comm]
      exact_mod_cast hle
    · rename_i hnone
      obtain ⟨j, hj, hle⟩ := hsmall
      exact absurd (decide_eq_true hle) (List.find?_eq_none.1 hnone j (List.mem_range.2 hj))

end Interval

/-! ## The interval of a double -/

/-- A positive number that a double can have: its mantissa has fifty-three digits, or fewer with the
least exponent. -/
structure Binary.Canonical (b : Binary) : Prop where
  pos : 0 < b.mantissa
  lt : b.mantissa < 2 ^ 53
  le_exponent : -1074 ≤ b.exponent
  exponent_le : b.exponent ≤ 971
  normal : b.exponent = -1074 ∨ 2 ^ 52 ≤ b.mantissa
  start_iff : b.isBinadeStart = true ↔ b.mantissa = 2 ^ 52 ∧ -1074 < b.exponent

namespace Interval

section
variable (b : Binary)

theorem den_ofBinary_pos : 0 < (ofBinary b).den :=
  Nat.mul_pos (by decide) (Nat.pow_pos (by decide))

/-- The number itself. -/
theorem value_ofBinary : ((ofBinary b).value : ℚ) / (ofBinary b).den = b.value := by
  rw [Binary.value, zpow_eq_div (by norm_num : (2 : ℚ) ≠ 0)]
  simp only [ofBinary, Nat.pow_eq]
  push_cast
  field_simp

/-- The upper end is half a unit away. -/
theorem high_ofBinary :
    ((ofBinary b).high : ℚ) / (ofBinary b).den = b.value + 2 ^ b.exponent / 2 := by
  rw [Binary.value, zpow_eq_div (by norm_num : (2 : ℚ) ≠ 0)]
  simp only [ofBinary, Nat.pow_eq]
  push_cast
  field_simp
  ring

/-- The lower end is half a unit away, or a quarter at the start of a binade. -/
theorem low_ofBinary (hpos : 0 < b.mantissa) :
    ((ofBinary b).low : ℚ) / (ofBinary b).den =
      b.value - if b.isBinadeStart then 2 ^ b.exponent / 4 else 2 ^ b.exponent / 2 := by
  rw [Binary.value, zpow_eq_div (by norm_num : (2 : ℚ) ≠ 0)]
  simp only [ofBinary, Nat.pow_eq]
  split
  · rw [Nat.cast_mul, Nat.cast_sub (by omega)]
    push_cast
    field_simp
  · rw [Nat.cast_mul, Nat.cast_sub (by omega)]
    push_cast
    field_simp
    ring

end

variable {b : Binary} (hb : b.Canonical)
include hb

/-- Numbers are not so small that their leading digit would not be found. -/
theorem exists_den_le_ofBinary :
    ∃ j < 400, (ofBinary b).den ≤ (ofBinary b).value * 10 ^ (j + 1) := by
  have hexponent := hb.le_exponent
  obtain ⟨j, hj⟩ : ∃ j, j = 399 := ⟨_, rfl⟩
  refine ⟨j, by omega, ?_⟩
  have hden : 2 ^ (-b.exponent).toNat ≤ 10 ^ (j + 1) :=
    calc 2 ^ (-b.exponent).toNat ≤ 2 ^ (3 * (j + 1)) :=
          Nat.pow_le_pow_right (by decide) (by omega)
      _ = (2 ^ 3) ^ (j + 1) := Nat.pow_mul 2 3 _
      _ ≤ 10 ^ (j + 1) := Nat.pow_le_pow_left (by decide) _
  have hvalue : 4 ≤ 4 * b.mantissa * 2 ^ b.exponent.toNat := by
    have hunit : 0 < 2 ^ b.exponent.toNat := Nat.pow_pos (by decide)
    have hmul := Nat.mul_pos hb.pos hunit
    rw [Nat.mul_assoc]
    omega
  exact Nat.mul_le_mul hvalue hden

/-- With seventeen digits there is a decimal in the interval. -/
theorem isSome_nearest : ((ofBinary b).nearest 17).isSome = true := by
  by_contra hnone
  rw [Option.not_isSome_iff_eq_none] at hnone
  have hden := den_ofBinary_pos b
  obtain ⟨down, up, hle, hlt, hstep, hdown, hup⟩ := exists_of_nearest_eq_none hden hnone
  have hmag := zpow_magnitude_le hden (exists_den_le_ofBinary hb)
  have hscale : (10 : ℚ) ^ ((ofBinary b).magnitude - 1) =
      10 ^ ((ofBinary b).magnitude - (17 : ℕ)) * 10 ^ 16 := by
    rw [← zpow_natCast, ← zpow_add₀ (by norm_num)]
    congr 1
    omega
  rw [value_ofBinary] at hle hlt hmag
  have hunit : (0 : ℚ) < 2 ^ b.exponent := by positivity
  -- As neither decimal is in the interval, the step is at least as wide as the interval.
  have hbelow : down ≤
      b.value - if b.isBinadeStart then 2 ^ b.exponent / 4 else 2 ^ b.exponent / 2 := by
    rw [← low_ofBinary b hb.pos, ← not_lt]
    refine fun hlow => hdown (holds_of_lt hlow ?_)
    rw [high_ofBinary]
    linarith
  have habove : b.value + 2 ^ b.exponent / 2 ≤ up := by
    rw [← high_ofBinary b, ← not_lt]
    refine fun hhigh => hup (holds_of_lt ?_ hhigh)
    rw [low_ofBinary b hb.pos]
    split <;> linarith
  split at hbelow
  · rename_i hstart
    have hvalue : b.value = 2 ^ 52 * 2 ^ b.exponent := by
      rw [Binary.value, (hb.start_iff.1 hstart).1]
      push_cast
      rfl
    linarith
  · have hvalue : b.value ≤ 2 ^ 53 * 2 ^ b.exponent := by
      have hle : (b.mantissa : ℚ) ≤ 2 ^ 53 := by exact_mod_cast hb.lt.le
      exact mul_le_mul_of_nonneg_right hle hunit.le
    linarith

/-- How far what lies in the interval is from the number. -/
theorem Holds.bounds {r : ℚ} (h : (ofBinary b).Holds r) :
    b.value - (if b.isBinadeStart then 2 ^ b.exponent / 4 else 2 ^ b.exponent / 2) ≤ r ∧
      r ≤ b.value + 2 ^ b.exponent / 2 := by
  rw [← low_ofBinary b hb.pos, ← high_ofBinary b]
  unfold Holds at h
  split at h
  · exact h
  · exact ⟨h.1.le, h.2.le⟩

/-- The ends of the interval belong to numbers with an even mantissa only. -/
theorem Holds.strict_bounds {r : ℚ} (h : (ofBinary b).Holds r) (hodd : b.mantissa % 2 = 1) :
    b.value - 2 ^ b.exponent / 2 < r ∧ r < b.value + 2 ^ b.exponent / 2 := by
  have hclosed : (ofBinary b).closed = false := by simp [ofBinary, hodd]
  have hstart : b.isBinadeStart = false := by
    rw [Bool.eq_false_iff, ne_eq, hb.start_iff]
    rintro ⟨hmantissa, -⟩
    rw [hmantissa] at hodd
    cases hodd
  have hlow := low_ofBinary b hb.pos
  rw [hstart, if_neg Bool.false_ne_true] at hlow
  rw [← hlow, ← high_ofBinary b]
  rw [Holds, hclosed] at h
  exact h

/-- What lies in the interval of a double is neither too small nor too large for a double. -/
theorem Holds.range {r : ℚ} (h : (ofBinary b).Holds r) :
    (2 : ℚ) ^ (-1075 : ℤ) ≤ r ∧ r ≤ 2 ^ (1024 : ℤ) := by
  have hunit : (0 : ℚ) < 2 ^ b.exponent := by positivity
  obtain ⟨hlow, hhigh⟩ := h.bounds hb
  have hone : (1 : ℚ) ≤ b.mantissa := by exact_mod_cast hb.pos
  have hlt : (b.mantissa : ℚ) + 1 ≤ 2 ^ 53 := by exact_mod_cast hb.lt
  have hvalue : 1 * 2 ^ b.exponent ≤ b.value := mul_le_mul_of_nonneg_right hone hunit.le
  have hvalue' : b.value + 2 ^ b.exponent ≤ 2 ^ 53 * 2 ^ b.exponent := by
    refine le_trans (le_of_eq ?_) (mul_le_mul_of_nonneg_right hlt hunit.le)
    rw [Binary.value]
    ring
  constructor
  · have hleast : (2 : ℚ) ^ (-1075 + 1 : ℤ) ≤ 2 ^ b.exponent :=
      zpow_le_zpow_right₀ (by norm_num) hb.le_exponent
    rw [zpow_add_one₀ (by norm_num)] at hleast
    split at hlow <;> linarith
  · have hgreatest : (2 : ℚ) ^ (53 + b.exponent) ≤ 2 ^ (1024 : ℤ) :=
      zpow_le_zpow_right₀ (by norm_num) (by linarith [hb.exponent_le])
    rw [zpow_add₀ (by norm_num)] at hgreatest
    calc r ≤ b.value + 2 ^ b.exponent / 2 := hhigh
      _ ≤ 2 ^ 53 * 2 ^ b.exponent := by linarith
      _ ≤ 2 ^ (1024 : ℤ) := hgreatest

end Interval

/-- The shortest decimal of a double is in its interval. -/
theorem holds_shortest {b : Binary} (hb : b.Canonical) :
    (Interval.ofBinary b).Holds (shortest b).value := by
  unfold shortest
  simp only
  cases hfound : (List.range 17).findSome? fun n => (Interval.ofBinary b).nearest (n + 1) with
  | none =>
    have hnone := List.findSome?_eq_none_iff.1 hfound 16 (List.mem_range.2 (by decide))
    have hsome := Interval.isSome_nearest hb
    rw [hnone] at hsome
    cases hsome
  | some s =>
    obtain ⟨n, -, hn⟩ := List.exists_of_findSome?_eq_some hfound
    rw [Scaled.value_dropZeros]
    exact Interval.holds_nearest (Interval.den_ofBinary_pos b) hn

end GoSurvey.Decimal
