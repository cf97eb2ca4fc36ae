import Mathlib
import GoSurvey.Decimal.Fixed
import GoSurvey.Proofs.Decimal.Interval

/-!
# Rounding to a double

Arithmetic on doubles drops digits of an exact result and keeps two bits about them. For an exact
result `num / den` this comes to the nearest whole number, ties to even
(`roundedMantissa_ofFraction`), however many digits are dropped (`shiftRight_ofFraction`). So
whatever lies in the interval of a double is rounded to that double (`roundWithAccuracy_of_holds`).
-/

namespace GoSurvey.Decimal

open Float.Model Float.Model.UnpackedFloat

/-! ## Rounding of fractions -/

/-- What is at most half a unit away from a whole number is rounded to it, if the number is even or
the distance is less. -/
theorem roundDiv_eq {num den q : Nat} (hden : 0 < den) (hlow : 2 * q * den ≤ 2 * num + den)
    (hhigh : 2 * num ≤ 2 * q * den + den)
    (hodd : q % 2 = 1 → 2 * q * den < 2 * num + den ∧ 2 * num < 2 * q * den + den) :
    roundDiv num den = q := by
  have hrest := Nat.mod_lt num hden
  have hnum := Nat.div_add_mod num den
  rw [Nat.mul_comm den] at hnum
  rw [Nat.mul_assoc] at hlow hhigh hodd
  -- The number is the quotient or the next one.
  have hlt : q < num / den + 2 := by
    by_contra hge
    have hmul := Nat.mul_le_mul_right den (Nat.le_of_not_lt hge)
    rw [Nat.add_mul] at hmul
    omega
  have hge : num / den < q + 1 := by
    by_contra hge
    have hmul := Nat.mul_le_mul_right den (Nat.le_of_not_lt hge)
    rw [Nat.add_mul] at hmul
    omega
  unfold roundDiv
  simp only
  rcases (by omega : q = num / den ∨ q = num / den + 1) with hq | hq
  · rw [hq] at hlow hhigh hodd
    split
    · exact hq.symm
    split
    · omega
    split
    · exact hq.symm
    · omega
  · rw [hq, Nat.add_mul] at hlow hhigh hodd
    split
    · omega
    split
    · exact hq.symm
    split
    · omega
    · exact hq.symm

/-- A fraction of a unit is rounded to a number of units that is at most half a unit away. -/
theorem roundDiv_of_near {num den q : Nat} (hden : 0 < den) {u : ℚ} (hu : 0 < u)
    (hlow : q * u - u / 2 ≤ num / den * u) (hhigh : num / den * u ≤ q * u + u / 2)
    (hodd : q % 2 = 1 → q * u - u / 2 < num / den * u ∧ num / den * u < q * u + u / 2) :
    roundDiv num den = q := by
  have hfactor : 0 < 2 * den / u := by positivity
  have hfrac : (num : ℚ) / den * u * (2 * den / u) = (2 * num : ℕ) := by
    push_cast
    field_simp
  have hbelow : (q * u - u / 2) * (2 * den / u) = (2 * q * den : ℕ) - (den : ℕ) := by
    push_cast
    field_simp
  have habove : (q * u + u / 2) * (2 * den / u) = (2 * q * den + den : ℕ) := by
    push_cast
    field_simp
  rw [← mul_le_mul_iff_left₀ hfactor, hfrac, hbelow, sub_le_iff_le_add] at hlow
  rw [← mul_le_mul_iff_left₀ hfactor, hfrac, habove] at hhigh
  refine roundDiv_eq hden (by exact_mod_cast hlow) (by exact_mod_cast hhigh) fun h => ?_
  obtain ⟨hlow', hhigh'⟩ := hodd h
  rw [← mul_lt_mul_iff_left₀ hfactor, hfrac, hbelow, sub_lt_iff_lt_add] at hlow'
  rw [← mul_lt_mul_iff_left₀ hfactor, hfrac, habove] at hhigh'
  exact ⟨by exact_mod_cast hlow', by exact_mod_cast hhigh'⟩

/-- A fraction that is at least a whole number is rounded to at least this number. -/
theorem le_roundDiv {num den q : Nat} (hden : 0 < den) (h : q * den ≤ num) :
    q ≤ roundDiv num den := by
  have hq : q ≤ num / den := (Nat.le_div_iff_mul_le hden).2 h
  unfold roundDiv
  simp only
  split
  · exact hq
  split
  · omega
  split <;> omega

/-- A fraction that is at most a whole number is rounded to at most this number. -/
theorem roundDiv_le {num den q : Nat} (hden : 0 < den) (h : num ≤ q * den) :
    roundDiv num den ≤ q := by
  have hq : num / den ≤ q := Nat.div_le_of_le_mul (Nat.mul_comm q den ▸ h)
  have hnum := Nat.div_add_mod num den
  -- If the quotient is the whole number, nothing is left to round.
  have hrest : num / den = q → num % den = 0 := by
    intro heq
    rw [heq, Nat.mul_comm] at hnum
    omega
  unfold roundDiv
  simp only
  split
  · exact hq
  split
  · omega
  split
  · exact hq
  · omega

/-- A fraction as a mantissa and what is known of the rest. -/
def ofFraction (num den : Nat) : ExtendedMantissa :=
  .ofMantissaAndAccuracy (num / den) (accuracyOfFraction (num % den) den)

/-- The two bits of a fraction: whether it is at least halfway to the next number, and whether it is
neither whole nor halfway. -/
theorem ofFraction_eq {num den : Nat} (hden : 0 < den) :
    ofFraction num den = ⟨num / den, decide (den ≤ 2 * (num % den)),
      decide (num % den ≠ 0 ∧ 2 * (num % den) ≠ den)⟩ := by
  unfold ofFraction accuracyOfFraction
  split
  · rename_i h
    simp [h, ExtendedMantissa.ofMantissaAndAccuracy]
    omega
  · rename_i h
    rcases Nat.lt_trichotomy (2 * (num % den)) den with hlt | heq | hgt
    · rw [Nat.compare_eq_lt.2 hlt]
      simp [ExtendedMantissa.ofMantissaAndAccuracy, h]
      omega
    · rw [Nat.compare_eq_eq.2 heq]
      simp [ExtendedMantissa.ofMantissaAndAccuracy, h]
      omega
    · rw [Nat.compare_eq_gt.2 hgt]
      simp [ExtendedMantissa.ofMantissaAndAccuracy, h]
      omega

/-- Dropping a digit halves the fraction. -/
theorem shiftRightOne_ofFraction {num den : Nat} (hden : 0 < den) :
    (ofFraction num den).shiftRightOne = ofFraction num (den * 2) := by
  have hrest := Nat.mod_lt num hden
  have hmod : num % (den * 2) = num % den + den * (num / den % 2) := Nat.mod_mul
  have hquot : num / (den * 2) = num / den / 2 := (Nat.div_div_eq_div_mul ..).symm
  rw [ofFraction_eq hden, ofFraction_eq (by omega), ExtendedMantissa.shiftRightOne, hmod, hquot]
  clear hmod
  rw [ExtendedMantissa.mk.injEq, ← Bool.decide_or, decide_eq_decide]
  rcases Nat.mod_two_eq_zero_or_one (num / den) with h | h <;> rw [h]
  · refine ⟨rfl, ?_, by omega⟩
    rw [eq_comm, bne_self_eq_false, decide_eq_false_iff_not]
    omega
  · refine ⟨rfl, ?_, by omega⟩
    exact (decide_eq_true (by omega)).symm

/-- Dropping digits divides the fraction by a power of two. -/
theorem shiftRight_ofFraction {num den : Nat} (hden : 0 < den) (k : Nat) :
    ofFraction num den >>> k = ofFraction num (den * 2 ^ k) := by
  change k.repeat ExtendedMantissa.shiftRightOne (ofFraction num den) = _
  induction k with
  | zero => simp [Nat.repeat]
  | succ k ih =>
    rw [Nat.repeat, ih, shiftRightOne_ofFraction (Nat.mul_pos hden (Nat.pow_pos (by decide))),
      Nat.pow_succ, Nat.mul_assoc]

/-- Rounding by the two bits is rounding to the nearest number. -/
theorem roundedMantissa_ofFraction {num den : Nat} (hden : 0 < den) :
    (ofFraction num den).roundedMantissa = roundDiv num den := by
  have hrest := Nat.mod_lt num hden
  have hround : ∀ m a b, ExtendedMantissa.roundedMantissa ⟨m, a, b⟩ =
      if a then if b then m + 1 else m + m % 2 else m := by
    intro m a b
    cases a <;> cases b <;> rfl
  rw [ofFraction_eq hden, hround, roundDiv]
  simp only [decide_eq_true_eq]
  rcases Nat.lt_trichotomy (2 * (num % den)) den with hlt | heq | hgt
  · rw [if_neg (by omega), if_pos hlt]
  · rw [if_pos (by omega), if_neg (by omega), if_neg (by omega), if_neg (by omega)]
    split <;> omega
  · rw [if_pos (by omega), if_pos (by omega), if_neg (by omega), if_pos hgt]

/-! ## Rounding of exact results -/

/-- The format of doubles. -/
abbrev format : Format := .binary64

/-- The exponent that a result gets, before rounding. -/
theorem targetExponent_eq (t : Int) : format.targetExponent t = max (t - 53) (-1074) := rfl

/-- The first double of a binade is a power of two. -/
theorem Binary.Canonical.value_of_start {b : Binary} (hb : b.Canonical)
    (hstart : b.isBinadeStart = true) : b.value = 2 ^ 52 * 2 ^ b.exponent := by
  rw [Binary.value, (hb.start_iff.1 hstart).1]
  push_cast
  rfl

/-- A mantissa that is not too long is left as it is. -/
theorem shiftToTargetExponent_exact {m : Nat} (hm : m < 2 ^ 53) {t : Int} (ht : -1074 ≤ t) :
    shiftToTargetExponent format m t .exact = (⟨m, false, false⟩, t) := by
  have hlog : m.log2 < 53 := by
    by_cases hzero : m = 0
    · subst hzero
      decide
    · exact (Nat.log2_lt hzero).2 hm
  have hshift : (format.targetExponent (totalExponent m t) - t).toNat = 0 := by
    rw [targetExponent_eq, totalExponent]
    omega
  rw [shiftToTargetExponent, shiftToExponent, hshift]
  exact Prod.ext rfl (Int.add_zero t)

/-- A mantissa that is too long by one digit loses it. -/
theorem shiftToTargetExponent_carry {t : Int} (ht : -1074 ≤ t) :
    shiftToTargetExponent format (2 ^ 53) t .exact = (⟨2 ^ 52, false, false⟩, t + 1) := by
  have hshift : (format.targetExponent (totalExponent (2 ^ 53) t) - t).toNat = 1 := by
    rw [targetExponent_eq, totalExponent, Nat.log2_two_pow]
    omega
  rw [shiftToTargetExponent, shiftToExponent, hshift]
  rfl

section
variable {num den : Nat} (hden : 0 < den) (e : Int)
include hden

/-- The place of the leading digit bounds a result from above. -/
theorem lt_zpow_totalExponent :
    (num : ℚ) / den * 2 ^ e < 2 ^ totalExponent (num / den) e := by
  have hd : (0 : ℚ) < den := by exact_mod_cast hden
  have hlog := Nat.lt_log2_self (n := num / den)
  have hlt : (num : ℚ) / den < 2 ^ ((num / den).log2 + 1) := by
    rw [div_lt_iff₀ hd]
    exact_mod_cast (Nat.div_lt_iff_lt_mul hden).1 hlog
  rw [totalExponent, zpow_add₀ (by norm_num)]
  refine mul_lt_mul_of_pos_right ?_ (by positivity)
  exact_mod_cast hlt

/-- The place of the leading digit bounds a result from below. -/
theorem zpow_totalExponent_le (hpos : num / den ≠ 0) :
    2 ^ (totalExponent (num / den) e - 1) ≤ (num : ℚ) / den * 2 ^ e := by
  have hd : (0 : ℚ) < den := by exact_mod_cast hden
  have hlog := Nat.log2_self_le hpos
  have hle : (2 : ℚ) ^ (num / den).log2 ≤ (num : ℚ) / den := by
    rw [le_div_iff₀ hd]
    exact_mod_cast (Nat.le_div_iff_mul_le hden).1 hlog
  rw [totalExponent, show ((num / den).log2 : ℤ) + 1 + e - 1 = (num / den).log2 + e by omega,
    zpow_add₀ (by norm_num), zpow_natCast]
  exact mul_le_mul_of_nonneg_right hle (by positivity)

/-- A power of two that is below a result is below its leading digit. -/
theorem lt_totalExponent {k : ℕ} {p : ℤ} (h : (2 : ℚ) ^ k * 2 ^ p ≤ num / den * 2 ^ e) :
    k + p < totalExponent (num / den) e := by
  have hlt := h.trans_lt (lt_zpow_totalExponent hden e)
  rwa [← zpow_natCast, ← zpow_add₀ (by norm_num), zpow_lt_zpow_iff_right₀ (by norm_num)] at hlt

/-- A result as a number of greater units. -/
theorem eq_mul_zpow {t : Int} (he : e ≤ t) :
    (num : ℚ) / den * 2 ^ e = num / (den * 2 ^ (t - e).toNat : ℕ) * 2 ^ t := by
  have ht : e = t - ((t - e).toNat : ℤ) := by omega
  conv_lhs => rw [ht, zpow_sub₀ (by norm_num), zpow_natCast]
  push_cast
  field_simp

/-- The mantissa is at most one digit too long after the first rounding. -/
theorem roundDiv_le_two_pow (he : e ≤ format.targetExponent (totalExponent (num / den) e)) :
    roundDiv num (den * 2 ^ (format.targetExponent (totalExponent (num / den) e) - e).toNat) ≤
      2 ^ 53 := by
  have hlt : (num : ℚ) / den * 2 ^ e < _ := lt_zpow_totalExponent hden e
  have hpow : (2 : ℚ) ^ totalExponent (num / den) e ≤
      2 ^ 53 * 2 ^ format.targetExponent (totalExponent (num / den) e) := by
    rw [← zpow_natCast, ← zpow_add₀ (by norm_num), zpow_le_zpow_iff_right₀ (by norm_num),
      targetExponent_eq]
    omega
  rw [eq_mul_zpow hden e he] at hlt
  generalize format.targetExponent (totalExponent (num / den) e) = t at *
  have hden' : 0 < den * 2 ^ (t - e).toNat := Nat.mul_pos hden (Nat.pow_pos (by decide))
  refine roundDiv_le hden' ?_
  have hle := (mul_lt_mul_iff_left₀ (by positivity)).1 (hlt.trans_le hpow)
  rw [div_lt_iff₀ (by exact_mod_cast hden')] at hle
  exact_mod_cast hle.le

/-- Rounding takes the nearest whole number of units, and one digit off it if it is too long. -/
theorem roundWithAccuracy_eq (he : e ≤ format.targetExponent (totalExponent (num / den) e))
    (sign : Sign) :
    let t := format.targetExponent (totalExponent (num / den) e)
    let m := roundDiv num (den * 2 ^ (t - e).toNat)
    roundWithAccuracy format sign (num / den) e (accuracyOfFraction (num % den) den) =
      if h : m = 0 then .zero sign
      else if m = 2 ^ 53 then .finite sign (2 ^ 52) (t + 1) (by decide)
      else .finite sign m t (Nat.pos_of_ne_zero h) := by
  intro t
  have hm : roundDiv num (den * 2 ^ (t - e).toNat) ≤ 2 ^ 53 := roundDiv_le_two_pow hden e he
  have hleast : -1074 ≤ t := le_max_right ..
  have hden' : 0 < den * 2 ^ (t - e).toNat := Nat.mul_pos hden (Nat.pow_pos (by decide))
  have hmantissa : (shiftToTargetExponent format (num / den) e
      (accuracyOfFraction (num % den) den)).1 = ofFraction num (den * 2 ^ (t - e).toNat) :=
    shiftRight_ofFraction hden _
  have hexponent : (shiftToTargetExponent format (num / den) e
      (accuracyOfFraction (num % den) den)).2 = t := by
    rw [shiftToTargetExponent, shiftToExponent]
    change e + ((t - e).toNat : ℤ) = t
    omega
  rw [roundWithAccuracy]
  simp only [hmantissa, hexponent, roundedMantissa_ofFraction hden']
  rcases hm.lt_or_eq with hlt | heq
  · simp only [shiftToTargetExponent_exact hlt hleast, if_neg hlt.ne]
  · simp only [heq, shiftToTargetExponent_carry hleast]
    rfl

variable {b : Binary} (hb : b.Canonical) (h : (Interval.ofBinary b).Holds (num / den * 2 ^ e))
include hb h

/-- What lies in the interval of a double is no longer than the double. -/
theorem totalExponent_le_of_holds (hzero : num / den ≠ 0) :
    totalExponent (num / den) e ≤ 53 + b.exponent := by
  have hunit : (0 : ℚ) < 2 ^ b.exponent := by positivity
  have hle := zpow_totalExponent_le hden e hzero
  have hhigh := (h.bounds hb).2
  have hmantissa : b.value + 2 ^ b.exponent ≤ 2 ^ 53 * 2 ^ b.exponent := by
    have hsucc : (b.mantissa : ℚ) + 1 ≤ 2 ^ 53 := by exact_mod_cast hb.lt
    calc b.value + 2 ^ b.exponent = (b.mantissa + 1) * 2 ^ b.exponent := by
          rw [Binary.value]
          ring
      _ ≤ 2 ^ 53 * 2 ^ b.exponent := mul_le_mul_of_nonneg_right hsucc hunit.le
  have hlt : (2 : ℚ) ^ (totalExponent (num / den) e - 1) < 2 ^ (53 + b.exponent) := by
    have hpow : (2 : ℚ) ^ (53 + b.exponent) = 2 ^ 53 * 2 ^ b.exponent :=
      zpow_add₀ (by norm_num) 53 b.exponent
    linarith
  have := (zpow_lt_zpow_iff_right₀ (by norm_num)).1 hlt
  omega

/-- Within a binade, what lies in the interval of a double is as long as the double. -/
theorem lt_totalExponent_of_holds (hstart : b.isBinadeStart = false)
    (hleast : b.exponent ≠ -1074) : (52 : ℕ) + b.exponent < totalExponent (num / den) e := by
  have hexponent := hb.le_exponent
  have hunit : (0 : ℚ) < 2 ^ b.exponent := by positivity
  have hlow := (h.bounds hb).1
  rw [hstart, if_neg Bool.false_ne_true] at hlow
  have hnormal := hb.normal.resolve_left hleast
  have hne : b.mantissa ≠ 2 ^ 52 := fun hmantissa =>
    Bool.eq_false_iff.1 hstart (hb.start_iff.2 ⟨hmantissa, by omega⟩)
  have hvalue : (2 ^ 52 + 1) * 2 ^ b.exponent ≤ b.value := by
    have hsucc : (2 : ℚ) ^ 52 + 1 ≤ b.mantissa := by exact_mod_cast (by omega)
    exact mul_le_mul_of_nonneg_right hsucc hunit.le
  refine lt_totalExponent hden e ?_
  linarith

/-- What lies in the interval of the first double of a binade is at most one digit shorter. -/
theorem lt_totalExponent_of_holds_start (hstart : b.isBinadeStart = true) :
    (51 : ℕ) + b.exponent < totalExponent (num / den) e := by
  have hunit : (0 : ℚ) < 2 ^ b.exponent := by positivity
  have hlow := (h.bounds hb).1
  rw [hstart, if_pos rfl, hb.value_of_start hstart] at hlow
  refine lt_totalExponent hden e ?_
  linarith

/-- What lies in the interval of a double gets the exponent of the double, unless it is less than
the first double of the binade. -/
theorem targetExponent_of_holds (he : e ≤ format.targetExponent (totalExponent (num / den) e)) :
    format.targetExponent (totalExponent (num / den) e) = b.exponent ∨
      format.targetExponent (totalExponent (num / den) e) = b.exponent - 1 ∧
        b.isBinadeStart = true ∧ (num : ℚ) / den * 2 ^ e < b.value := by
  have hexponent := hb.le_exponent
  rw [targetExponent_eq] at he ⊢
  have hupper : totalExponent (num / den) e - 53 ≤ b.exponent := by
    by_cases hzero : num / den = 0
    · rw [hzero] at he ⊢
      simp only [totalExponent, Nat.log2_zero] at he ⊢
      omega
    · have := totalExponent_le_of_holds hden e hb h hzero
      omega
  cases hstart : b.isBinadeStart with
  | true =>
    have hlower := lt_totalExponent_of_holds_start hden e hb h hstart
    by_cases hbinade : b.value ≤ num / den * 2 ^ e
    · have : (52 : ℕ) + b.exponent < totalExponent (num / den) e :=
        lt_totalExponent hden e (hb.value_of_start hstart ▸ hbinade)
      exact .inl (by omega)
    · rw [not_le] at hbinade
      obtain ⟨-, hleast⟩ := hb.start_iff.1 hstart
      rcases (by omega : max (totalExponent (num / den) e - 53) (-1074) = b.exponent ∨
        max (totalExponent (num / den) e - 53) (-1074) = b.exponent - 1) with ht | ht
      · exact .inl ht
      · exact .inr ⟨ht, rfl, hbinade⟩
  | false =>
    by_cases hleast : b.exponent = -1074
    · exact .inl (by omega)
    · have := lt_totalExponent_of_holds hden e hb h hstart hleast
      exact .inl (by omega)

/-- The first rounding gives the mantissa of the double, or one that has a digit too many. -/
theorem roundDiv_of_holds (he : e ≤ format.targetExponent (totalExponent (num / den) e)) :
    let t := format.targetExponent (totalExponent (num / den) e)
    t = b.exponent ∧ roundDiv num (den * 2 ^ (t - e).toNat) = b.mantissa ∨
      t + 1 = b.exponent ∧ b.mantissa = 2 ^ 52 ∧
        roundDiv num (den * 2 ^ (t - e).toNat) = 2 ^ 53 := by
  intro t
  have hden' : 0 < den * 2 ^ (t - e).toNat := Nat.mul_pos hden (Nat.pow_pos (by decide))
  have hr : (num : ℚ) / den * 2 ^ e = num / (den * 2 ^ (t - e).toNat : ℕ) * 2 ^ t :=
    eq_mul_zpow hden e he
  have hunit : (0 : ℚ) < 2 ^ t := by positivity
  obtain ⟨hlow, hhigh⟩ := h.bounds hb
  rcases targetExponent_of_holds hden e hb h he with ht | ⟨ht, hstart, hlt⟩
  · refine .inl ⟨ht, roundDiv_of_near hden' hunit ?_ ?_ fun hodd => ?_⟩ <;>
      rw [← hr, show t = b.exponent from ht]
    · rw [show t = b.exponent from ht] at hunit
      refine le_trans ?_ hlow
      rw [Binary.value]
      split <;> linarith
    · exact hhigh
    · exact h.strict_bounds hb hodd
  · obtain ⟨hmantissa, -⟩ := hb.start_iff.1 hstart
    have hdouble : (2 : ℚ) ^ b.exponent = 2 * 2 ^ t := by
      rw [show b.exponent = 1 + t by omega, zpow_add₀ (by norm_num), zpow_one]
    have hvalue : b.value = 2 ^ 53 * 2 ^ t := by
      rw [hb.value_of_start hstart, hdouble]
      ring
    rw [hstart, if_pos rfl, hvalue, hdouble] at hlow
    rw [hvalue] at hlt
    refine .inr ⟨by omega, hmantissa, roundDiv_of_near hden' hunit ?_ ?_ fun hodd => ?_⟩
    · rw [← hr]
      push_cast
      linarith
    · rw [← hr]
      push_cast
      linarith
    · exact absurd hodd (by decide)

/-- What lies in the interval of a double is rounded to it. -/
theorem roundWithAccuracy_of_holds (he : e ≤ format.targetExponent (totalExponent (num / den) e))
    (sign : Sign) :
    roundWithAccuracy format sign (num / den) e (accuracyOfFraction (num % den) den) =
      .finite sign b.mantissa b.exponent hb.pos := by
  rw [roundWithAccuracy_eq hden e he]
  have hcases := roundDiv_of_holds hden e hb h he
  generalize format.targetExponent (totalExponent (num / den) e) = t at *
  rcases hcases with ⟨ht, hround⟩ | ⟨ht, hstart, hround⟩
  · simp only [hround, dif_neg hb.pos.ne', if_neg hb.lt.ne]
    simp only [ht]
  · simp only [hround, ht, hstart]
    rfl

end

/-- A whole number of units in the interval of a double is rounded to it, if there are enough of
them. -/
theorem roundWithAccuracy_exact_of_holds {b : Binary} (hb : b.Canonical) {m : Nat} {e : Int}
    (h : (Interval.ofBinary b).Holds (m * 2 ^ e)) (hlong : 2 ^ 52 ≤ m) (sign : Sign) :
    roundWithAccuracy format sign m e .exact = .finite sign b.mantissa b.exponent hb.pos := by
  have hlog := (Nat.le_log2 (by omega)).2 hlong
  have hfraction : (m : ℚ) * 2 ^ e = m / (1 : ℕ) * 2 ^ e := by
    rw [Nat.cast_one, div_one]
  rw [hfraction] at h
  have hround := roundWithAccuracy_of_holds Nat.one_pos e hb h ?_ sign
  · rwa [Nat.div_one, Nat.mod_one] at hround
  · rw [Nat.div_one, targetExponent_eq, totalExponent]
    omega

end GoSurvey.Decimal
