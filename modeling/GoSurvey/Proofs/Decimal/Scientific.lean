import GoSurvey.Proofs.Decimal.Bits

/-!
# Decimals as doubles

A decimal is turned into a double by one multiplication or division, either of two doubles that are
exact or of whole numbers of any size. Both round once, so a decimal in the interval of a double is
turned into that double (`ofScientific_of_holds`).
-/

namespace GoSurvey.Decimal

open Float.Model Float.Model.UnpackedFloat

/-! ## Products and quotients -/

section
variable {b : Binary} (hb : b.Canonical) {m₁ m₂ : Nat} {e₁ e₂ : Int} (h₁ : 0 < m₁) (h₂ : 0 < m₂)
include hb h₁ h₂

/-- A product in the interval of a double is that double, if one factor is long enough. -/
theorem mul_of_holds (hlong : 2 ^ 52 ≤ m₁)
    (h : (Interval.ofBinary b).Holds (m₁ * 2 ^ e₁ * (m₂ * 2 ^ e₂))) :
    mul format (.finite .positive m₁ e₁ h₁) (.finite .positive m₂ e₂ h₂) =
      .finite .positive b.mantissa b.exponent hb.pos := by
  have hvalue : (m₁ * 2 ^ e₁ * (m₂ * 2 ^ e₂) : ℚ) = (m₁ * m₂ : ℕ) * 2 ^ (e₁ + e₂) := by
    rw [zpow_add₀ (by norm_num)]
    push_cast
    ring
  rw [hvalue] at h
  have hlong' : 2 ^ 52 ≤ m₁ * m₂ := hlong.trans (Nat.le_mul_of_pos_right m₁ h₂)
  exact roundWithAccuracy_exact_of_holds hb h hlong' .positive

/-- A quotient in the interval of a double is that double. -/
theorem div_of_holds (h : (Interval.ofBinary b).Holds (m₁ * 2 ^ e₁ / (m₂ * 2 ^ e₂))) :
    div format (.finite .positive m₁ e₁ h₁) (.finite .positive m₂ e₂ h₂) =
      .finite .positive b.mantissa b.exponent hb.pos := by
  obtain ⟨t, ht⟩ : ∃ t, t = min (e₁ - e₂)
    (format.targetExponent (totalExponent m₁ e₁ - totalExponent m₂ e₂)) := ⟨_, rfl⟩
  have hdiv : div format (.finite .positive m₁ e₁ h₁) (.finite .positive m₂ e₂ h₂) =
      roundWithAccuracy format .positive (m₁ * 2 ^ (e₁ - e₂ - t).toNat / m₂) t
        (accuracyOfFraction (m₁ * 2 ^ (e₁ - e₂ - t).toNat % m₂) m₂) := by
    rw [← Nat.shiftLeft_eq, ht]
    rfl
  have hvalue : (m₁ * 2 ^ e₁ / (m₂ * 2 ^ e₂) : ℚ) =
      (m₁ * 2 ^ (e₁ - e₂ - t).toNat : ℕ) / m₂ * 2 ^ t := by
    have hshift : (2 : ℚ) ^ e₁ = 2 ^ (e₁ - e₂ - t).toNat * 2 ^ t * 2 ^ e₂ := by
      rw [← zpow_natCast, ← zpow_add₀ (by norm_num), ← zpow_add₀ (by norm_num)]
      congr 1
      omega
    rw [hshift]
    push_cast
    field_simp
  rw [hvalue] at h
  rw [hdiv]
  refine roundWithAccuracy_of_holds h₂ t hb h ?_ .positive
  rw [targetExponent_eq, totalExponent, totalExponent] at ht
  rw [targetExponent_eq, totalExponent]
  -- The quotient is long enough, unless it is among the smallest numbers.
  by_cases hleast : t ≤ -1074
  · omega
  · have hlong : 2 ^ 52 * m₂ ≤ m₁ * 2 ^ (e₁ - e₂ - t).toNat :=
      calc 2 ^ 52 * m₂ ≤ 2 ^ 52 * 2 ^ (m₂.log2 + 1) :=
            Nat.mul_le_mul_left _ Nat.lt_log2_self.le
        _ = 2 ^ (52 + (m₂.log2 + 1)) := (Nat.pow_add ..).symm
        _ ≤ 2 ^ (m₁.log2 + (e₁ - e₂ - t).toNat) := Nat.pow_le_pow_right (by decide) (by omega)
        _ = 2 ^ m₁.log2 * 2 ^ (e₁ - e₂ - t).toNat := Nat.pow_add ..
        _ ≤ m₁ * 2 ^ (e₁ - e₂ - t).toNat := Nat.mul_le_mul_right _ (Nat.log2_self_le h₁.ne')
    have hquotient := (Nat.le_div_iff_mul_le h₂).2 hlong
    have hlog := (Nat.le_log2 (by omega : m₁ * 2 ^ (e₁ - e₂ - t).toNat / m₂ ≠ 0)).2 hquotient
    omega

end

/-! ## Exact doubles -/

/-- A number of at most fifty-three digits, shifted to have exactly so many. -/
def Binary.shifted (m : Nat) (e : Int) : Binary where
  negative := false
  mantissa := m * 2 ^ (52 - m.log2)
  exponent := e - (52 - m.log2 : ℕ)
  isBinadeStart := m * 2 ^ (52 - m.log2) == 2 ^ 52

namespace Binary
variable {m : Nat} {e : Int}

/-- A shifted number is the same number. -/
theorem value_shifted (m : Nat) (e : Int) : (shifted m e).value = m * 2 ^ e := by
  rw [value, shifted, zpow_sub₀ (by norm_num), zpow_natCast]
  push_cast
  field_simp

variable (hpos : 0 < m) (hlt : m < 2 ^ 53)
include hpos hlt

/-- A shifted number has fifty-three digits. -/
theorem mantissa_shifted : 2 ^ 52 ≤ m * 2 ^ (52 - m.log2) ∧ m * 2 ^ (52 - m.log2) < 2 ^ 53 := by
  have hlog := (Nat.log2_lt hpos.ne').2 hlt
  have hsplit : 2 ^ m.log2 * 2 ^ (52 - m.log2) = 2 ^ 52 := by
    rw [← Nat.pow_add]
    congr 1
    omega
  constructor
  · rw [← hsplit]
    exact Nat.mul_le_mul_right _ (Nat.log2_self_le hpos.ne')
  · calc m * 2 ^ (52 - m.log2) < 2 ^ (m.log2 + 1) * 2 ^ (52 - m.log2) :=
          Nat.mul_lt_mul_of_pos_right Nat.lt_log2_self (Nat.pow_pos (by decide))
      _ = 2 ^ 52 * 2 := by rw [Nat.pow_succ, Nat.mul_right_comm, hsplit]

/-- A shifted number is one that a double can have. -/
theorem canonical_shifted (hlow : -1000 ≤ e) (hhigh : e ≤ 971) : (shifted m e).Canonical := by
  obtain ⟨hge, hlt'⟩ := mantissa_shifted hpos hlt
  have hexponent : (shifted m e).exponent = e - (52 - m.log2 : ℕ) := rfl
  have hstart : (shifted m e).isBinadeStart = ((shifted m e).mantissa == 2 ^ 52) := rfl
  refine ⟨(by decide : 0 < 2 ^ 52).trans_le hge, hlt', by omega, by omega, .inr hge, ?_⟩
  rw [hstart, beq_iff_eq]
  exact (and_iff_left (by omega)).symm

end Binary

/-- A number lies in its own interval. -/
theorem Interval.holds_value {b : Binary} (hb : b.Canonical) : (ofBinary b).Holds b.value := by
  have hunit : (0 : ℚ) < 2 ^ b.exponent := by positivity
  refine holds_of_lt ?_ ?_
  · rw [low_ofBinary b hb.pos]
    split <;> linarith
  · rw [high_ofBinary]
    linarith

/-- A whole number of at most fifty-three digits is a double. -/
theorem ofNat_eq {m : Nat} (hpos : 0 < m) (hlt : m < 2 ^ 53)
    (hb : (Binary.shifted m 0).Canonical) :
    UnpackedFloat.ofNat format m =
      .finite .positive (Binary.shifted m 0).mantissa (Binary.shifted m 0).exponent hb.pos := by
  have hlog := (Nat.log2_lt hpos.ne').2 hlt
  have hcompare : compare (m : ℤ) 0 = .gt := Int.compare_eq_gt.2 (by omega)
  have hshift : (0 - format.targetExponent (totalExponent m 0)).toNat = 52 - m.log2 := by
    rw [targetExponent_eq, totalExponent]
    omega
  have hround : UnpackedFloat.ofNat format m = roundWithAccuracy format .positive
      (m * 2 ^ (52 - m.log2)) (0 - (52 - m.log2 : ℕ)) .exact := by
    rw [UnpackedFloat.ofNat, UnpackedFloat.ofInt, UnpackedFloat.normalize, hcompare, ← hshift,
      ← Nat.shiftLeft_eq]
    rfl
  rw [hround]
  exact roundWithAccuracy_exact_of_holds hb (Interval.holds_value hb)
    (Binary.mantissa_shifted hpos hlt).1 .positive

/-- The double for a shifted number, as the operations on doubles see it. -/
theorem unpack_toFloat_shifted {m : Nat} {e : Int} (hb : (Binary.shifted m e).Canonical) :
    (Binary.shifted m e).toFloat.toModel.unpack =
      .finite .positive (Binary.shifted m e).mantissa (Binary.shifted m e).exponent hb.pos := by
  have hfloat : (Binary.shifted m e).toFloat = .ofModel (.pack (.finite .positive
      (Binary.shifted m e).mantissa (Binary.shifted m e).exponent hb.pos)) := by
    rw [Binary.toFloat, dif_neg hb.pos.ne']
    rfl
  rw [hfloat]
  exact Binary.unpack_pack hb .positive

/-- A whole number of at most fifty-three digits is a double. -/
theorem toFloat_toUInt64 {m : Nat} (hpos : 0 < m) (hlt : m < 2 ^ 53) :
    m.toUInt64.toFloat = (Binary.shifted m 0).toFloat := by
  have hb := Binary.canonical_shifted hpos hlt (by decide : -1000 ≤ (0 : ℤ)) (by decide)
  have hsmall : m.toUInt64.toNat = m := Nat.mod_eq_of_lt (by omega)
  rw [Binary.toFloat, dif_neg hb.pos.ne', UInt64.toFloat, Float.Model.ofUInt64,
    UnpackedFloat.ofUInt64, hsmall, ofNat_eq hpos hlt hb]
  rfl

/-- The powers of ten in the table are exact. -/
theorem powersOfTen_eq : ∀ k : Fin 23, Float.exactlyRepresentablePowersOfTen[k] =
    (Binary.shifted (5 ^ k.val) k.val).toFloat := by
  decide

/-! ## Decimals -/

section
variable {b : Binary} (hb : b.Canonical) {m : Nat} {e : Int}
  (h : (Interval.ofBinary b).Holds (Scaled.value ⟨m, e⟩))
include hb h

/-- A decimal in the interval of a double is not zero. -/
theorem digits_pos_of_holds : 0 < m := by
  have hrange := (h.range hb).1
  by_contra hzero
  rw [Scaled.value, Nat.eq_zero_of_not_pos hzero, Nat.cast_zero, zero_mul] at hrange
  exact absurd hrange (not_le.2 (by positivity))

/-- A decimal in the interval of a double is not so large that it would be taken as infinite. -/
theorem exponent_le_of_holds : e ≤ 2 ^ 11 := by
  have hrange := (h.range hb).2
  have hone : (1 : ℚ) ≤ m := by exact_mod_cast digits_pos_of_holds hb h
  by_contra hlarge
  rw [not_le] at hlarge
  have hpow : (2 : ℚ) ^ (1024 : ℤ) < 2 ^ e := zpow_lt_zpow_right₀ (by norm_num) (by omega)
  have hten : (2 : ℚ) ^ e ≤ 10 ^ e := zpow_le_zpow_left₀ (by omega) (by norm_num) (by norm_num)
  have hvalue : (10 : ℚ) ^ e ≤ Scaled.value ⟨m, e⟩ := le_mul_of_one_le_left (by positivity) hone
  exact absurd ((hpow.trans_le hten).trans_le hvalue) (not_lt.2 hrange)

/-- A decimal in the interval of a double is not so small that it would be taken as zero. -/
theorem le_exponent_of_holds : -((2 ^ 11 : ℤ) + m.log2) ≤ e := by
  have hrange := (h.range hb).1
  by_contra hsmall
  rw [not_le] at hsmall
  have hm : (m : ℚ) < 2 ^ (m.log2 + 1) := by exact_mod_cast Nat.lt_log2_self
  have hten : (10 : ℚ) ^ e ≤ 2 ^ e := by
    rw [show (10 : ℚ) = 2 * 5 by norm_num, mul_zpow]
    exact mul_le_of_le_one_right (by positivity) (zpow_le_one_of_nonpos₀ (by norm_num) (by omega))
  have hvalue : Scaled.value ⟨m, e⟩ < 2 ^ ((m.log2 + 1 : ℕ) + e) := by
    rw [zpow_add₀ (by norm_num), zpow_natCast]
    exact mul_lt_mul hm hten (by positivity) (by positivity)
  have hpow : (2 : ℚ) ^ ((m.log2 + 1 : ℕ) + e) ≤ 2 ^ (-1075 : ℤ) :=
    zpow_le_zpow_right₀ (by norm_num) (by push_cast; omega)
  exact absurd (hvalue.trans_le hpow) (not_lt.2 hrange)

/-- Whole numbers are multiplied by a power of ten, or divided by one. -/
theorem model_ofScientific_of_holds :
    UnpackedFloat.ofScientific format m e = .finite .positive b.mantissa b.exponent hb.pos := by
  have hpos := digits_pos_of_holds hb h
  have hlarge := exponent_le_of_holds hb h
  have hsmall := le_exponent_of_holds hb h
  rw [UnpackedFloat.ofScientific, dif_neg hpos.ne', if_neg (not_lt.2 hlarge),
    if_neg (not_lt.2 hsmall)]
  split
  · rename_i hnonneg
    have hten : (10 : ℚ) ^ e.toNat = 10 ^ e := by
      rw [← zpow_natCast, Int.toNat_of_nonneg hnonneg]
    refine mul_of_holds hb _ _ ?_ ?_
    · rw [Nat.shiftLeft_eq]
      exact (by decide : 2 ^ 52 ≤ 2 ^ 53).trans (Nat.le_mul_of_pos_left _ hpos)
    · have hshift :
          ((m <<< format.mantissaBits : ℕ) : ℚ) * 2 ^ (-(format.mantissaBits : ℤ)) = m := by
        rw [Nat.shiftLeft_eq, zpow_neg, zpow_natCast]
        push_cast
        field_simp
      rw [hshift, zpow_zero, mul_one]
      push_cast
      rwa [hten]
  · rename_i hneg
    have hten : (10 : ℚ) ^ (-e).toNat = (10 ^ e)⁻¹ := by
      rw [← zpow_natCast, Int.toNat_of_nonneg (by omega), zpow_neg]
    refine div_of_holds hb _ _ ?_
    rw [zpow_zero, mul_one, mul_one]
    push_cast
    rwa [hten, div_inv_eq_mul]

/-- Doubles are multiplied by a power of ten, or divided by one, if both are exact. -/
theorem exact_ofScientific_of_holds (hlt : m < 2 ^ 53) {k : Fin 23} (hk : e.natAbs = k) :
    (if e < 0 then m.toUInt64.toFloat / Float.exactlyRepresentablePowersOfTen[k]
      else m.toUInt64.toFloat * Float.exactlyRepresentablePowersOfTen[k]) =
      .ofModel (.pack (.finite .positive b.mantissa b.exponent hb.pos)) := by
  have hpos := digits_pos_of_holds hb h
  have hm := Binary.canonical_shifted hpos hlt (by decide : -1000 ≤ (0 : ℤ)) (by decide)
  have hp : ∀ k : Fin 23, 5 ^ k.val < 2 ^ 53 := by decide
  have hten := Binary.canonical_shifted (Nat.pow_pos (by decide)) (hp k)
    (by omega : -1000 ≤ (k.val : ℤ)) (by omega)
  have hnumber : ((Binary.shifted m 0).mantissa : ℚ) * 2 ^ (Binary.shifted m 0).exponent = m := by
    rw [← Binary.value, Binary.value_shifted, zpow_zero, mul_one]
  have hpower : ((Binary.shifted (5 ^ k.val) k.val).mantissa : ℚ) *
      2 ^ (Binary.shifted (5 ^ k.val) k.val).exponent = 10 ^ k.val := by
    rw [← Binary.value, Binary.value_shifted, zpow_natCast]
    push_cast
    rw [← mul_pow]
    norm_num
  have hdiv : ∀ x y : Float, x / y =
      .ofModel (.pack (div format x.toModel.unpack y.toModel.unpack)) := fun _ _ => rfl
  have hmul : ∀ x y : Float, x * y =
      .ofModel (.pack (mul format x.toModel.unpack y.toModel.unpack)) := fun _ _ => rfl
  rw [toFloat_toUInt64 hpos hlt, powersOfTen_eq k, hdiv, hmul, unpack_toFloat_shifted hm,
    unpack_toFloat_shifted hten]
  split
  · rename_i hneg
    rw [div_of_holds hb hm.pos hten.pos]
    rw [hnumber, hpower, ← zpow_natCast, ← hk, Int.ofNat_natAbs_of_nonpos hneg.le, zpow_neg,
      div_inv_eq_mul]
    exact h
  · rename_i hnonneg
    rw [mul_of_holds hb hm.pos hten.pos (Binary.mantissa_shifted hpos hlt).1]
    rw [hnumber, hpower, ← zpow_natCast, ← hk, Int.natAbs_of_nonneg (by omega)]
    exact h

/-- A decimal in the interval of a double is turned into that double. -/
theorem ofScientific_of_holds :
    Float.ofScientific m (decide (e < 0)) e.natAbs =
      .ofModel (.pack (.finite .positive b.mantissa b.exponent hb.pos)) := by
  rw [Float.ofScientific]
  split
  · rename_i hfast
    obtain ⟨hlt, hk⟩ := hfast
    have hexact := exact_ofScientific_of_holds hb h hlt (k := ⟨e.natAbs, by omega⟩) rfl
    simpa using hexact
  · have hexponent :
        (if decide (e < 0) = true then Int.negOfNat e.natAbs else Int.ofNat e.natAbs) = e := by
      split <;> rename_i hsign <;> rw [decide_eq_true_eq] at hsign
      · rw [Int.negOfNat_eq, Int.ofNat_eq_natCast, Int.ofNat_natAbs_of_nonpos hsign.le, neg_neg]
      · exact Int.natAbs_of_nonneg (not_lt.1 hsign)
    simp only [hexponent, Float.Model.ofScientific, model_ofScientific_of_holds hb h]

end

end GoSurvey.Decimal
