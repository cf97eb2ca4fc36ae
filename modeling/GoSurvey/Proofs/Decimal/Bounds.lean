import GoSurvey.Proofs.Decimal.Rounding

/-!
# Lower bounds of doubles

A sum of doubles is rounded, so it can be less than the exact sum. But it is never less than a
double that the exact sum is not less than: rounding keeps every lower bound that is a double itself
(`notBelow_roundWithAccuracy`), whether or not it has the unit of the result. So lower bounds of two
doubles can be added (`NotBelow.add`).
-/

namespace GoSurvey.Decimal

open Float.Model Float.Model.UnpackedFloat

/-- A double is not below a number if it is at least as great, positively infinite, or undefined. -/
def NotBelow (q : ℚ) : UnpackedFloat → Prop
  | .notANumber => True
  | .infinity s => s.apply 1 = 1
  | .zero _ => q ≤ 0
  | .finite s m e _ => q ≤ s.apply m * 2 ^ e

/-- Whole powers of two suffice to compare. -/
theorem le_mul_zpow_iff {q : ℚ} {n e : Int} :
    q ≤ n * 2 ^ e ↔ q * (2 ^ (-e).toNat : ℕ) ≤ (n * (2 ^ e.toNat : ℕ) : ℤ) := by
  rw [zpow_eq_div (by norm_num), mul_div_assoc', le_div_iff₀ (by positivity)]
  push_cast
  rfl

instance (q : ℚ) : DecidablePred (NotBelow q)
  | .notANumber => inferInstanceAs (Decidable True)
  | .infinity s => inferInstanceAs (Decidable (s.apply 1 = 1))
  | .zero _ => inferInstanceAs (Decidable (q ≤ 0))
  | .finite _ _ _ _ => decidable_of_iff _ le_mul_zpow_iff.symm

/-- The mantissa and the exponent of a double are in range, except that the exponent may be too
great. -/
def InRange : UnpackedFloat → Prop
  | .finite _ m e _ => m < 2 ^ 53 ∧ -1074 ≤ e ∧ (e = -1074 ∨ 2 ^ 52 ≤ m)
  | _ => True

/-! ## Rounding keeps bounds -/

section
variable {num den : Nat} (hden : 0 < den) {e : Int}
  (he : e ≤ format.targetExponent (totalExponent (num / den) e))
include hden he

/-- A result is rounded to a mantissa of full length, unless it is too small for that. -/
theorem two_pow_le_roundDiv
    (ht : format.targetExponent (totalExponent (num / den) e) ≠ -1074) :
    2 ^ 52 ≤ roundDiv num
      (den * 2 ^ (format.targetExponent (totalExponent (num / den) e) - e).toNat) := by
  have hzero : num / den ≠ 0 := by
    intro hzero
    rw [hzero, targetExponent_eq, totalExponent, Nat.log2_zero] at he ht
    omega
  have hle := zpow_totalExponent_le hden e hzero
  have hexponent : totalExponent (num / den) e - 1 =
      52 + format.targetExponent (totalExponent (num / den) e) := by
    rw [targetExponent_eq] at ht ⊢
    omega
  rw [hexponent, eq_mul_zpow hden e he, zpow_add₀ (by norm_num)] at hle
  generalize format.targetExponent (totalExponent (num / den) e) = t at *
  have hden' : 0 < den * 2 ^ (t - e).toNat := Nat.mul_pos hden (Nat.pow_pos (by decide))
  have hmantissa := (mul_le_mul_iff_left₀ (by positivity)).1 hle
  rw [le_div_iff₀ (by exact_mod_cast hden')] at hmantissa
  exact le_roundDiv hden' (by exact_mod_cast hmantissa)

/-- A double that is at most a result is at most the rounded result. -/
theorem le_roundDiv_mul_zpow {c : Nat} {k : Int} (hc : c < 2 ^ 53) (hk : -1074 ≤ k)
    (h : c * 2 ^ k ≤ (num : ℚ) / den * 2 ^ e) :
    (c : ℚ) * 2 ^ k ≤ (roundDiv num
      (den * 2 ^ (format.targetExponent (totalExponent (num / den) e) - e).toNat) : ℕ) *
        2 ^ format.targetExponent (totalExponent (num / den) e) := by
  have hfull := two_pow_le_roundDiv hden he
  rw [eq_mul_zpow hden e he] at h
  generalize format.targetExponent (totalExponent (num / den) e) = t at *
  have hden' : 0 < den * 2 ^ (t - e).toNat := Nat.mul_pos hden (Nat.pow_pos (by decide))
  have hunit : (0 : ℚ) < 2 ^ t := by positivity
  rcases le_or_gt t k with htk | hkt
  · -- The double is a whole number of units.
    have hunits : (c : ℚ) * 2 ^ k = (c * 2 ^ (k - t).toNat : ℕ) * 2 ^ t := by
      conv_lhs => rw [show k = ((k - t).toNat : ℤ) + t by omega, zpow_add₀ (by norm_num)]
      push_cast
      rw [zpow_natCast, mul_assoc]
    rw [hunits] at h ⊢
    have hle := (mul_le_mul_iff_left₀ hunit).1 h
    rw [le_div_iff₀ (by exact_mod_cast hden')] at hle
    refine mul_le_mul_of_nonneg_right ?_ hunit.le
    exact_mod_cast le_roundDiv hden' (by exact_mod_cast hle)
  · -- The rounded result has a greater unit and full length.
    have hmantissa : (2 : ℚ) ^ 52 ≤ (roundDiv num (den * 2 ^ (t - e).toNat) : ℕ) := by
      exact_mod_cast hfull (by omega)
    have hle : (2 : ℚ) ^ k ≤ 2 ^ (t - 1) := zpow_le_zpow_right₀ (by norm_num) (by omega)
    have hhalf : (2 : ℚ) ^ t = 2 * 2 ^ (t - 1) := by
      rw [← zpow_one_add₀ (by norm_num)]
      congr 1
      omega
    have hc' : (c : ℚ) ≤ 2 ^ 53 := by exact_mod_cast hc.le
    calc (c : ℚ) * 2 ^ k ≤ 2 ^ 53 * 2 ^ (t - 1) := by gcongr
      _ = 2 ^ 52 * 2 ^ t := by rw [hhalf]; ring
      _ ≤ _ := mul_le_mul_of_nonneg_right hmantissa hunit.le

/-- Rounding keeps every lower bound that is a double itself. -/
theorem notBelow_roundWithAccuracy {c : Nat} {k : Int} (hc : c < 2 ^ 53) (hk : -1074 ≤ k)
    (h : c * 2 ^ k ≤ (num : ℚ) / den * 2 ^ e) :
    NotBelow (c * 2 ^ k) (roundWithAccuracy format .positive (num / den) e
      (accuracyOfFraction (num % den) den)) := by
  have hle := le_roundDiv_mul_zpow hden he hc hk h
  rw [roundWithAccuracy_eq hden e he]
  generalize format.targetExponent (totalExponent (num / den) e) = t at *
  split
  · rename_i hzero
    rwa [hzero, Nat.cast_zero, zero_mul] at hle
  split
  · rename_i hcarry
    rw [hcarry] at hle
    refine hle.trans_eq ?_
    rw [zpow_add_one₀ (by norm_num)]
    simp only [Sign.apply]
    push_cast
    ring
  · exact hle

/-- What a result is rounded to is in range. -/
theorem inRange_roundWithAccuracy (sign : Sign) :
    InRange (roundWithAccuracy format sign (num / den) e (accuracyOfFraction (num % den) den)) := by
  have hfull := two_pow_le_roundDiv hden he
  have hle := roundDiv_le_two_pow hden e he
  have hleast : -1074 ≤ format.targetExponent (totalExponent (num / den) e) := le_max_right ..
  rw [roundWithAccuracy_eq hden e he]
  generalize format.targetExponent (totalExponent (num / den) e) = t at *
  split
  · trivial
  split
  · refine ⟨by decide, by omega, .inr (by decide)⟩
  · refine ⟨by omega, hleast, ?_⟩
    exact (eq_or_ne t (-1074)).imp_right hfull

end

/-! ## Exact sums -/

/-- Shifting makes a number longer. -/
theorem log2_shiftLeft {m : Nat} (hm : m ≠ 0) (n : Nat) : (m <<< n).log2 = m.log2 + n := by
  induction n with
  | zero => rfl
  | succ n ih =>
    have hne : m <<< n ≠ 0 := by simpa [Nat.shiftLeft_eq] using hm
    rw [Nat.shiftLeft_succ, Nat.log2_two_mul hne, ih, Nat.add_assoc]

/-- Before rounding, the exponent is lowered so far that no digit is missing. -/
theorem exists_round {m : Nat} (hm : m ≠ 0) (e : Int) (sign : Sign) :
    ∃ (num : Nat) (e' : Int), (num : ℚ) / (1 : ℕ) * 2 ^ e' = m * 2 ^ e ∧
      e' ≤ format.targetExponent (totalExponent (num / 1) e') ∧
      UnpackedFloat.round format sign m e =
        roundWithAccuracy format sign (num / 1) e' (accuracyOfFraction (num % 1) 1) := by
  generalize ht : format.targetExponent (totalExponent m e) = t
  refine ⟨m <<< (e - t).toNat, e - (e - t).toNat, ?_, ?_, ?_⟩
  · rw [Nat.shiftLeft_eq, zpow_sub₀ (by norm_num), zpow_natCast]
    push_cast
    field_simp
  · have htotal : totalExponent (m <<< (e - t).toNat) (e - (e - t).toNat) = totalExponent m e := by
      rw [totalExponent, totalExponent, log2_shiftLeft hm]
      omega
    rw [Nat.div_one, htotal, ht]
    omega
  · rw [UnpackedFloat.round, Nat.div_one, Nat.mod_one]
    simp only [decreaseExponent, ht]
    rfl

/-- What a sum or a difference of doubles is rounded to is in range. -/
theorem inRange_normalize (m e : Int) : InRange (UnpackedFloat.normalize format m e .positive) := by
  have hround : ∀ {n : Nat}, n ≠ 0 → ∀ sign, InRange (UnpackedFloat.round format sign n e) := by
    intro n hn sign
    obtain ⟨num, e', -, he, heq⟩ := exists_round hn e sign
    rw [heq]
    exact inRange_roundWithAccuracy Nat.one_pos he sign
  rw [UnpackedFloat.normalize]
  rcases lt_trichotomy m 0 with hlt | rfl | hgt
  · rw [compare_lt_iff_lt.2 hlt]
    exact hround (by omega) _
  · trivial
  · rw [compare_gt_iff_gt.2 hgt]
    exact hround (by omega) _

/-- Rounding a sum or a difference keeps every bound that is a double itself. -/
theorem notBelow_normalize {m e : Int} {c : Nat} {k : Int} (hc : c < 2 ^ 53) (hk : -1074 ≤ k)
    (h : (c : ℚ) * 2 ^ k ≤ m * 2 ^ e) :
    NotBelow (c * 2 ^ k) (UnpackedFloat.normalize format m e .positive) := by
  have hunit : (0 : ℚ) < 2 ^ e := by positivity
  have hnonneg : (0 : ℚ) ≤ m * 2 ^ e := le_trans (by positivity) h
  have hm : 0 ≤ m := by exact_mod_cast nonneg_of_mul_nonneg_left hnonneg hunit
  rw [UnpackedFloat.normalize]
  rcases hm.eq_or_lt with rfl | hpos
  · rwa [Int.cast_zero, zero_mul] at h
  · obtain ⟨num, e', hvalue, he, heq⟩ := exists_round (by omega : m.toNat ≠ 0) e .positive
    have hcast : ((m.toNat : ℕ) : ℚ) = m := by exact_mod_cast Int.toNat_of_nonneg hm
    rw [compare_gt_iff_gt.2 hpos]
    change NotBelow _ (UnpackedFloat.round format .positive m.toNat e)
    rw [heq]
    refine notBelow_roundWithAccuracy Nat.one_pos he hc hk ?_
    rwa [hvalue, hcast]

/-- The opposite sign gives the opposite number. -/
theorem apply_neg (s : Sign) (n : Int) : (-s).apply n = -s.apply n := by
  cases s with
  | negative => exact (neg_neg n).symm
  | positive => rfl

/-- Subtracting is adding what is negated. -/
theorem unpacked_sub_eq (x y : UnpackedFloat) :
    UnpackedFloat.sub format x y = UnpackedFloat.add format x y.neg := by
  cases x with
  | finite s m e =>
    cases y with
    | finite s' m' e' =>
      simp only [UnpackedFloat.sub, UnpackedFloat.neg, UnpackedFloat.add, apply_neg]
      rw [Int.sub_eq_add_neg]
    | _ => rfl
  | _ => cases y <;> rfl

/-- A number as a number of smaller units. -/
theorem apply_shiftLeft_mul_zpow (s : Sign) (m : Nat) {e e' : Int} (h : e' ≤ e) :
    (s.apply (m <<< (e - e').toNat : ℕ) : ℚ) * 2 ^ e' = s.apply m * 2 ^ e := by
  have he : e = (e - e').toNat + e' := by omega
  conv_rhs => rw [he, zpow_add₀ (by norm_num), zpow_natCast]
  rw [Nat.shiftLeft_eq]
  cases s <;> simp only [Sign.apply] <;> push_cast <;> ring

/-- Bounds can be added, as long as the sum is a double itself. -/
theorem NotBelow.add {p r : ℚ} {x y : UnpackedFloat} (hx : NotBelow p x) (hy : NotBelow r y)
    {c : Nat} {k : Int} (hc : c < 2 ^ 53) (hk : -1074 ≤ k) (h : c * 2 ^ k ≤ p + r) :
    NotBelow (c * 2 ^ k) (UnpackedFloat.add format x y) := by
  cases x with
  | notANumber => trivial
  | infinity s =>
    cases y with
    | infinity s' => cases s <;> cases s' <;> trivial
    | notANumber => trivial
    | zero | finite => exact hx
  | zero s =>
    change p ≤ 0 at hx
    cases y with
    | notANumber => trivial
    | infinity => exact hy
    | zero s' =>
      change r ≤ 0 at hy
      cases s <;> cases s' <;> exact h.trans (add_nonpos hx hy)
    | finite s' m' e' =>
      change r ≤ s'.apply m' * 2 ^ e' at hy
      change c * 2 ^ k ≤ (s'.apply m' : ℚ) * 2 ^ e'
      linarith
  | finite s m e =>
    change p ≤ s.apply m * 2 ^ e at hx
    cases y with
    | notANumber => trivial
    | infinity => exact hy
    | zero s' =>
      change r ≤ 0 at hy
      change c * 2 ^ k ≤ (s.apply m : ℚ) * 2 ^ e
      linarith
    | finite s' m' e' =>
      refine notBelow_normalize hc hk (h.trans ?_)
      rw [Int.cast_add, add_mul, apply_shiftLeft_mul_zpow s m (min_le_left ..),
        apply_shiftLeft_mul_zpow s' m' (min_le_right ..)]
      exact add_le_add hx hy

/-- Sums are in range. -/
theorem InRange.add {x y : UnpackedFloat} (hx : InRange x) (hy : InRange y) :
    InRange (UnpackedFloat.add format x y) := by
  cases x with
  | notANumber => trivial
  | infinity s =>
    cases y with
    | infinity s' => cases s <;> cases s' <;> trivial
    | _ => trivial
  | zero s =>
    cases y with
    | zero s' => cases s <;> cases s' <;> trivial
    | notANumber | infinity => trivial
    | finite => exact hy
  | finite s m e =>
    cases y with
    | notANumber | infinity => trivial
    | zero => exact hx
    | finite => exact inRange_normalize ..

/-- Negation does not touch what can be out of range. -/
theorem InRange.neg {x : UnpackedFloat} (hx : InRange x) : InRange x.neg := by
  cases x with
  | finite => exact hx
  | _ => trivial

end GoSurvey.Decimal
