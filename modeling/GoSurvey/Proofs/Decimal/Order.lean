import GoSurvey.Proofs.Decimal.Bits
import GoSurvey.Proofs.Decimal.Bounds

/-!
# The order of doubles

The operations on doubles take them apart, compute with the parts and put the result together. Lower
bounds survive this (`NotBelow.unpack_pack`), and so do signs (`Unsigned.unpack_pack`). A double
that stands for a number is greater than another double exactly if this number is not a lower bound
of the other (`lt_iff_not_notBelow`), so that facts about bounds are facts about comparisons.
-/

namespace GoSurvey.Decimal

open Float.Model Float.Model.UnpackedFloat

/-- The parts of a double. -/
abbrev parts (x : Float) : UnpackedFloat :=
  x.toModel.unpack

/-- The number that a double stands for, if there is one. -/
def value? : UnpackedFloat → Option ℚ
  | .notANumber | .infinity _ => none
  | .zero _ => some 0
  | .finite s m e _ => some (s.apply m * 2 ^ e)

/-! ## Signs -/

/-- A number that is not negative has the positive sign. -/
theorem sign_eq_positive {s : Sign} {m : Nat} {e : Int} (hm : 0 < m)
    (h : (0 : ℚ) ≤ s.apply m * 2 ^ e) : s = .positive := by
  cases s with
  | positive => rfl
  | negative =>
    have hneg : (Sign.negative.apply m : ℚ) * 2 ^ e < 0 := by
      refine mul_neg_of_neg_of_pos ?_ (by positivity)
      simpa [Sign.apply] using hm
    exact absurd h hneg.not_ge

/-- A double does not have the negative sign. -/
def Unsigned : UnpackedFloat → Prop
  | .notANumber => True
  | .infinity s | .zero s | .finite s _ _ _ => s = .positive

namespace Unsigned
variable {x y : UnpackedFloat}

/-- What has no sign is not negative. -/
theorem notBelow (hx : Unsigned x) : NotBelow 0 x := by
  cases x with
  | notANumber => trivial
  | infinity s =>
    obtain rfl : s = .positive := hx
    rfl
  | zero => exact le_rfl
  | finite s m e =>
    obtain rfl : s = .positive := hx
    simp only [NotBelow, Sign.apply]
    positivity

/-- Only the negative zero has the negative sign and is not negative. -/
theorem of_notBelow (hx : NotBelow 0 x) : Unsigned x ∨ x = .zero .negative := by
  cases x with
  | notANumber => exact .inl trivial
  | infinity s =>
    cases s with
    | negative => cases hx
    | positive => exact .inl rfl
  | zero s =>
    cases s with
    | negative => exact .inr rfl
    | positive => exact .inl rfl
  | finite s m e hm => exact .inl (sign_eq_positive hm hx)

/-- What stands for a positive number has no sign. -/
theorem of_value? {x : UnpackedFloat} {q : ℚ} (hq : 0 < q) (hx : value? x = some q) :
    Unsigned x := by
  cases x with
  | notANumber | infinity => cases hx
  | zero => exact absurd (Option.some.inj hx) hq.ne
  | finite s m e hm =>
    obtain rfl := Option.some.inj hx
    exact sign_eq_positive hm hq.le

/-- The sign is a field of its own. -/
theorem unpack_packComponents (e : BitVec 11) (m : BitVec 52) :
    Unsigned (UnpackedFloat.unpack format (packComponents format .positive e m)) := by
  rw [UnpackedFloat.unpack]
  simp only [unpackSign_packComponents, Sign.ofBitVec_toBitVec]
  split
  · split
    · rfl
    · trivial
  split
  · split <;> rfl
  · rfl

/-- Putting a double together keeps the sign away. -/
theorem unpack_pack (hx : Unsigned x) :
    Unsigned (UnpackedFloat.unpack format (UnpackedFloat.pack format x)) := by
  cases x with
  | notANumber =>
    rw [UnpackedFloat.pack, unpack_packedNaN]
    trivial
  | infinity s =>
    obtain rfl : s = .positive := hx
    rfl
  | zero s =>
    rw [UnpackedFloat.pack, unpack_packedZero]
    exact hx
  | finite s m e =>
    obtain rfl : s = .positive := hx
    rw [UnpackedFloat.pack]
    simp only
    split
    · rfl
    split <;> exact unpack_packComponents _ _

theorem roundWithAccuracy (m : Nat) (e : Int) (accuracy : Accuracy) :
    Unsigned (roundWithAccuracy format .positive m e accuracy) := by
  rw [UnpackedFloat.roundWithAccuracy]
  simp only
  split <;> rfl

theorem mul (hx : Unsigned x) (hy : Unsigned y) : Unsigned (UnpackedFloat.mul format x y) := by
  cases x <;> cases y <;> simp only [Unsigned] at hx hy <;> subst_vars <;>
    first | trivial | exact roundWithAccuracy ..

theorem div (hx : Unsigned x) (hy : Unsigned y) : Unsigned (UnpackedFloat.div format x y) := by
  cases x <;> cases y <;> simp only [Unsigned] at hx hy <;> subst_vars <;>
    first | trivial | exact roundWithAccuracy ..

theorem normalize (n : Nat) (e : Int) :
    Unsigned (UnpackedFloat.normalize format n e .positive) := by
  rw [UnpackedFloat.normalize]
  rcases n.eq_zero_or_pos with rfl | hpos
  · rfl
  · rw [compare_gt_iff_gt.2 (Int.natCast_pos.2 hpos)]
    exact roundWithAccuracy ..

theorem ofScientific (m : Nat) (e : Int) :
    Unsigned (UnpackedFloat.ofScientific format m e) := by
  rw [UnpackedFloat.ofScientific]
  split_ifs
  · rfl
  · rfl
  · rfl
  · exact mul rfl rfl
  · exact div rfl rfl

end Unsigned

/-- A product with a positive number is not negative if the other factor is not. -/
theorem NotBelow.zero_mul {x y : UnpackedFloat} (hx : Unsigned x) (hy : NotBelow 0 y) :
    NotBelow 0 (UnpackedFloat.mul format x y) := by
  rcases Unsigned.of_notBelow hy with hy | rfl
  · exact (hx.mul hy).notBelow
  · cases x with
    | notANumber | infinity => trivial
    | zero | finite => exact le_rfl

/-! ## Putting doubles together -/

/-- The parts of a double are in range. -/
theorem inRange_parts (x : Float) : InRange (parts x) := by
  change InRange (UnpackedFloat.unpack format x.toModel.toBits.toBitVec)
  generalize x.toModel.toBits.toBitVec = bits
  have hlt : (@unpackMantissa format bits).toNat < 2 ^ 52 := (@unpackMantissa format bits).isLt
  rw [UnpackedFloat.unpack]
  simp only
  split
  · split <;> trivial
  split
  · split
    · trivial
    · rename_i hzero _
      rw [hzero]
      exact ⟨by omega, by decide, .inl (by decide)⟩
  · rename_i hzero
    have hpos : (@unpackExponent format bits).toNat ≠ 0 := fun h =>
      hzero (BitVec.eq_of_toNat_eq h)
    have hmantissa : (1#1 ++ @unpackMantissa format bits).toNat =
        2 ^ 52 + (@unpackMantissa format bits).toNat := toNat_append_eq ..
    refine ⟨by omega, ?_, .inr (by omega)⟩
    change -1074 ≤ ((@unpackExponent format bits).toNat : ℤ) - (1023 + 52)
    omega

/-- A bound is kept when a double is put together. -/
theorem NotBelow.unpack_pack {q : ℚ} (hq : 0 ≤ q) {u : UnpackedFloat} (hu : InRange u)
    (h : NotBelow q u) :
    NotBelow q (UnpackedFloat.unpack format (UnpackedFloat.pack format u)) := by
  cases u with
  | notANumber =>
    rw [UnpackedFloat.pack, unpack_packedNaN]
    trivial
  | infinity s =>
    cases s with
    | negative => cases h
    | positive => rfl
  | zero s =>
    rw [UnpackedFloat.pack, unpack_packedZero]
    exact h
  | finite s m e hm =>
    obtain ⟨hlt, hle, hnormal⟩ := hu
    obtain rfl := sign_eq_positive hm (hq.trans h)
    by_cases he : e ≤ 971
    · let b : Binary := ⟨false, m, e, decide (m = 2 ^ 52 ∧ -1074 < e)⟩
      have hb : b.Canonical := ⟨hm, hlt, hle, he, hnormal, decide_eq_true_iff⟩
      rw [Binary.unpack_pack hb]
      exact h
    · have hinf : 2 ^ format.exponentBits ≤
          (e + (format.exponentBias : ℤ) + (format.mantissaBitsWithoutImplicit : ℤ)).toNat + 1 := by
        change 2 ^ 11 ≤ (e + 1023 + 52).toNat + 1
        omega
      rw [UnpackedFloat.pack]
      simp only [if_pos hinf]
      rfl

/-- For the bound zero it does not matter whether the parts are in range. -/
theorem NotBelow.zero_unpack_pack {u : UnpackedFloat} (h : NotBelow 0 u) :
    NotBelow 0 (UnpackedFloat.unpack format (UnpackedFloat.pack format u)) := by
  rcases Unsigned.of_notBelow h with hu | rfl
  · exact hu.unpack_pack.notBelow
  · rw [UnpackedFloat.pack, unpack_packedZero]
    exact h

/-! ## Comparison -/

/-- Of two numbers in range, the one with the greater exponent is greater. -/
theorem lt_of_exponent_lt {m m' : Nat} {e e' : Int} (hm : m < 2 ^ 53) (hle : -1074 ≤ e)
    (hnormal : e' = -1074 ∨ 2 ^ 52 ≤ m') (h : e < e') : (m : ℚ) * 2 ^ e < m' * 2 ^ e' := by
  have hm' : (2 : ℚ) ^ 52 ≤ m' := by exact_mod_cast hnormal.resolve_left (by omega)
  have hdouble : (2 : ℚ) * 2 ^ e ≤ 2 ^ e' := by
    rw [← zpow_one_add₀ (by norm_num)]
    exact zpow_le_zpow_right₀ (by norm_num) (by omega)
  calc (m : ℚ) * 2 ^ e < 2 ^ 53 * 2 ^ e :=
        mul_lt_mul_of_pos_right (by exact_mod_cast hm) (by positivity)
    _ = 2 ^ 52 * (2 * 2 ^ e) := by ring
    _ ≤ m' * 2 ^ e' := by gcongr

/-- Numbers in range are compared by their exponents first. -/
theorem compare_then_compare_eq_lt_iff {m m' : Nat} {e e' : Int} (hm : 0 < m) (hm' : 0 < m')
    (h : InRange (.finite .positive m e hm)) (h' : InRange (.finite .positive m' e' hm')) :
    (compare e e').then (compare m m') = .lt ↔ (m : ℚ) * 2 ^ e < m' * 2 ^ e' := by
  obtain ⟨hlt, hle, hnormal⟩ := h
  obtain ⟨hlt', hle', hnormal'⟩ := h'
  rcases lt_trichotomy e e' with he | rfl | he
  · rw [compare_lt_iff_lt.2 he]
    exact iff_of_true rfl (lt_of_exponent_lt hlt hle hnormal' he)
  · rw [compare_eq_iff_eq.2 rfl, mul_lt_mul_iff_left₀ (by positivity), Nat.cast_lt]
    exact compare_lt_iff_lt
  · rw [compare_gt_iff_gt.2 he]
    exact iff_of_false Ordering.noConfusion (lt_of_exponent_lt hlt' hle' hnormal he).not_gt

theorem float_lt_iff {x y : Float} :
    x < y ↔ UnpackedFloat.compare (parts x) (parts y) = some .lt := by
  change decide (UnpackedFloat.lt (parts x) (parts y) = true) = true ↔ _
  rw [decide_eq_true_iff, UnpackedFloat.lt, beq_iff_eq]

/-- A double is less than one that stands for a number exactly if it is below this number. -/
theorem lt_iff_not_notBelow {x y : Float} {q : ℚ} (hq : 0 ≤ q)
    (hy : value? (parts y) = some q) : x < y ↔ ¬NotBelow q (parts x) := by
  have hx := inRange_parts x
  have hy' := inRange_parts y
  rw [float_lt_iff]
  generalize parts x = u at hx ⊢
  generalize parts y = v at hy hy' ⊢
  cases v with
  | notANumber | infinity => cases hy
  | zero s' =>
    obtain rfl : 0 = q := Option.some.inj hy
    cases u with
    | notANumber => exact iff_of_false (by rintro ⟨⟩) (not_not_intro trivial)
    | infinity s =>
      cases s with
      | negative => exact iff_of_true rfl (by rintro ⟨⟩)
      | positive => exact iff_of_false (by rintro ⟨⟩) (not_not_intro rfl)
    | zero => exact iff_of_false (by rintro ⟨⟩) (not_not_intro le_rfl)
    | finite s m e hm =>
      cases s with
      | negative => exact iff_of_true rfl fun h => by cases sign_eq_positive hm h
      | positive => exact iff_of_false (by rintro ⟨⟩) (not_not_intro (Unsigned.notBelow rfl))
  | finite s' m' e' hm' =>
    obtain rfl := Option.some.inj hy
    obtain rfl := sign_eq_positive hm' hq
    cases u with
    | notANumber => exact iff_of_false (by rintro ⟨⟩) (not_not_intro trivial)
    | infinity s =>
      cases s with
      | negative => exact iff_of_true rfl (by rintro ⟨⟩)
      | positive => exact iff_of_false (by rintro ⟨⟩) (not_not_intro rfl)
    | zero =>
      refine iff_of_true rfl (not_le.2 ?_)
      simp only [Sign.apply]
      positivity
    | finite s m e hm =>
      cases s with
      | negative => exact iff_of_true rfl fun h => by cases sign_eq_positive hm (hq.trans h)
      | positive =>
        exact Option.some_inj.trans
          ((compare_then_compare_eq_lt_iff hm hm' hx hy').trans not_le.symm)

/-! ## Operations on doubles -/

section
variable {p r : ℚ} {x y : Float} {c : Nat} {k : Int}

/-- Lower bounds of doubles can be added, if the sum of the bounds is not below a double. -/
theorem notBelow_add (hx : NotBelow p (parts x)) (hy : NotBelow r (parts y)) (hc : c < 2 ^ 53)
    (hk : -1074 ≤ k) (h : c * 2 ^ k ≤ p + r) : NotBelow (c * 2 ^ k) (parts (x + y)) :=
  (hx.add hy hc hk h).unpack_pack (by positivity) ((inRange_parts x).add (inRange_parts y))

/-- A difference is bounded by the bound of the first double and that of the negated second. -/
theorem notBelow_sub (hx : NotBelow p (parts x)) (hy : NotBelow r (parts y).neg) (hc : c < 2 ^ 53)
    (hk : -1074 ≤ k) (h : c * 2 ^ k ≤ p + r) : NotBelow (c * 2 ^ k) (parts (x - y)) := by
  have hadd := (hx.add hy hc hk h).unpack_pack (by positivity)
    ((inRange_parts x).add (inRange_parts y).neg)
  rwa [← unpacked_sub_eq] at hadd

theorem notBelow_zero_mul (hx : Unsigned (parts x)) (hy : NotBelow 0 (parts y)) :
    NotBelow 0 (parts (x * y)) :=
  (NotBelow.zero_mul hx hy).zero_unpack_pack

theorem unsigned_mul (hx : Unsigned (parts x)) (hy : Unsigned (parts y)) :
    Unsigned (parts (x * y)) :=
  (hx.mul hy).unpack_pack

theorem unsigned_div (hx : Unsigned (parts x)) (hy : Unsigned (parts y)) :
    Unsigned (parts (x / y)) :=
  (hx.div hy).unpack_pack

end

/-- Natural numbers have no sign as doubles. -/
theorem unsigned_ofNat (n : Nat) : Unsigned (parts (Float.ofNat n)) := by
  have hword (w : UInt64) : Unsigned (parts w.toFloat) :=
    (Unsigned.normalize w.toNat 0).unpack_pack
  have hone : value? (parts Float.exactlyRepresentablePowersOfTen[0]) = some 1 := by
    decide +kernel
  change Unsigned (parts (Float.ofScientific n false 0))
  rw [Float.ofScientific]
  split
  · exact unsigned_mul (hword _) (.of_value? one_pos hone)
  · exact (Unsigned.ofScientific n _).unpack_pack

end GoSurvey.Decimal
