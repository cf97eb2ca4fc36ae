import GoSurvey.Metric.Basic
import GoSurvey.Proofs.Decimal.Order

/-!
# The maintainability index

Over the rational numbers, the index falls with everything that makes a function harder to maintain
(`index_le`): the losses are capped, so that the base value stays positive (`base_bounds`) and no
factor can raise the index. The greatest and the least index follow from this by comparison with a
function that has no penalty, and with one that has them all (`index_bounds`).

The survey computes on doubles, where sums are rounded. A base value of less than fifty points is
impossible there, too (`not_base_lt`): fifty is a double, and rounding does not pass below a double.
-/

namespace GoSurvey.Maintainability

/-! ## Rational numbers -/

section
variable {m m' : Maintainability ℚ}

/-- Nothing that the index goes by makes the first function harder to maintain than the second. -/
structure NoHarder (m m' : Maintainability ℚ) : Prop where
  linesOfCode_le : m.linesOfCode ≤ m'.linesOfCode
  cyclomaticComplexity_le : m.cyclomaticComplexity ≤ m'.cyclomaticComplexity
  le_commentDensity : m'.commentDensity ≤ m.commentDensity
  nestingDepth_le : m.nestingDepth ≤ m'.nestingDepth
  branchDensity_le : m.branchDensity ≤ m'.branchDensity
  isDuplicate_imp : m.isDuplicate = true → m'.isDuplicate = true

/-- The base value in plain arithmetic. -/
theorem base_eq (m : Maintainability ℚ) :
    m.base = 100 - 20 * (min m.linesOfCode 100 : ℕ) / 100 -
      30 * (min m.cyclomaticComplexity 50 : ℕ) / 50 + 10 * min m.commentDensity (4 / 10) := by
  rw [base, least, ← min_def_lt]
  rfl

/-- The capped losses leave at least half of the points, and comments add few. -/
theorem base_bounds (h : 0 ≤ m.commentDensity) : 50 ≤ m.base ∧ m.base ≤ 104 := by
  have hlines : ((min m.linesOfCode 100 : ℕ) : ℚ) ≤ 100 := by
    exact_mod_cast min_le_right _ _
  have hcomplexity : ((min m.cyclomaticComplexity 50 : ℕ) : ℚ) ≤ 50 := by
    exact_mod_cast min_le_right _ _
  have hcomments : 0 ≤ min m.commentDensity (4 / 10) := le_min h (by norm_num)
  have hcap : min m.commentDensity (4 / 10) ≤ 4 / 10 := min_le_right _ _
  rw [base_eq]
  constructor
  · linarith
  · have : (0 : ℚ) ≤ (min m.linesOfCode 100 : ℕ) := Nat.cast_nonneg _
    have : (0 : ℚ) ≤ (min m.cyclomaticComplexity 50 : ℕ) := Nat.cast_nonneg _
    linarith

/-- The base value falls with what it goes by, and with no condition on the comments. -/
theorem base_le (h : m.NoHarder m') : m'.base ≤ m.base := by
  have hlines : ((min m.linesOfCode 100 : ℕ) : ℚ) ≤ (min m'.linesOfCode 100 : ℕ) := by
    exact_mod_cast min_le_min_right 100 h.linesOfCode_le
  have hcomplexity :
      ((min m.cyclomaticComplexity 50 : ℕ) : ℚ) ≤ (min m'.cyclomaticComplexity 50 : ℕ) := by
    exact_mod_cast min_le_min_right 50 h.cyclomaticComplexity_le
  have hcomments := min_le_min_right (4 / 10) h.le_commentDensity
  rw [base_eq, base_eq]
  linarith

/-- To scale down under a wider condition gives less, if the number is not negative. -/
theorem scaleIf_le_scaleIf {c c' : Bool} {factor x x' : ℚ} (hfactor : 0 ≤ factor)
    (hone : factor ≤ 1) (hc : c = true → c' = true) (hx' : 0 ≤ x') (hx : x' ≤ x) :
    scaleIf c' factor x' ≤ scaleIf c factor x := by
  cases c with
  | true =>
    rw [hc rfl]
    exact mul_le_mul_of_nonneg_right hx hfactor
  | false =>
    cases c' with
    | false => exact hx
    | true => exact (mul_le_of_le_one_right hx' hone).trans hx

theorem scaleIf_nonneg {c : Bool} {factor x : ℚ} (hfactor : 0 ≤ factor) (hx : 0 ≤ x) :
    0 ≤ scaleIf c factor x := by
  cases c with
  | true => exact mul_nonneg hx hfactor
  | false => exact hx

/-- The index falls with everything that makes a function harder to maintain. -/
theorem index_le (h : m.NoHarder m') (hcomments : 0 ≤ m'.commentDensity) :
    m'.index ≤ m.index := by
  have hbase : 0 ≤ m'.base := le_trans (by norm_num) (base_bounds hcomments).1
  have hfactor (n : ℕ) : (0 : ℚ) ≤ tenths n := by
    unfold tenths
    positivity
  have hone {n : ℕ} (hn : n ≤ 10) : (tenths n : ℚ) ≤ 1 :=
    div_le_one_of_le₀ (by exact_mod_cast hn) (by positivity)
  have hduplicate : 0 ≤ scaleIf m'.isDuplicate (tenths 8) m'.base :=
    scaleIf_nonneg (hfactor 8) hbase
  have hnesting : 0 ≤ scaleIf (3 < m'.nestingDepth) (tenths 9)
      (scaleIf m'.isDuplicate (tenths 8) m'.base) := scaleIf_nonneg (hfactor 9) hduplicate
  refine scaleIf_le_scaleIf (hfactor 9) (hone (by decide)) ?_ hnesting <|
    scaleIf_le_scaleIf (hfactor 9) (hone (by decide)) ?_ hduplicate <|
      scaleIf_le_scaleIf (hfactor 8) (hone (by decide)) h.isDuplicate_imp hbase (base_le h)
  · simp only [decide_eq_true_eq]
    exact fun hlt => hlt.trans_le h.branchDensity_le
  · simp only [decide_eq_true_eq]
    exact fun hlt => hlt.trans_le h.nestingDepth_le

/-- Without a penalty, the index is the base value. -/
theorem index_eq_base (hduplicate : m.isDuplicate = false) (hnesting : m.nestingDepth ≤ 3)
    (hbranches : m.branchDensity ≤ 1 / 2) : m.index = m.base := by
  have htenths : (tenths 5 : ℚ) = 1 / 2 := by norm_num [tenths]
  rw [index, hduplicate, htenths, decide_eq_false (not_lt.2 hbranches),
    decide_eq_false (Nat.not_lt.2 hnesting)]
  rfl

/-- With all penalties, the index is about two thirds of the base value. -/
theorem index_eq_of_penalties (hduplicate : m.isDuplicate = true) (hnesting : 3 < m.nestingDepth)
    (hbranches : 1 / 2 < m.branchDensity) : m.index = 648 / 1000 * m.base := by
  have htenths : (tenths 5 : ℚ) = 1 / 2 := by norm_num [tenths]
  rw [index, hduplicate, htenths, decide_eq_true hbranches, decide_eq_true hnesting]
  change m.base * tenths 8 * tenths 9 * tenths 9 = _
  norm_num [tenths]
  ring

/-- The index has a least and a greatest value. -/
theorem index_bounds (h : 0 ≤ m.commentDensity) : 324 / 10 ≤ m.index ∧ m.index ≤ 104 := by
  constructor
  · let worst := { m with isDuplicate := true, nestingDepth := max m.nestingDepth 4,
                          branchDensity := max m.branchDensity 1 }
    have hle : worst.index ≤ m.index :=
      index_le ⟨le_rfl, le_rfl, le_rfl, le_max_left .., le_max_left .., fun _ => rfl⟩ h
    have hindex : worst.index = 648 / 1000 * worst.base :=
      index_eq_of_penalties rfl (lt_max_of_lt_right (by decide))
        (lt_max_of_lt_right (by norm_num))
    have hbase : 50 ≤ worst.base := (base_bounds h).1
    linarith
  · let best := { m with isDuplicate := false, nestingDepth := 0,
                         branchDensity := min m.branchDensity 0 }
    have hle : m.index ≤ best.index :=
      index_le ⟨le_rfl, le_rfl, le_rfl, Nat.zero_le _, min_le_left .., Bool.noConfusion⟩ h
    have hindex : best.index = best.base :=
      index_eq_base rfl (Nat.zero_le _) ((min_le_right ..).trans (by norm_num))
    have hbase : best.base ≤ 104 := (base_bounds h).2
    exact hle.trans (hindex.trans_le hbase)

end

/-! ## Doubles -/

section
open Decimal

/-- At most twenty points are lost for size. Only a hundred and one sizes count. -/
theorem notBelow_lines : ∀ n : Nat, n ≤ 100 →
    NotBelow 80 (parts ((100 : Nat) - (20 : Nat) * (n : Float) / (100 : Nat))) := by
  decide +kernel

/-- At most thirty points are lost for complexity. -/
theorem notBelow_complexity : ∀ n : Nat, n ≤ 50 →
    NotBelow (-30) (parts ((30 : Nat) * (n : Float) / (50 : Nat))).neg := by
  decide +kernel

/-- A double that is not less than zero is not below zero. -/
theorem not_lt_zero_iff {x : Float} : ¬x < 0.0 ↔ NotBelow 0 (parts x) := by
  rw [lt_iff_not_notBelow le_rfl (by decide +kernel : value? (parts 0.0) = some 0), not_not]

/-- No points are lost for comments. -/
theorem notBelow_comments {x : Float} (h : ¬x < 0.0) :
    NotBelow 0 (parts ((10 : Nat) * least x (tenths 4))) := by
  refine notBelow_zero_mul (unsigned_ofNat 10) ?_
  rw [least]
  split
  · exact not_lt_zero_iff.1 h
  · exact (unsigned_div (unsigned_ofNat 4) (unsigned_ofNat 10)).notBelow

/-- On doubles, too, half of the points are left. -/
theorem not_base_lt {m : Maintainability Float} (h : ¬m.commentDensity < 0.0) :
    ¬m.base < 50.0 := by
  have hlines := notBelow_lines _ (min_le_right m.linesOfCode 100)
  have hcomplexity := notBelow_complexity _ (min_le_right m.cyclomaticComplexity 50)
  have hlosses := notBelow_sub (c := 50) (k := 0) hlines hcomplexity (by decide) (by decide)
    (by norm_num)
  have hbase := notBelow_add (c := 50) (k := 0) hlosses (notBelow_comments h) (by decide)
    (by decide) (by norm_num)
  have hfifty : ((50 : ℕ) : ℚ) * 2 ^ (0 : ℤ) = 50 := by norm_num
  rw [hfifty] at hbase
  rwa [lt_iff_not_notBelow (by norm_num) (by decide +kernel : value? (parts 50.0) = some 50),
    not_not]

/-- An index of less than fifty points has a penalty behind it. -/
theorem penalty_of_index_lt {m : Maintainability Float} (h : ¬m.commentDensity < 0.0)
    (hlt : m.index < 50.0) :
    m.isDuplicate = true ∨ 3 < m.nestingDepth ∨ tenths 5 < m.branchDensity := by
  by_contra hnone
  simp only [not_or, Bool.not_eq_true] at hnone
  obtain ⟨hduplicate, hnesting, hbranches⟩ := hnone
  rw [index, hduplicate, decide_eq_false hnesting, decide_eq_false hbranches] at hlt
  exact not_base_lt h hlt

end

end GoSurvey.Maintainability
