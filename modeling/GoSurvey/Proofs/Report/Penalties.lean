import GoSurvey.Proofs.Metric.Maintainability
import GoSurvey.Proofs.Report.Summary
import GoSurvey.Proofs.Survey.Measured

/-!
# What is behind a low maintainability

A summary lists a function for low maintainability if its index is less than fifty. As size,
complexity and comments alone leave fifty points, such a function repeats another one, is nested too
deeply or branches too often, provided that its index was computed from the metrics it shows
(`FunctionRecord.Finalized`). In the report of a survey this is so for all measured functions
(`finalized_of_mem_merge`).
-/

namespace GoSurvey

open Decimal

/-- The index of a function is the one of its metrics, and its comments are not fewer than none. -/
structure FunctionRecord.Finalized (f : FunctionRecord) : Prop where
  index_eq : f.metrics.maintainabilityIndex = f.metrics.maintainability.index
  not_commentDensity_lt : ¬f.metrics.readability.commentDensity < 0.0

/-- A penalty of the index applies. -/
def Metrics.IsPenalized (m : Metrics) : Prop :=
  m.isDuplicate = true ∨ 3 < m.readability.nestingDepth ∨ 0.5 < m.readability.branchDensity

/-- A function with a computed index is hard to maintain only if a penalty applies. -/
theorem FunctionRecord.Finalized.isPenalized {f : FunctionRecord} (h : f.Finalized)
    (hlow : f.metrics.maintainabilityIndex < 50.0) : f.metrics.IsPenalized := by
  have hhalf : (Maintainability.tenths 5 : Float) = 0.5 := by decide +kernel
  rw [h.index_eq] at hlow
  have hpenalty := Maintainability.penalty_of_index_lt (m := f.metrics.maintainability)
    h.not_commentDensity_lt hlow
  rwa [hhalf] at hpenalty

/-! ## Reports of surveys -/

/-- Densities are not negative, since counts are not. -/
theorem not_density_lt (count lines : Nat) : ¬density count lines < 0.0 := by
  rw [density, Maintainability.not_lt_zero_iff]
  split
  · decide +kernel
  · exact (unsigned_div (unsigned_ofNat count) (unsigned_ofNat lines)).notBelow

/-- The comments of a body are not fewer than none. -/
theorem FuncDecl.Extracted.not_commentDensity_lt {decl : FuncDecl} {f : FunctionRecord}
    (h : decl.Extracted f) : ¬f.metrics.readability.commentDensity < 0.0 := by
  rw [h.metrics_eq]
  cases decl.readableBody? with
  | none => exact not_density_lt 0 0
  | some body => exact not_density_lt _ _

/-- A measured function of a report has a computed index. -/
theorem finalized_of_mem_merge {files : List Examined} {entryPoints : List String}
    {f : FunctionRecord} (hf : f ∈ (merge (files.map (·.outcome)) entryPoints).functions)
    (hmeasured : f.metrics.isMeasured = true) : f.Finalized := by
  obtain ⟨g, hg, isDuplicate, rfl⟩ := exists_of_mem_merge_functions hf
  obtain ⟨e, -, file, -, decl, -, hextracted⟩ := Examined.exists_extractedAs hg
  have hcomments := FuncDecl.Extracted.not_commentDensity_lt ⟨_, _, hextracted⟩
  rw [FunctionRecord.settle_eq] at hmeasured ⊢
  exact ⟨if_pos hmeasured, hcomments⟩

/-! ## Hotspots -/

/-- An entry has the words for a low maintainability if its function is measured and has an index
of less than fifty. -/
theorem Hotspot.low_mem_issues {f : FunctionRecord} :
    "Low maintainability" ∈ (ofFunction f).issues ↔
      f.metrics.isMeasured = true ∧ f.metrics.maintainabilityIndex < 50.0 := by
  refine (text_mem_issues .maintainability).trans ?_
  simp [Metrics.has]

/-- A hotspot is the entry of a function of the report. -/
theorem Report.exists_mem_of_mem_hotspots {r : Report} {h : Hotspot}
    (hmem : h ∈ r.summarize.hotspots) : ∃ f ∈ r.functions, Hotspot.ofFunction f = h := by
  obtain ⟨hot, hperm, heq⟩ := r.exists_hotspots
  rw [heq] at hmem
  obtain ⟨f, hf, rfl⟩ := List.mem_map.1 hmem
  exact ⟨f, (List.mem_filter.1 (hperm.mem_iff.1 hf)).1, rfl⟩

/-- **The maintainability index is orderly.** Over the rational numbers, and for comment densities
that are not negative, the index falls with lines, complexity, nesting, branches and repetition and
rises with comments, one by one or all together. It lies between 32.4 and 104, and without a penalty
it is at least 50. On the doubles of a report whose measured functions have computed indices, a
hotspot has a low maintainability only if it is the entry of functions with a penalty. The measured
functions of every merged report have computed indices. -/
theorem Maintainability.index_orderly :
    (∀ m m' : Maintainability ℚ, m.NoHarder m' → 0 ≤ m'.commentDensity → m'.index ≤ m.index) ∧
    (∀ m : Maintainability ℚ, 0 ≤ m.commentDensity →
      (324 / 10 ≤ m.index ∧ m.index ≤ 104) ∧
      (m.isDuplicate = false → m.nestingDepth ≤ 3 → m.branchDensity ≤ 1 / 2 → 50 ≤ m.index)) ∧
    (∀ r : Report, (∀ f ∈ r.functions, f.metrics.isMeasured = true → f.Finalized) →
      ∀ h ∈ r.summarize.hotspots, "Low maintainability" ∈ h.issues →
        (∃ f ∈ r.functions, Hotspot.ofFunction f = h) ∧
        ∀ f ∈ r.functions, Hotspot.ofFunction f = h → f.metrics.IsPenalized) ∧
    ∀ (files : List Examined) (entryPoints : List String),
      ∀ f ∈ (merge (files.map (·.outcome)) entryPoints).functions,
        f.metrics.isMeasured = true → f.Finalized := by
  refine ⟨fun m m' => index_le, fun m hcomments => ⟨index_bounds hcomments, ?_⟩, ?_,
    fun files entryPoints f => finalized_of_mem_merge⟩
  · intro hduplicate hnesting hbranches
    rw [index_eq_base hduplicate hnesting hbranches]
    exact (base_bounds hcomments).1
  · intro r hfinal h hmem hlow
    refine ⟨Report.exists_mem_of_mem_hotspots hmem, ?_⟩
    rintro f hf rfl
    obtain ⟨hmeasured, hlt⟩ := Hotspot.low_mem_issues.1 hlow
    exact (hfinal f hf hmeasured).isPenalized hlt

/-- A long function that repeats another one, with the index that it gets. -/
def FunctionRecord.longCopy : FunctionRecord :=
  { (default : FunctionRecord) with
    qualifiedName := "p.copy"
    metrics :=
      { Metrics.zeroed with
        linesOfCode := 100
        cyclomaticComplexity := 50
        isDuplicate := true
        maintainabilityIndex := 40.0 } }

theorem FunctionRecord.finalized_longCopy : longCopy.Finalized :=
  ⟨by decide +kernel, by decide +kernel⟩

/-- The least index is attained, the index of a shorter function is greater, and a copied function
is a hotspot because of its penalty. -/
theorem Maintainability.index_orderly_longCopy :
    (index ⟨100, 50, 0, 4, 1, true⟩ : ℚ) = 324 / 10 ∧
      (index ⟨100, 50, 0, 4, 1, true⟩ : ℚ) ≤ index ⟨99, 50, 0, 4, 1, true⟩ ∧
      Hotspot.ofFunction .longCopy ∈ (Report.summarize { functions := [.longCopy] }).hotspots ∧
      FunctionRecord.longCopy.metrics.IsPenalized := by
  have hhot : FunctionRecord.longCopy.metrics.isHot = true := by decide +kernel
  have hmem : Hotspot.ofFunction .longCopy ∈
      (Report.summarize { functions := [.longCopy] }).hotspots := by
    simp [Report.summarize, hhot]
  refine ⟨by decide +kernel, ?_, hmem, ?_⟩
  · exact index_orderly.1 _ _ ⟨by decide, le_rfl, le_rfl, le_rfl, le_rfl, id⟩ le_rfl
  · refine (index_orderly.2.2.1 _ ?_ _ hmem ?_).2 _ (List.mem_singleton.2 rfl) rfl
    · intro f hf _
      rw [List.mem_singleton.1 hf]
      exact FunctionRecord.finalized_longCopy
    · exact Hotspot.low_mem_issues.2 ⟨rfl, by decide +kernel⟩

end GoSurvey
