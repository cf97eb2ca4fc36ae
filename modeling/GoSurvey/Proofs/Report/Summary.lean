import GoSurvey.Proofs.Report.Sorting
import GoSurvey.Report.Summary

/-!
# What a summary counts and lists

The levels of a distribution and the issues of a hotspot have limits of their own. They fit
together: a function is of the highest level exactly if its complexity is an issue
(`Level.of_eq_high_iff`), and such a function is always a hotspot. As hotspots are sorted by
complexity first, those with this issue come before all others, and there are as many of them as
functions of the highest level (`Report.summarize_consistent`).
-/

namespace GoSurvey

/-- In a list where a property passes to earlier elements, it holds of the first ones, as many as
have it. -/
theorem getElem_iff_lt_countP {α : Type} {p : α → Bool} {l : List α}
    (h : l.Pairwise fun a b => p b = true → p a = true) {i : Nat} (hi : i < l.length) :
    p l[i] = true ↔ i < l.countP p := by
  induction l generalizing i with
  | nil => cases hi
  | cons a l ih =>
    obtain ⟨ha, hl⟩ := List.pairwise_cons.1 h
    cases hp : p a with
    | true =>
      rw [List.countP_cons_of_pos hp]
      cases i with
      | zero => simp [hp]
      | succ i => simpa using ih hl (Nat.lt_of_succ_lt_succ hi)
    | false =>
      -- If the first element does not have the property, no other has.
      have hnone : ∀ b ∈ a :: l, p b = false := by
        refine List.forall_mem_cons.2 ⟨hp, fun b hb => ?_⟩
        exact Bool.eq_false_iff.2 fun hpb => by simp [ha b hb hpb] at hp
      have hcount : (a :: l).countP p = 0 := List.countP_eq_zero.2 fun b hb => by simp [hnone b hb]
      simp [hcount, hnone _ (List.getElem_mem hi)]

/-! ## Levels and issues -/

/-- The highest level starts where the complexity is an issue. -/
theorem Level.of_eq_high_iff {complexity : Nat} :
    Level.of complexity = .high ↔ 10 < complexity := by
  unfold Level.of Level.lowLimit Level.mediumLimit
  split
  · simp
    omega
  · split
    · simp
      omega
    · simp
      omega

/-- Every complexity has exactly one level. -/
theorem Distribution.low_add_medium_add_high (complexities : List Nat) :
    (Distribution.of complexities).low + (Distribution.of complexities).medium +
      (Distribution.of complexities).high = complexities.length := by
  induction complexities with
  | nil => rfl
  | cons complexity complexities ih =>
    simp only [Distribution.of, List.countP_cons, List.length_cons] at ih ⊢
    cases Level.of complexity <;> simp <;> omega

theorem Issue.text_injective : Function.Injective Issue.text := by
  intro a b
  cases a <;> cases b <;> decide

namespace Hotspot

/-- An entry has the words for an issue if the issue applies. -/
theorem text_mem_issues {f : FunctionRecord} (issue : Issue) :
    issue.text ∈ (ofFunction f).issues ↔ f.metrics.has issue = true := by
  rw [ofFunction, List.mem_map_of_injective Issue.text_injective, Metrics.issues, List.mem_filter]
  cases issue <;> simp

/-- Texts are compared by their order. -/
theorem isLE_compare_iff {a b : String} : (compare a b).isLE = true ↔ a ≤ b := by
  change (compareOfLessAndEq a b).isLE = true ↔ a ≤ b
  unfold compareOfLessAndEq
  split
  next hlt => simpa using String.not_lt.1 (String.lt_asymm hlt)
  next hlt =>
    split
    next heq => simp [heq]
    next hne =>
      have hle : ¬ a ≤ b := fun hle => hne (String.le_antisymm hle (String.not_lt.1 hlt))
      simpa using hle

/-- Entries are in order if the first is more complex, or as complex and not later by name. -/
theorem order_isLE_iff {a b : Hotspot} :
    (a.order b).isLE = true ↔
      b.complexity < a.complexity ∨ a.complexity = b.complexity ∧ a.name ≤ b.name := by
  rw [order, Ordering.isLE_then_iff_or, Nat.compare_eq_lt, Nat.compare_eq_eq, isLE_compare_iff,
    eq_comm]

instance : Std.TransCmp order := by
  have : Std.TransCmp fun a b : Hotspot => compareOn complexity b a := Std.TransCmp.opposite
  exact inferInstanceAs (Std.TransCmp
    (compareLex (fun a b => compareOn complexity b a) (compareOn name)))

end Hotspot

namespace Report

/-- The functions of a report that are hotspots, in the order in which they are listed. -/
theorem exists_hotspots (r : Report) :
    ∃ hot : List FunctionRecord, hot.Perm (r.functions.filter (·.metrics.isHot)) ∧
      r.summarize.hotspots = hot.map Hotspot.ofFunction := by
  let hot := r.functions.filter (·.metrics.isHot)
  let sorted := hot.mergeSort fun f g =>
    ((Hotspot.ofFunction f).order (Hotspot.ofFunction g)).isLE
  have hsorted : sorted.map Hotspot.ofFunction =
      (hot.map Hotspot.ofFunction).mergeSort fun a b => (a.order b).isLE :=
    List.map_mergeSort fun _ _ _ _ => rfl
  exact ⟨sorted, List.mergeSort_perm _ _, hsorted.symm⟩

theorem isHot_iff {m : Metrics} :
    m.isHot = true ↔ 10 < m.cyclomaticComplexity ∨ 4 < m.readability.nestingDepth ∨
      m.isMeasured = true ∧ m.maintainabilityIndex < 50.0 := by
  simp [Metrics.isHot, Metrics.has, or_assoc]

/-- As many hotspots as functions of the highest level have the issue of complexity, because each of
these functions is a hotspot. -/
theorem countP_hotspots (r : Report) :
    r.summarize.hotspots.countP (10 < ·.complexity) = r.summarize.distribution.high := by
  obtain ⟨hot, hperm, heq⟩ := r.exists_hotspots
  have hhigh : r.summarize.distribution.high =
      r.functions.countP (10 < ·.metrics.cyclomaticComplexity) := by
    simp only [summarize, Distribution.of, List.countP_map, Level.of_eq_high_iff, Function.comp_def]
  rw [heq, List.countP_map, hperm.countP_eq, List.countP_filter, hhigh]
  refine List.countP_congr fun f _ => ?_
  rw [Function.comp_apply, Bool.and_eq_true]
  exact and_iff_left_of_imp fun hlt => isHot_iff.2 (.inl (of_decide_eq_true hlt))

/-- A hotspot is the entry of a function whose issues are grave enough. -/
theorem exists_of_mem_hotspots {r : Report} {h : Hotspot} (hmem : h ∈ r.summarize.hotspots) :
    ∃ f : FunctionRecord, f.metrics.isHot = true ∧ Hotspot.ofFunction f = h := by
  obtain ⟨hot, hperm, heq⟩ := r.exists_hotspots
  rw [heq] at hmem
  obtain ⟨f, hf, rfl⟩ := List.mem_map.1 hmem
  exact ⟨f, (List.mem_filter.1 (hperm.mem_iff.1 hf)).2, rfl⟩

/-- A hotspot has an issue that is grave enough. -/
theorem exists_issue {f : FunctionRecord} (hhot : f.metrics.isHot = true) :
    ∃ issue ∈ (Hotspot.ofFunction f).issues, issue ≠ Issue.cognitive.text := by
  obtain ⟨issue, hissue, hne⟩ : ∃ issue, f.metrics.has issue = true ∧ issue ≠ .cognitive := by
    simp only [Metrics.isHot, Bool.or_eq_true] at hhot
    obtain (hcomplexity | hnesting) | hmaintainability := hhot
    · exact ⟨.complexity, hcomplexity, by decide⟩
    · exact ⟨.nesting, hnesting, by decide⟩
    · exact ⟨.maintainability, hmaintainability, by decide⟩
  exact ⟨issue.text, (Hotspot.text_mem_issues issue).2 hissue, Issue.text_injective.ne hne⟩

/-- **Counts and hotspots of a summary fit together.** Every function has one level, and the unused
ones are those that the report lists. The hotspots are, one to one, the functions that are too
complex, too deeply nested, or measured and hard to maintain, with the most complex first and
equally complex ones by name. Each has an issue other than a high cognitive complexity. Those with a
high cyclomatic complexity are the first, as many as there are functions of the highest level. -/
theorem summarize_consistent (r : Report) :
    let s := r.summarize
    s.distribution.low + s.distribution.medium + s.distribution.high = s.totalFunctions ∧
      s.totalFunctions = r.functions.length ∧
      s.unusedFunctions = r.unusedFunctions.length ∧
      (∃ hot : List FunctionRecord, s.hotspots = hot.map Hotspot.ofFunction ∧
        hot.Perm (r.functions.filter fun f =>
          10 < f.metrics.cyclomaticComplexity ∨ 4 < f.metrics.readability.nestingDepth ∨
            f.metrics.isMeasured ∧ f.metrics.maintainabilityIndex < 50.0)) ∧
      (s.hotspots.Pairwise fun a b =>
        b.complexity < a.complexity ∨ a.complexity = b.complexity ∧ a.name ≤ b.name) ∧
      (∀ h ∈ s.hotspots, ∃ issue ∈ h.issues, issue ≠ "High cognitive complexity") ∧
      s.distribution.high ≤ s.hotspots.length ∧
      ∀ (i : Nat) (hi : i < s.hotspots.length),
        "High cyclomatic complexity" ∈ s.hotspots[i].issues ↔ i < s.distribution.high := by
  intro s
  obtain ⟨hot, hperm, heq⟩ := r.exists_hotspots
  have hpairwise : s.hotspots.Pairwise fun a b =>
      b.complexity < a.complexity ∨ a.complexity = b.complexity ∧ a.name ≤ b.name :=
    (pairwise_mergeSort_isLE _).imp Hotspot.order_isLE_iff.1
  refine ⟨?levels, rfl, ?unused, ⟨hot, heq, ?hot⟩, hpairwise, ?issues, ?high, ?first⟩
  case levels =>
    let complexities := (r.functions.map (·.metrics)).map (·.cyclomaticComplexity)
    calc s.distribution.low + s.distribution.medium + s.distribution.high
      _ = complexities.length := Distribution.low_add_medium_add_high complexities
      _ = s.totalFunctions := by rw [List.length_map, List.length_map]; rfl
  case unused =>
    rw [unusedFunctions, List.length_map, ← List.countP_eq_length_filter]
    exact List.countP_map
  case hot =>
    refine hperm.trans (List.Perm.of_eq (List.filter_congr fun f _ => ?_))
    rw [Bool.eq_iff_iff, isHot_iff, decide_eq_true_iff]
  case issues =>
    intro h hmem
    obtain ⟨f, hhot, rfl⟩ := exists_of_mem_hotspots hmem
    exact exists_issue hhot
  case high => exact r.countP_hotspots ▸ List.countP_le_length
  case first =>
    intro i hi
    obtain ⟨f, _, hf⟩ := exists_of_mem_hotspots (List.getElem_mem hi)
    have hcarries : "High cyclomatic complexity" ∈ s.hotspots[i].issues ↔
        decide (10 < s.hotspots[i].complexity) = true := by
      rw [← hf]
      exact Hotspot.text_mem_issues .complexity
    rw [hcarries, getElem_iff_lt_countP (p := (10 < ·.complexity)) ?_ hi, r.countP_hotspots]
    exact hpairwise.imp fun hab hb => by simp at hb ⊢; omega

/-- A complex function and a deeply nested one: only the first is of the highest level. -/
theorem summarize_consistent_two :
    let f : FunctionRecord := { (default : FunctionRecord) with
      qualifiedName := "p.f", metrics := { Metrics.zeroed with cyclomaticComplexity := 11 } }
    let g : FunctionRecord := { (default : FunctionRecord) with
      qualifiedName := "p.g", metrics := { Metrics.zeroed with readability := ⟨5, 0.0, 0.0⟩ } }
    let s := ({ functions := [f, g] } : Report).summarize
    s.hotspots = [Hotspot.ofFunction f, Hotspot.ofFunction g] ∧ s.distribution.high = 1 ∧
      (∃ issue ∈ (Hotspot.ofFunction g).issues, issue ≠ "High cognitive complexity") ∧
      "High cyclomatic complexity" ∈ (Hotspot.ofFunction f).issues ∧
      "High cyclomatic complexity" ∉ (Hotspot.ofFunction g).issues := by
  intro f g s
  have hhotspots : s.hotspots = [Hotspot.ofFunction f, Hotspot.ofFunction g] :=
    List.mergeSort_of_pairwise (List.pairwise_pair.2 (by decide))
  have hhigh : s.distribution.high = 1 := by decide
  obtain ⟨-, -, -, -, -, hissues, -, hfirst⟩ := summarize_consistent { functions := [f, g] }
  change ∀ h ∈ s.hotspots, _ at hissues
  change ∀ (i : Nat) (hi : i < s.hotspots.length),
    "High cyclomatic complexity" ∈ s.hotspots[i].issues ↔ i < s.distribution.high at hfirst
  simp only [hhotspots, hhigh] at hissues hfirst
  exact ⟨hhotspots, hhigh, hissues _ (by simp), (hfirst 0 (by decide)).2 (by decide),
    fun hmem => absurd ((hfirst 1 (by decide)).1 hmem) (by decide)⟩

end Report

end GoSurvey
