import GoSurvey.Proofs.Fingerprint.Detector
import GoSurvey.Survey.Merge

/-!
# Settling functions

Functions are settled one after the other, each by what the detector has seen before it
(`settleAll_cons`). Settling changes the flags for repetition and what follows from them, and
nothing else (`map_settleAll`). It sees of the earlier functions only the set of their fingerprints
(`settleAll_congr`), so groups of functions without common fingerprints can be settled apart
(`settleAll_flatMap`). Each function with a fingerprint is either flagged or brings a new
fingerprint, so that the number of flagged functions does not depend on their order
(`countP_settleAll_perm`).
-/

namespace GoSurvey

namespace FunctionRecord

/-- A function without the flags for repetition and the index that depends on them. -/
def withoutRepetition (f : FunctionRecord) : FunctionRecord :=
  { f with
    isDuplicate := false
    metrics.isDuplicate := false
    metrics.maintainabilityIndex := 0.0 }

variable (isDuplicate : Bool) (f : FunctionRecord)

/-- All that settling changes. -/
theorem settle_eq :
    f.settle isDuplicate =
      { f with
        isDuplicate
        cyclomaticComplexity := f.metrics.cyclomaticComplexity
        linesOfCode := f.metrics.linesOfCode
        metrics.isDuplicate := isDuplicate
        metrics.maintainabilityIndex :=
          if f.metrics.isMeasured then
            ({ f.metrics with isDuplicate } : Metrics).maintainability.index
          else f.metrics.maintainabilityIndex } := by
  have hmeasured : ({ f with metrics.isDuplicate := isDuplicate } :
      FunctionRecord).syncMetrics.metrics.isMeasured = f.metrics.isMeasured := rfl
  rw [settle, hmeasured]
  cases f.metrics.isMeasured <;> rfl

/-- The flag of a settled function. -/
theorem settle_isDuplicate : (f.settle isDuplicate).isDuplicate = isDuplicate := by
  rw [settle_eq]

/-- The flag among the metrics of a settled function. -/
theorem settle_metrics_isDuplicate : (f.settle isDuplicate).metrics.isDuplicate = isDuplicate := by
  rw [settle_eq]

/-- Settling in one way or the other makes no difference beyond repetition. -/
theorem settle_withoutRepetition :
    (f.settle isDuplicate).withoutRepetition = (f.settle false).withoutRepetition := by
  rw [settle_eq, settle_eq]
  rfl

end FunctionRecord

/-- The fingerprints of functions, in order. -/
def fingerprints (fs : List FunctionRecord) : List String :=
  fs.filterMap (·.fingerprint)

/-- By what a function is settled: whether its fingerprint has been seen, or else its own flag. -/
def isRepeated (d : Detector) (f : FunctionRecord) : Bool :=
  match f.fingerprint with
  | none => f.metrics.isDuplicate
  | some text => (d.check text).1

section
variable {d d' : Detector} {f : FunctionRecord} {fs gs : List FunctionRecord}

/-- The fingerprint of the first function comes first. -/
theorem fingerprints_cons (f : FunctionRecord) (fs : List FunctionRecord) :
    fingerprints (f :: fs) = f.fingerprint.toList ++ fingerprints fs := by
  cases hf : f.fingerprint <;> simp [fingerprints, hf]

/-- One function is settled, and the detector has seen its fingerprint. -/
theorem settleAll_cons (d : Detector) (f : FunctionRecord) (fs : List FunctionRecord) :
    settleAll d (f :: fs) =
      f.settle (isRepeated d f) :: settleAll (d.feed f.fingerprint.toList) fs := by
  rw [settleAll]
  cases hf : f.fingerprint <;> simp [isRepeated, hf, Detector.feed]

/-- Feeding texts in two parts. -/
theorem Detector.feed_append (d : Detector) (texts more : List String) :
    d.feed (texts ++ more) = (d.feed texts).feed more :=
  List.foldl_append

/-- Later functions are settled by a detector that has seen the earlier ones. -/
theorem settleAll_append (d : Detector) (fs gs : List FunctionRecord) :
    settleAll d (fs ++ gs) = settleAll d fs ++ settleAll (d.feed (fingerprints fs)) gs := by
  induction fs generalizing d with
  | nil => rfl
  | cons f fs ih =>
    rw [List.cons_append, settleAll_cons, settleAll_cons, ih, fingerprints_cons,
      Detector.feed_append, List.cons_append]

/-- Each function is settled by a detector that has seen the functions before it. -/
theorem settleAll_eq_mapIdx (d : Detector) (fs : List FunctionRecord) :
    settleAll d fs =
      fs.mapIdx fun i f => f.settle (isRepeated (d.feed (fingerprints (fs.take i))) f) := by
  induction fs generalizing d with
  | nil => rfl
  | cons f fs ih =>
    rw [settleAll_cons, ih, List.mapIdx_cons]
    simp only [List.take_zero, List.take_succ_cons, fingerprints_cons, Detector.feed_append]
    rfl

/-- What does not depend on the flag is the same for functions that are settled in order. -/
theorem map_settleAll {β : Type} {view view' : FunctionRecord → β}
    (h : ∀ b f, view (f.settle b) = view' f) (d : Detector) (fs : List FunctionRecord) :
    (settleAll d fs).map view = fs.map view' := by
  induction fs generalizing d with
  | nil => rfl
  | cons f fs ih => rw [settleAll_cons, List.map_cons, List.map_cons, h, ih]

/-! ## Dependence on earlier functions -/

/-- A function is settled by whether its fingerprint is in the detector's set. -/
theorem isRepeated_congr {texts texts' : Finset String} (hd : d.Holds texts) (hd' : d'.Holds texts')
    (h : ∀ t ∈ f.fingerprint, t ∈ texts ↔ t ∈ texts') : isRepeated d f = isRepeated d' f := by
  cases hf : f.fingerprint with
  | none => simp only [isRepeated, hf]
  | some t =>
    simp only [isRepeated, hf]
    rw [hd.check_fst, hd'.check_fst, decide_eq_decide]
    exact h t hf

/-- Detectors whose sets agree on the fingerprints of some functions settle them alike. -/
theorem settleAll_congr {texts texts' : Finset String} (hd : d.Holds texts) (hd' : d'.Holds texts')
    (h : ∀ t ∈ fingerprints fs, t ∈ texts ↔ t ∈ texts') : settleAll d fs = settleAll d' fs := by
  induction fs generalizing d d' texts texts' with
  | nil => rfl
  | cons f fs ih =>
    rw [fingerprints_cons] at h
    rw [settleAll_cons, settleAll_cons, isRepeated_congr hd hd' fun t ht => ?_,
      ih (hd.feed _) (hd'.feed _) fun t ht => ?_]
    · rw [Finset.mem_union, Finset.mem_union, h t (List.mem_append_right _ ht)]
    · exact h t (List.mem_append_left _ (Option.mem_toList.2 ht))

/-- Groups of functions without common fingerprints are settled apart. -/
theorem settleAll_flatMap {α : Type} (g : α → List FunctionRecord) {l : List α}
    (h : l.Pairwise fun a b => (fingerprints (g a)).Disjoint (fingerprints (g b)))
    {texts : Finset String} (hd : d.Holds texts)
    (hnew : ∀ a ∈ l, ∀ t ∈ fingerprints (g a), t ∉ texts) :
    settleAll d (l.flatMap g) = l.flatMap fun a => settleAll .empty (g a) := by
  induction l generalizing d texts with
  | nil => rfl
  | cons a l ih =>
    obtain ⟨hhead, htail⟩ := List.pairwise_cons.1 h
    rw [List.flatMap_cons, List.flatMap_cons, settleAll_append,
      ih htail (hd.feed _) fun b hb t ht => ?_,
      settleAll_congr hd Detector.holds_empty fun t ht => ?_]
    · simp [hnew a List.mem_cons_self t ht]
    · rw [Finset.mem_union, List.mem_toFinset, not_or]
      exact ⟨hnew b (List.mem_cons_of_mem a hb) t ht, fun hmem => hhead b hb hmem ht⟩

/-! ## The number of repetitions -/

section
variable {flag : FunctionRecord → Bool}
  (hflag : ∀ b (f : FunctionRecord), flag (f.settle b) = b)
include hflag

/-- Every function with a fingerprint is flagged, or else its fingerprint is new. -/
theorem countP_settleAll {texts : Finset String} (hd : d.Holds texts) (fs : List FunctionRecord) :
    (settleAll d fs).countP flag + (d.feed (fingerprints fs)).size =
      d.size + (fingerprints fs).length +
        fs.countP fun f => f.fingerprint.isNone && f.metrics.isDuplicate := by
  induction fs generalizing d texts with
  | nil => simp [settleAll, fingerprints, Detector.feed]
  | cons f fs ih =>
    rw [settleAll_cons, List.countP_cons, List.countP_cons, fingerprints_cons, Detector.feed_append,
      List.length_append, hflag]
    have hrest := ih (hd.feed f.fingerprint.toList)
    cases hf : f.fingerprint with
    | none =>
      simp only [hf, isRepeated, Option.toList_none, Detector.feed, List.foldl_nil, List.length_nil,
        Option.isNone_none, Bool.true_and] at hrest ⊢
      omega
    | some t =>
      -- Either the text is flagged or the detector grows, and both count for it.
      have hsize := hd.size_check t
      simp only [hf, isRepeated, Option.toList_some, Detector.feed, List.foldl_cons, List.foldl_nil,
        List.length_singleton, Option.isNone_some, Bool.false_and] at hrest ⊢
      cases hc : (d.check t).1 <;> simp [hc] at hsize ⊢ <;> omega

/-- The number of flagged functions does not depend on their order. -/
theorem countP_settleAll_perm (h : fs.Perm gs) :
    (settleAll .empty fs).countP flag = (settleAll .empty gs).countP flag := by
  have htexts : (fingerprints fs).Perm (fingerprints gs) := h.filterMap _
  have hfs := countP_settleAll hflag Detector.holds_empty fs
  have hgs := countP_settleAll hflag Detector.holds_empty gs
  rw [Detector.size_feed_perm htexts, htexts.length_eq, h.countP_eq, ← hgs] at hfs
  exact Nat.add_right_cancel hfs

end

end

end GoSurvey
