import GoSurvey.Proofs.Fingerprint.Readable
import GoSurvey.Proofs.Survey.Files
import GoSurvey.Proofs.Survey.Merge
import GoSurvey.Proofs.Survey.Outcomes

/-!
# Repeated functions

A survey flags a function as repeated if a function with the same canonical text comes before it: in
a file whose path comes before, component by component, or earlier in the same file. `Site` is a
function with its place, and `Site.Before` is that order, in which a survey settles functions
(`Site.forall₂_settleAll`). The report itself is sorted in another order.
-/

namespace GoSurvey

/-! ## Texts one after the other -/

namespace Detector

/-- What a new detector has seen after some texts. -/
theorem holds_feed_empty (texts : List String) : (empty.feed texts).Holds texts.toFinset := by
  simpa using holds_empty.feed texts

/-- The answer for each text of a list is whether it is among the texts before it. -/
theorem check_feed_take (texts : List String) {i : Nat} (hi : i < texts.length) :
    ((empty.feed (texts.take i)).check texts[i]).1 = decide (texts[i] ∈ texts.take i) := by
  rw [(holds_feed_empty _).check_fst]
  simp

end Detector

/-! ## Functions and their places -/

/-- A function of a file, and how many functions of the file come before it. -/
structure Site where
  file : Listed
  position : Nat
  decl : FuncDecl

/-- The functions of a file. -/
def Listed.sites (root : String) (l : Listed) : List Site :=
  (l.source.toSourceFile (l.path root)).functions.mapIdx fun i decl => ⟨l, i, decl⟩

/-- The functions of all files that a survey takes. -/
def Config.sites (c : Config) (patterns : List Glob) (root : String) (t : FileTree) : List Site :=
  ((t.collect ⟨c.includeTestFiles, patterns⟩ root).filter c.takes).flatMap (·.sites root)

namespace Site

/-- One function comes before another, in an earlier file or in the same file. -/
def Before (s s' : Site) : Prop :=
  s.file.Before s'.file ∨ s.file = s'.file ∧ s.position < s'.position

/-- A function has a text that a function before it has too. -/
def Repeats (sites : List Site) (s : Site) : Prop :=
  ∃ text, s.decl.canonicalText? = some text ∧
    ∃ s' ∈ sites, s'.Before s ∧ s'.decl.canonicalText? = some text

/-- Of two functions at most one comes before the other. -/
theorem Before.asymm {s s' : Site} (h : s.Before s') : ¬ s'.Before s := by
  have hfile : ∀ {l l' : Listed}, l.Before l' → ¬ l'.Before l := fun {l l'} h h' => by
    rw [Listed.Before, Std.OrientedCmp.gt_of_lt h] at h'
    cases h'
  have hself : ∀ l : Listed, ¬ l.Before l := fun l h => hfile h h
  rintro (h' | ⟨heq', h'⟩) <;> obtain h | ⟨heq, h⟩ := h
  · exact hfile h h'
  · exact hself _ (heq ▸ h')
  · exact hself _ (heq' ▸ h)
  · exact Nat.lt_asymm h h'

end Site

/-- The functions of a file come one after the other. -/
theorem Listed.pairwise_sites (root : String) (l : Listed) :
    (l.sites root).Pairwise Site.Before := by
  refine List.pairwise_iff_getElem.2 fun i j hi hj hij => .inr ?_
  simpa [sites] using hij

/-- The functions of a survey come one after the other. -/
theorem FileTree.WellNamed.pairwise_sites {t : FileTree} (ht : t.WellNamed) (c : Config)
    (patterns : List Glob) (root : String) : (c.sites patterns root t).Pairwise Site.Before := by
  refine List.pairwise_flatMap.2 ⟨fun l _ => l.pairwise_sites root, ?_⟩
  refine ((ht.pairwise_collect _ root).filter _).imp fun {l l'} h s hs s' hs' => .inl ?_
  obtain ⟨i, hi, rfl⟩ := List.mem_mapIdx.1 hs
  obtain ⟨i', hi', rfl⟩ := List.mem_mapIdx.1 hs'
  exact h

/-! ## Settling in order -/

/-- A function as it is recorded before it is settled. -/
def Site.RecordedAs (root : String) (s : Site) (f : FunctionRecord) : Prop :=
  s.decl.RecordedAs (s.file.reported root) f ∧ f.metrics.isDuplicate = false

/-- The functions of a file are recorded one after the other. -/
theorem Listed.forall₂_sites (root : String) (l : Listed) :
    List.Forall₂ (Site.RecordedAs root) (l.sites root) (l.facts root).functions := by
  have hfunctions : List.Forall₂ _ _ (l.facts root).functions :=
    FileFacts.forall₂_functions l.source (l.path root) (l.reported root) _
  obtain ⟨hlength, hget⟩ := List.forall₂_iff_get.1 hfunctions
  refine List.forall₂_iff_get.2 ⟨by simpa [sites] using hlength, fun i hi hi' => ?_⟩
  simpa [sites, Site.RecordedAs] using hget i (by simpa [sites] using hi) hi'

/-- The functions of all files are recorded one after the other. -/
theorem Config.forall₂_sites (c : Config) (patterns : List Glob) (root : String) (t : FileTree) :
    List.Forall₂ (Site.RecordedAs root) (c.sites patterns root t)
      (((t.collect ⟨c.includeTestFiles, patterns⟩ root).map (c.outcome root)).flatMap
        (·.functions)) := by
  unfold sites
  induction t.collect ⟨c.includeTestFiles, patterns⟩ root with
  | nil => exact .nil
  | cons l ls ih =>
    rw [List.map_cons, List.flatMap_cons]
    cases htakes : c.takes l with
    | false =>
      rw [List.filter_cons_of_neg (by simp [htakes])]
      simpa [Outcome.functions, Outcome.collect, outcome, htakes] using ih
    | true =>
      rw [List.filter_cons_of_pos htakes, List.flatMap_cons]
      refine List.rel_append ?_ ih
      simpa [Outcome.functions, Outcome.collect, outcome, htakes] using l.forall₂_sites root

/-- A function is settled by whether the detector has seen its fingerprint. -/
theorem isRepeated_iff {d : Detector} {texts : Finset String} (hd : d.Holds texts)
    {f : FunctionRecord} (hflag : f.metrics.isDuplicate = false) :
    isRepeated d f = true ↔ ∃ text ∈ texts, f.fingerprint = some text := by
  cases hf : f.fingerprint with
  | none => simp [isRepeated, hf, hflag]
  | some text => simp [isRepeated, hf, hd.check_fst]

namespace Site
variable {s s' : Site} {sites : List Site}

/-- The first function repeats nothing. -/
theorem not_repeats_first (h : ∀ s' ∈ sites, s.Before s') : ¬ s.Repeats (s :: sites) := by
  rintro ⟨text, -, s', hs', hbefore, -⟩
  rcases List.mem_cons.1 hs' with rfl | hs'
  · exact hbefore.asymm hbefore
  · exact (h s' hs').asymm hbefore

/-- A later function repeats the first one or another. -/
theorem repeats_cons_iff (h : s.Before s') :
    s'.Repeats (s :: sites) ↔ s'.Repeats sites ∨
      ∃ text, s.decl.canonicalText? = some text ∧ s'.decl.canonicalText? = some text := by
  constructor
  · rintro ⟨text, htext, r, hr, hbefore, htext'⟩
    rcases List.mem_cons.1 hr with rfl | hr
    · exact .inr ⟨text, htext', htext⟩
    · exact .inl ⟨text, htext, r, hr, hbefore, htext'⟩
  · rintro (⟨text, htext, r, hr, hbefore, htext'⟩ | ⟨text, htext', htext⟩)
    · exact ⟨text, htext, r, List.mem_cons_of_mem s hr, hbefore, htext'⟩
    · exact ⟨text, htext, s, List.mem_cons_self, h, htext'⟩

/-- Functions in order are settled by whether a function before them has the same text, or the
detector has seen it. -/
theorem forall₂_settleAll {root : String} {fs : List FunctionRecord}
    (hfs : List.Forall₂ (RecordedAs root) sites fs) (horder : sites.Pairwise Before) {d : Detector}
    {texts : Finset String} (hd : d.Holds texts) :
    List.Forall₂ (fun s g => ∃ f isDuplicate, s.RecordedAs root f ∧ g = f.settle isDuplicate ∧
      (isDuplicate = true ↔ s.Repeats sites ∨ ∃ text ∈ texts, s.decl.canonicalText? = some text))
      sites (settleAll d fs) := by
  induction hfs generalizing d texts with
  | nil => exact .nil
  | @cons s f sites fs hf hfs ih =>
    obtain ⟨hfirst, horder⟩ := List.pairwise_cons.1 horder
    have htext := hf.1.fingerprint_eq
    rw [settleAll_cons]
    refine .cons ⟨f, _, hf, rfl, ?_⟩ ?_
    · rw [or_iff_right (not_repeats_first hfirst), ← htext]
      exact isRepeated_iff hd hf.2
    · -- For the others the detector has seen the text of the first function too.
      have hrest := (List.forall₂_and_left _ _).2 ⟨hfirst, ih horder (hd.feed f.fingerprint.toList)⟩
      refine hrest.imp fun s' g ⟨hbefore, f', isDuplicate, hf', hg, hiff⟩ =>
        ⟨f', isDuplicate, hf', hg, hiff.trans ?_⟩
      simp only [repeats_cons_iff hbefore, ← htext, Finset.mem_union, List.mem_toFinset,
        Option.mem_toList, or_and_right, exists_or, or_assoc]
      exact or_congr_right or_comm

end Site

/-! ## Flags in a report -/

/-- Settling and marking keep what a record says of a function. -/
theorem FuncDecl.RecordedAs.settle_marked {file : String} {decl : FuncDecl} {f : FunctionRecord}
    (h : decl.RecordedAs file f) (isDuplicate : Bool) (functions : List FunctionRecord)
    (entryPoints : List String) :
    decl.RecordedAs file ((f.settle isDuplicate).marked functions entryPoints) := by
  rw [FunctionRecord.settle_eq]
  exact ⟨h.file_eq, h.name_eq, h.line_eq, h.fingerprint_eq⟩

section
variable (outcomes : List Outcome) (entryPoints : List String)

/-- The functions of a report in the order in which they are settled. -/
noncomputable def settledFunctions : List FunctionRecord :=
  (settleAll .empty (outcomes.flatMap (·.functions))).map
    (FunctionRecord.marked (outcomes.flatMap (·.functions)) entryPoints)

/-- A report holds the settled functions. -/
theorem merge_functions_perm_settledFunctions :
    (merge outcomes entryPoints).functions.Perm (settledFunctions outcomes entryPoints) := by
  rw [merge_functions]
  exact sortByKeys_perm _

/-- Functions keep their fingerprints. -/
theorem fingerprints_settledFunctions :
    fingerprints (settledFunctions outcomes entryPoints) =
      fingerprints (outcomes.flatMap (·.functions)) := by
  have hmap : ∀ fs, fingerprints fs = (fs.map (·.fingerprint)).filterMap id := fun fs => by
    rw [List.filterMap_map]
    rfl
  rw [hmap, hmap, settledFunctions, List.map_map, map_settleAll fun b f => ?_]
  rw [FunctionRecord.settle_eq]
  rfl

/-- Each function with a fingerprint is flagged, or the first one with its fingerprint. -/
theorem countP_merge_functions
    (hflag : ∀ f ∈ outcomes.flatMap (·.functions), f.metrics.isDuplicate = false) :
    (merge outcomes entryPoints).functions.countP (·.isDuplicate) +
        (fingerprints (merge outcomes entryPoints).functions).toFinset.card =
      (fingerprints (merge outcomes entryPoints).functions).length := by
  have hperm := merge_functions_perm_settledFunctions outcomes entryPoints
  have htexts : (fingerprints (merge outcomes entryPoints).functions).Perm
      (fingerprints (outcomes.flatMap (·.functions))) := by
    rw [← fingerprints_settledFunctions outcomes entryPoints]
    exact hperm.filterMap _
  have hcount := countP_settleAll FunctionRecord.settle_isDuplicate Detector.holds_empty
    (outcomes.flatMap (·.functions))
  have hnone : (outcomes.flatMap (·.functions)).countP
      (fun f => f.fingerprint.isNone && f.metrics.isDuplicate) = 0 := by
    refine List.countP_eq_zero.2 fun f hf => ?_
    simp [hflag f hf]
  rw [hnone, (Detector.holds_feed_empty _).size_eq, Detector.holds_empty.size_eq,
    Finset.card_empty] at hcount
  rw [hperm.countP_eq, settledFunctions, List.countP_map, List.toFinset_eq_of_perm _ _ htexts,
    htexts.length_eq]
  simpa [Function.comp_def, FunctionRecord.marked] using hcount

end

/-- **A function is flagged if one with the same text comes before it.** A new detector says of each
text whether it has come before; each text stands once, in the bucket of its own hash, so that the
lengths of the buckets add up to the number of different texts. In a survey of a tree of files with
different names, the functions of the report are those of the files, each with the canonical text of
its body if there is no error node in it; a function is flagged exactly if a function with the same
text comes before it, in an earlier file or earlier in the same file. So there are as many flagged
functions as functions with a fingerprint, less the number of different fingerprints. -/
theorem survey_isDuplicate_iff :
    (∀ texts : List String,
      (∀ i (hi : i < texts.length),
        ((Detector.empty.feed (texts.take i)).check texts[i]).1 = true ↔ texts[i] ∈ texts.take i) ∧
      (Detector.empty.feed texts).Holds texts.toFinset ∧
      (Detector.empty.feed texts).size = texts.toFinset.card) ∧
    ∀ (c : Config) (patterns : List Glob) (root : String) (t : FileTree) (report : Report),
      c.check = .ok patterns → t.WellNamed → c.survey root (.ok t) = .ok report →
        (∃ records, report.functions.Perm records ∧
          List.Forall₂ (fun s f => s.decl.RecordedAs (s.file.reported root) f ∧
            (f.isDuplicate = true ↔ s.Repeats (c.sites patterns root t)))
            (c.sites patterns root t) records) ∧
        report.functions.countP (·.isDuplicate) +
            (fingerprints report.functions).toFinset.card =
          (fingerprints report.functions).length := by
  refine ⟨fun texts => ⟨fun i hi => ?_, Detector.holds_feed_empty texts,
    (Detector.holds_feed_empty texts).size_eq⟩, ?_⟩
  · rw [Detector.check_feed_take texts hi, decide_eq_true_iff]
  intro c patterns root t report hc ht hsurvey
  simp only [Config.survey, hc] at hsurvey
  obtain ⟨-, rfl⟩ := (c.surveyTree_eq_ok_iff root).1 hsurvey
  have hsites := c.forall₂_sites patterns root t
  refine ⟨⟨_, merge_functions_perm_settledFunctions _ _, ?_⟩, countP_merge_functions _ _ ?_⟩
  · refine List.forall₂_map_right_iff.2 ?_
    refine (Site.forall₂_settleAll hsites (ht.pairwise_sites c patterns root)
      Detector.holds_empty).imp ?_
    rintro s _ ⟨f, isDuplicate, hf, rfl, hiff⟩
    refine ⟨hf.1.settle_marked _ _ _, ?_⟩
    change (f.settle isDuplicate).isDuplicate = true ↔ _
    rw [FunctionRecord.settle_isDuplicate, hiff]
    simp
  · exact ((List.forall₂_and_left _ _).1 (hsites.flip.imp fun f s h => ⟨h.2, h.1⟩)).1

/-- Two files with one function each, and a tree in which the order of paths differs from the order
of their texts. -/
theorem survey_isDuplicate_iff_two_files :
    let source := "package p; func f() { g() }".toUTF8.toList
    let t := FileTree.directory "r" [.file "a.go" source, .directory "a" [.file "x.go" source]]
    t.WellNamed ∧ ∃ report, ({} : Config).survey "r" (.ok t) = .ok report ∧
      ∃ first second, report.functions.Perm [first, second] ∧
        first.file = "a/x.go" ∧ first.isDuplicate = false ∧
        second.file = "a.go" ∧ second.isDuplicate = true := by
  intro source t
  have ht : t.WellNamed := by simp [t, FileTree.WellNamed, FileTree.AllWellNamed, FileTree.name]
  have hcheck : ({} : Config).check = .ok [] := rfl
  have haccepts : (FileTree.listFrom [] t).filter (Filter.accepts ⟨false, []⟩ "r") =
      [⟨["a.go"], source⟩, ⟨["a", "x.go"], source⟩] := by decide +kernel
  have horder : namesLE ["a.go"] ["a", "x.go"] = false := by decide +kernel
  have hread : isReadable source = true := by decide +kernel
  -- The two functions, in the order of the survey.
  obtain ⟨s₁, hs₁, hfirst⟩ : ∃ s, Listed.sites "r" ⟨["a", "x.go"], source⟩ = [s] ∧
      (s.file, s.decl.canonicalText?) = (⟨["a", "x.go"], source⟩, some "g") :=
    List.map_eq_singleton_iff.1 (by decide +kernel)
  obtain ⟨s₂, hs₂, hsecond⟩ : ∃ s, Listed.sites "r" ⟨["a.go"], source⟩ = [s] ∧
      (s.file, s.decl.canonicalText?) = (⟨["a.go"], source⟩, some "g") :=
    List.map_eq_singleton_iff.1 (by decide +kernel)
  rw [Prod.mk.injEq] at hfirst hsecond
  have hsites : Config.sites {} [] "r" t = [s₁, s₂] := by
    simp [Config.sites, FileTree.collect, haccepts, List.mergeSort, horder, Config.takes, hread,
      hs₁, hs₂]
  have hbefore : s₁.Before s₂ := by
    rw [Site.Before, hfirst.1, hsecond.1]
    exact .inl (by decide +kernel)
  obtain ⟨report, hreport⟩ : ∃ report, ({} : Config).survey "r" (.ok t) = .ok report :=
    ⟨_, (Config.surveyTree_eq_ok_iff {} "r").2 ⟨fun l _ => by simp [Config.goesOn], rfl⟩⟩
  obtain ⟨⟨records, hperm, hrecords⟩, -⟩ :=
    survey_isDuplicate_iff.2 {} [] "r" t report hcheck ht hreport
  rw [hsites] at hrecords
  obtain _ | ⟨⟨hf₁, hflag₁⟩, _ | ⟨⟨hf₂, hflag₂⟩, _ | _⟩⟩ := hrecords
  refine ⟨ht, report, hreport, _, _, hperm, ?_, ?_, ?_, ?_⟩
  · rw [hf₁.file_eq, hfirst.1]
    decide +kernel
  · rw [Bool.eq_false_iff, Ne, hflag₁]
    exact Site.not_repeats_first (by simpa using hbefore)
  · rw [hf₂.file_eq, hsecond.1]
    decide +kernel
  · exact hflag₂.2 ⟨"g", hsecond.2, s₁, List.mem_cons_self, hbefore, hfirst.2⟩

end GoSurvey
