import GoSurvey.Proofs.Graph.Marking
import GoSurvey.Proofs.Implements
import GoSurvey.Proofs.Survey.Settle

/-!
# Files in another order

A report depends on the order of the files only by which one of several equal functions counts as
the first. The flags for recursion and use depend on the calls between the functions and not on
their order. Every list of a report is sorted so that records which the order does not tell apart
are of one file, and the records of one file come from one outcome (`Outcome.filter_path_perm`); so
they follow each other in the same way whatever the order of the files.
-/

namespace GoSurvey

/-! ## Outcomes and files -/

/-- The files that the records of a file name. -/
def FileFacts.files (facts : FileFacts) : List String :=
  [facts.functions.map (·.file), facts.structs.map (·.file), facts.interfaces.map (·.file),
    facts.globals.map (·.file), facts.imports.map (·.file)].flatten

namespace Outcome

/-- The path of a file of which there are facts or an error. -/
def path? (o : Outcome) : Option String :=
  (o.facts.map (·.path)).or (o.error.map (·.file))

/-- The records of one kind that came of a file. -/
def collect {α : Type} (records : FileFacts → List α) (o : Outcome) : List α :=
  o.facts.toList.flatMap records

/-- The functions of a file. -/
def functions : Outcome → List FunctionRecord :=
  collect (·.functions)

/-- All files that an outcome names. -/
def files (o : Outcome) : List String :=
  o.collect (·.files) ++ o.error.toList.map (·.file)

/-- An outcome names no file but its own. -/
def Located (o : Outcome) : Prop :=
  ∀ file ∈ o.files, o.path? = some file

instance (o : Outcome) : Decidable o.Located :=
  inferInstanceAs (Decidable (∀ file ∈ o.files, _))

section
variable {α : Type} {outcomes outcomes' : List Outcome} {o : Outcome} {file : α → String}

/-- A record names the path of its outcome. -/
theorem Located.path?_eq (h : o.Located) {records : FileFacts → List α}
    (hfile : ∀ facts, (records facts).map file ⊆ facts.files) {a : α} (ha : a ∈ o.collect records) :
    o.path? = some (file a) := by
  obtain ⟨facts, hfacts, ha⟩ := List.mem_flatMap.1 ha
  refine h _ (List.mem_append_left _ (List.mem_flatMap.2 ⟨facts, hfacts, ?_⟩))
  exact hfile facts (List.mem_map_of_mem ha)

/-- A function names the path of its outcome. -/
theorem Located.path?_eq_function (h : o.Located) {f : FunctionRecord} (hf : f ∈ o.functions) :
    o.path? = some f.file :=
  h.path?_eq (fun _ _ => List.mem_flatten_of_mem (by simp)) hf

/-- An error names the path of its outcome. -/
theorem Located.path?_eq_error (h : o.Located) {e : FileError} (he : e ∈ o.error.toList) :
    o.path? = some e.file :=
  h _ (List.mem_append_right _ (List.mem_map_of_mem he))

/-- Outcomes in another order are, for each path, the same: there is at most one. -/
theorem filter_path_perm (hperm : outcomes.Perm outcomes')
    (hpaths : (outcomes.filterMap path?).Nodup) (p : String) :
    outcomes.filter (·.path? = some p) = outcomes'.filter (·.path? = some p) := by
  have hone : (outcomes.filter (·.path? = some p)).length ≤ 1 := by
    have hcount := List.nodup_iff_count.1 hpaths p
    rw [List.count, List.countP_filterMap] at hcount
    rw [← List.countP_eq_length_filter]
    refine le_trans (List.countP_mono_left fun o _ ho => ?_) hcount
    simp [of_decide_eq_true ho]
  have hsame := hperm.filter (·.path? = some p)
  -- A list of at most one element has no other order.
  rcases hfilter : outcomes.filter (·.path? = some p) with _ | ⟨o, _ | ⟨o', rest⟩⟩
  · rw [hfilter] at hsame
    exact hfilter.trans hsame.nil_eq
  · rw [hfilter] at hsame
    exact hfilter.trans hsame.singleton_eq
  · simp [hfilter] at hone

/-- The records of a file come from the outcome of that file. -/
theorem filter_flatMap_file {records : Outcome → List α}
    (hrecords : ∀ o ∈ outcomes, ∀ a ∈ records o, o.path? = some (file a)) (p : String) :
    (outcomes.flatMap records).filter (file · = p) =
      (outcomes.filter (·.path? = some p)).flatMap records := by
  induction outcomes with
  | nil => rfl
  | cons o outcomes ih =>
    have hhead := hrecords o List.mem_cons_self
    rw [List.flatMap_cons, List.filter_append,
      ih fun o ho => hrecords o (List.mem_cons_of_mem _ ho)]
    by_cases ho : o.path? = some p
    · rw [List.filter_cons_of_pos (by simpa using ho), List.flatMap_cons,
        List.filter_eq_self.2 fun a ha => ?_]
      simpa [ho, eq_comm] using hhead a ha
    · rw [List.filter_cons_of_neg (by simpa using ho), List.filter_eq_nil_iff.2 fun a ha => ?_,
        List.nil_append]
      rw [hhead a ha] at ho
      simpa using ho

/-- The records of each file do not depend on the order of the outcomes. -/
theorem filter_file_perm (hperm : outcomes.Perm outcomes')
    (hpaths : (outcomes.filterMap path?).Nodup) {records : Outcome → List α}
    (hrecords : ∀ o ∈ outcomes, ∀ a ∈ records o, o.path? = some (file a)) (p : String) :
    (outcomes.flatMap records).filter (file · = p) =
      (outcomes'.flatMap records).filter (file · = p) := by
  rw [filter_flatMap_file hrecords, filter_path_perm hperm hpaths,
    filter_flatMap_file fun o ho => hrecords o (hperm.mem_iff.2 ho)]

end

end Outcome

/-! ## The lists of a report -/

/-- A report without what depends on which one of several equal functions counts as the first. -/
def Report.withoutRepetition (r : Report) : Report :=
  { r with functions := r.functions.map (·.withoutRepetition) }

/-- The records of all files are the records of all outcomes. -/
theorem flatMap_facts {α : Type} (records : FileFacts → List α) (outcomes : List Outcome) :
    (outcomes.filterMap (·.facts)).flatMap records =
      outcomes.flatMap (Outcome.collect records) := by
  rw [List.filterMap_eq_flatMap_toList, List.flatMap_assoc]
  rfl

/-- The functions of a report are the settled functions of all outcomes, marked by their calls. -/
theorem merge_functions (outcomes : List Outcome) (entryPoints : List String) :
    (merge outcomes entryPoints).functions =
      sortByKeys (·.qualifiedName) (·.file)
        ((settleAll .empty (outcomes.flatMap (·.functions))).map
          (FunctionRecord.marked (outcomes.flatMap (·.functions)) entryPoints)) := by
  have hcalling : ∀ fs, ((settleAll .empty fs).map (·.calling)).Perm (fs.map (·.calling)) := by
    intro fs
    rw [map_settleAll fun b f => ?_]
    rw [FunctionRecord.settle_eq]
    rfl
  rw [← marked_congr entryPoints (hcalling _)]
  change sortByKeys _ _ _ = _
  rw [mark_eq_map_marked, flatMap_facts]
  rfl

/-- The functions of a report, up to repetition. -/
theorem merge_functions_withoutRepetition (outcomes : List Outcome) (entryPoints : List String) :
    (merge outcomes entryPoints).functions.map (·.withoutRepetition) =
      sortByKeys (·.qualifiedName) (·.file)
        (outcomes.flatMap fun o => o.functions.map fun f =>
          (f.settle false).withoutRepetition.marked (outcomes.flatMap (·.functions))
            entryPoints) := by
  rw [merge_functions,
    map_sortByKeys (f := FunctionRecord.withoutRepetition) (fun _ => rfl) fun _ => rfl,
    List.map_map, map_settleAll fun b f => ?_, List.map_flatMap]
  change ((f.settle b).withoutRepetition).marked _ _ = _
  rw [FunctionRecord.settle_withoutRepetition]

section
variable {outcomes outcomes' : List Outcome} (hperm : outcomes.Perm outcomes')
  (hpaths : (outcomes.filterMap (·.path?)).Nodup) (hlocated : ∀ o ∈ outcomes, o.Located)
include hperm hpaths hlocated

/-- Sorted records do not depend on the order of the outcomes, if their file is one of the keys. -/
theorem sortByKeys_facts_perm {α : Type} (records : FileFacts → List α)
    {first second file : α → String} (hkey : file = first ∨ file = second)
    (hfile : ∀ facts, (records facts).map file ⊆ facts.files) :
    sortByKeys first second ((outcomes.filterMap (·.facts)).flatMap records) =
      sortByKeys first second ((outcomes'.filterMap (·.facts)).flatMap records) := by
  rw [flatMap_facts, flatMap_facts]
  refine sortByKeys_eq_of_files hkey (Outcome.filter_file_perm hperm hpaths fun o ho a ha => ?_)
  exact (hlocated o ho).path?_eq hfile ha

/-- Sorted errors do not depend on the order of the outcomes. -/
theorem mergeSort_errors_perm :
    ((outcomes.filterMap (·.error)).mergeSort fun a b => (compare a.file b.file).isLE) =
      (outcomes'.filterMap (·.error)).mergeSort fun a b => (compare a.file b.file).isLE := by
  rw [List.filterMap_eq_flatMap_toList, List.filterMap_eq_flatMap_toList]
  have hkey : ∀ a b, compareOn FileError.file a b = .eq → a.file = b.file :=
    fun _ _ h => Std.LawfulEqCmp.eq_of_compare h
  refine mergeSort_eq_of_files (compareOn FileError.file) hkey
    (Outcome.filter_file_perm hperm hpaths fun o ho e he => ?_)
  exact (hlocated o ho).path?_eq_error he

/-- Outcomes in another order give reports that differ in their functions at most. -/
theorem merge_eq_but_functions (entryPoints : List String) :
    merge outcomes entryPoints =
      { merge outcomes' entryPoints with functions := (merge outcomes entryPoints).functions } := by
  have hfiles := hperm.filterMap (·.facts)
  have himplements := inferImplements_congr
    (fun s => (hfiles.flatMap_right (·.structs)).mem_iff)
    (fun i => (hfiles.flatMap_right (·.interfaces)).mem_iff)
    (fun m => (hfiles.flatMap_right (·.methodSets)).mem_iff)
  simp only [merge, Report.sort, Report.mk.injEq, true_and, himplements]
  refine ⟨?_, ?_, ?_, ?_, mergeSort_errors_perm hperm hpaths hlocated⟩
  -- Structs, interfaces, globals and imports are all sorted by their file first.
  all_goals
    exact sortByKeys_facts_perm hperm hpaths hlocated _ (.inl rfl)
      fun _ _ => List.mem_flatten_of_mem (by simp)

/-- Sorted functions do not depend on the order of the outcomes, whatever is done to them, as long
as they stay in their files. -/
theorem sortByKeys_functions_perm {view : Outcome → List FunctionRecord}
    (hview : ∀ o, (view o).map (·.file) = o.functions.map (·.file)) :
    sortByKeys (·.qualifiedName) (·.file) (outcomes.flatMap view) =
      sortByKeys (·.qualifiedName) (·.file) (outcomes'.flatMap view) := by
  refine sortByKeys_eq_of_files (.inr rfl)
    (Outcome.filter_file_perm hperm hpaths fun o ho f hf => ?_)
  have hfile := List.mem_map_of_mem (f := FunctionRecord.file) hf
  rw [hview] at hfile
  obtain ⟨f', hf', heq⟩ := List.mem_map.1 hfile
  rw [← heq]
  exact (hlocated o ho).path?_eq_function hf'

/-- Up to repetition, functions do not depend on the order of the outcomes. -/
theorem merge_functions_withoutRepetition_perm (entryPoints : List String) :
    (merge outcomes entryPoints).functions.map (·.withoutRepetition) =
      (merge outcomes' entryPoints).functions.map (·.withoutRepetition) := by
  rw [merge_functions_withoutRepetition, merge_functions_withoutRepetition,
    marked_congr entryPoints ((hperm.flatMap_right (·.functions)).map (·.calling))]
  refine sortByKeys_functions_perm hperm hpaths hlocated fun o => ?_
  rw [List.map_map]
  refine List.map_congr_left fun f _ => ?_
  rw [Function.comp, FunctionRecord.settle_eq]
  rfl

end

/-! ## Repetitions -/

/-- The number of repetitions does not depend on the order of the outcomes. -/
theorem countP_merge_functions_perm {outcomes outcomes' : List Outcome}
    (hperm : outcomes.Perm outcomes') (entryPoints : List String) {flag : FunctionRecord → Bool}
    (hsettle : ∀ b (f : FunctionRecord), flag (f.settle b) = b)
    (hmarked : ∀ functions (f : FunctionRecord), flag (f.marked functions entryPoints) = flag f) :
    (merge outcomes entryPoints).functions.countP flag =
      (merge outcomes' entryPoints).functions.countP flag := by
  have hcount : ∀ outcomes : List Outcome, (merge outcomes entryPoints).functions.countP flag =
      (settleAll .empty (outcomes.flatMap (·.functions))).countP flag := by
    intro outcomes
    rw [merge_functions, (sortByKeys_perm _).countP_eq, List.countP_map]
    exact List.countP_congr fun f _ => by rw [Function.comp, hmarked]
  rw [hcount, hcount, countP_settleAll_perm hsettle (hperm.flatMap_right _)]

/-- No two functions of different files share a fingerprint. -/
def FilesApart (functions : List FunctionRecord) : Prop :=
  ∀ f ∈ functions, ∀ f' ∈ functions, f.file ≠ f'.file →
    ∀ text ∈ f.fingerprint, text ∉ f'.fingerprint

instance (functions : List FunctionRecord) : Decidable (FilesApart functions) :=
  inferInstanceAs (Decidable (∀ f ∈ functions, ∀ f' ∈ functions, f.file ≠ f'.file → _))

/-- If files share no fingerprint, the functions of each file are settled apart. -/
theorem settleAll_filesApart {outcomes : List Outcome}
    (hpaths : (outcomes.filterMap (·.path?)).Nodup) (hlocated : ∀ o ∈ outcomes, o.Located)
    (hapart : FilesApart (outcomes.flatMap (·.functions))) :
    settleAll .empty (outcomes.flatMap (·.functions)) =
      outcomes.flatMap fun o => settleAll .empty o.functions := by
  refine settleAll_flatMap _ ?_ Detector.holds_empty (by simp)
  refine (List.pairwise_filterMap.1 hpaths).imp_of_mem fun {o o'} ho ho' hne t ht ht' => ?_
  obtain ⟨f, hf, htext⟩ := List.mem_filterMap.1 ht
  obtain ⟨f', hf', htext'⟩ := List.mem_filterMap.1 ht'
  have hfile : f.file ≠ f'.file :=
    hne _ ((hlocated o ho).path?_eq_function hf) _ ((hlocated o' ho').path?_eq_function hf')
  exact hapart f (List.mem_flatMap.2 ⟨o, ho, hf⟩) f' (List.mem_flatMap.2 ⟨o', ho', hf'⟩) hfile t
    htext htext'

/-- If files share no fingerprint, functions do not depend on the order of the outcomes. -/
theorem merge_functions_perm {outcomes outcomes' : List Outcome} (hperm : outcomes.Perm outcomes')
    (hpaths : (outcomes.filterMap (·.path?)).Nodup) (hlocated : ∀ o ∈ outcomes, o.Located)
    (hapart : FilesApart (outcomes.flatMap (·.functions))) (entryPoints : List String) :
    (merge outcomes entryPoints).functions = (merge outcomes' entryPoints).functions := by
  have hfunctions := hperm.flatMap_right (·.functions)
  have hpaths' := (hperm.filterMap (·.path?)).nodup_iff.1 hpaths
  have hlocated' : ∀ o ∈ outcomes', o.Located := fun o ho => hlocated o (hperm.mem_iff.2 ho)
  have hapart' : FilesApart (outcomes'.flatMap (·.functions)) := fun f hf f' hf' =>
    hapart f (hfunctions.mem_iff.2 hf) f' (hfunctions.mem_iff.2 hf')
  rw [merge_functions, merge_functions, marked_congr entryPoints (hfunctions.map (·.calling)),
    settleAll_filesApart hpaths hlocated hapart, settleAll_filesApart hpaths' hlocated' hapart',
    List.map_flatMap, List.map_flatMap]
  refine sortByKeys_functions_perm hperm hpaths hlocated fun o => ?_
  rw [List.map_map]
  refine map_settleAll (fun b f => ?_) _ _
  rw [FunctionRecord.settle_eq]
  rfl

/-- **The order of the files decides only which one of several equal functions is the first.** For
files with distinct paths, each of which names no path but its own, any other order gives the same
report up to repetition: the same records in the same order, with the same flags for recursion and
use. The number of functions flagged as repeated is the same, and if no two functions of different
files share a fingerprint, so are the whole reports. -/
theorem merge_perm {outcomes outcomes' : List Outcome} (entryPoints : List String)
    (hperm : outcomes.Perm outcomes') (hpaths : (outcomes.filterMap (·.path?)).Nodup)
    (hlocated : ∀ o ∈ outcomes, o.Located) :
    (merge outcomes entryPoints).withoutRepetition =
        (merge outcomes' entryPoints).withoutRepetition ∧
      (merge outcomes entryPoints).functions.countP (·.isDuplicate) =
        (merge outcomes' entryPoints).functions.countP (·.isDuplicate) ∧
      (merge outcomes entryPoints).functions.countP (·.metrics.isDuplicate) =
        (merge outcomes' entryPoints).functions.countP (·.metrics.isDuplicate) ∧
      (FilesApart (outcomes.flatMap (·.functions)) →
        merge outcomes entryPoints = merge outcomes' entryPoints) := by
  have hrest := merge_eq_but_functions hperm hpaths hlocated entryPoints
  refine ⟨?_, ?_, ?_, fun hapart => ?_⟩
  · rw [Report.withoutRepetition, Report.withoutRepetition,
      merge_functions_withoutRepetition_perm hperm hpaths hlocated, hrest]
  · exact countP_merge_functions_perm hperm entryPoints FunctionRecord.settle_isDuplicate
      fun _ _ => rfl
  · exact countP_merge_functions_perm hperm entryPoints FunctionRecord.settle_metrics_isDuplicate
      fun _ _ => rfl
  · rw [hrest, merge_functions_perm hperm hpaths hlocated hapart]

/-- A file whose functions have the given fingerprints. -/
def Outcome.ofFingerprints (path : String) (texts : List String) : Outcome where
  facts := some { (default : FileFacts) with
    path
    functions := texts.map fun text =>
      { (default : FunctionRecord) with file := path, fingerprint := some text } }

/-- Two files that share a fingerprint, and two files with a repetition in one of them only. -/
theorem merge_perm_two_files :
    (merge [.ofFingerprints "a.go" ["x"], .ofFingerprints "b.go" ["x"]] []).withoutRepetition =
        (merge [.ofFingerprints "b.go" ["x"], .ofFingerprints "a.go" ["x"]] []).withoutRepetition ∧
      merge [.ofFingerprints "a.go" ["x", "x"], .ofFingerprints "b.go" ["y"]] [] =
        merge [.ofFingerprints "b.go" ["y"], .ofFingerprints "a.go" ["x", "x"]] [] :=
  ⟨(merge_perm [] (.swap _ _ _) (by decide) (by decide)).1,
    (merge_perm [] (.swap _ _ _) (by decide) (by decide)).2.2.2 (by decide)⟩

end GoSurvey
