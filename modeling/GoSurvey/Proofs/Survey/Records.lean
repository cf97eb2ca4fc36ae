import GoSurvey.Proofs.Fingerprint.Readable
import GoSurvey.Proofs.Survey.Merge

/-!
# What a report keeps

Every record that is extracted from a file is in the report once, and nothing else is. Functions
change on the way: settling fills in what depends on repetition, and two marks what depends on the
calls. All of this can be taken back (`FunctionRecord.alone`), and what is left of a reported
function is the function as it was extracted (`FunctionRecord.alone_settle_marked`). The
numbers that a record shows twice agree when it is extracted, and each later pass keeps it so
(`FunctionRecord.Consistent`).
-/

namespace GoSurvey

/-! ## Files -/

/-- A file that is to be merged: the code that was read of it, if any, the path it is reported by,
the cache that its types are rendered with, and what was wrong with it. -/
structure Examined where
  code : Option SourceFile
  path : String
  cache : TypeCache
  error : Option FileError

namespace Examined

/-- The facts of a file. -/
def facts? (e : Examined) : Option FileFacts :=
  e.code.map fun file => (FileFacts.extract file e.path e.cache).1

/-- What comes of a file. -/
def outcome (e : Examined) : Outcome :=
  ⟨e.facts?, e.error⟩

/-- The functions that a file declares. -/
def decls (e : Examined) : List FuncDecl :=
  e.code.toList.flatMap (·.functions)

end Examined

/-! ## Extracted functions -/

/-- A record that extraction makes of a function. What its body refers to and the texts of its types
depend on the rest of the file, all else on the function alone. -/
def FuncDecl.ExtractedAs (file package : String) (decl : FuncDecl) (f : FunctionRecord) : Prop :=
  ∃ refs params returns, f = FileFacts.recordOf file package decl refs params returns

/-- The functions of a file are extracted one after the other. -/
theorem FileFacts.forall₂_extractedAs (file package : String) (scope : Scope)
    (decls : List FuncDecl) (c : TypeCache) :
    List.Forall₂ (FuncDecl.ExtractedAs file package) decls
      (allFunctions file package scope decls c).1 := by
  induction decls generalizing c with
  | nil => exact .nil
  | cons decl decls ih => exact .cons ⟨_, _, _, rfl⟩ (ih _)

/-- A record that extraction makes of a function in some file. -/
def FuncDecl.Extracted (decl : FuncDecl) (f : FunctionRecord) : Prop :=
  ∃ file package, decl.ExtractedAs file package f

namespace Examined

/-- The functions of a file are extracted one after the other. -/
theorem forall₂_functions (e : Examined) :
    List.Forall₂ FuncDecl.Extracted e.decls e.outcome.functions := by
  unfold decls outcome facts? Outcome.functions Outcome.collect
  cases e.code with
  | none => exact .nil
  | some file =>
    simp only [Option.toList_some, Option.map_some, List.flatMap_singleton]
    exact (FileFacts.forall₂_extractedAs e.path file.package _ file.functions _).imp
      fun _ _ h => ⟨_, _, h⟩

/-- The functions of all files are extracted one after the other. -/
theorem forall₂_allFunctions (files : List Examined) :
    List.Forall₂ FuncDecl.Extracted (files.flatMap decls)
      ((files.map outcome).flatMap (·.functions)) := by
  induction files with
  | nil => exact .nil
  | cons e files ih => exact List.rel_append e.forall₂_functions ih

end Examined

/-- A function of a report comes from a function of one of the files. -/
theorem Examined.exists_extractedAs {files : List Examined} {f : FunctionRecord}
    (hf : f ∈ (files.map outcome).flatMap (·.functions)) :
    ∃ e ∈ files, ∃ file ∈ e.code, ∃ decl ∈ file.functions,
      decl.ExtractedAs e.path file.package f := by
  obtain ⟨o, ho, hf⟩ := List.mem_flatMap.1 hf
  obtain ⟨e, he, rfl⟩ := List.mem_map.1 ho
  obtain ⟨facts, hfacts, hf⟩ := List.mem_flatMap.1 hf
  obtain ⟨file, hfile, rfl⟩ := Option.map_eq_some_iff.1 (Option.mem_toList.1 hfacts)
  obtain ⟨i, hi, rfl⟩ := List.getElem_of_mem hf
  obtain ⟨hlength, hget⟩ := List.forall₂_iff_get.1
    (FileFacts.forall₂_extractedAs e.path file.package _ file.functions _)
  exact ⟨e, he, file, hfile, _, List.get_mem _ ⟨i, hlength ▸ hi⟩, hget i _ hi⟩

/-! ## What later passes change -/

namespace FunctionRecord

/-- A function without all that depends on other functions. -/
def alone (f : FunctionRecord) : FunctionRecord :=
  { f with
    isRecursive := false
    isDuplicate := false
    metrics.isDuplicate := false
    metrics.isUnused := false
    metrics.maintainabilityIndex := 0.0 }

/-- The numbers that a record shows twice agree, and the complexity is one more than the number of
decisions. -/
structure Consistent (f : FunctionRecord) : Prop where
  complexity_eq : f.cyclomaticComplexity = f.metrics.cyclomaticComplexity
  decisions_eq : f.metrics.cyclomaticComplexity = f.metrics.cognitive.branchingScore + 1
  lines_eq : f.linesOfCode = f.metrics.linesOfCode
  isDuplicate_eq : f.isDuplicate = f.metrics.isDuplicate

variable {f : FunctionRecord} (isDuplicate : Bool) (functions : List FunctionRecord)
  (entryPoints : List String)

/-- Settling brings all numbers into agreement that it does not find so. -/
theorem consistent_settle
    (h : f.metrics.cyclomaticComplexity = f.metrics.cognitive.branchingScore + 1) :
    (f.settle isDuplicate).Consistent := by
  rw [settle_eq]
  exact ⟨rfl, h, rfl, rfl⟩

/-- The marks keep numbers that agree. -/
theorem Consistent.marked (h : f.Consistent) : (f.marked functions entryPoints).Consistent :=
  ⟨h.complexity_eq, h.decisions_eq, h.lines_eq, h.isDuplicate_eq⟩

/-- Settling and the marks change nothing that a function has alone, but for the copies of its
metrics. -/
theorem alone_settle_marked (f : FunctionRecord) :
    ((f.settle isDuplicate).marked functions entryPoints).alone = f.syncMetrics.alone := by
  rw [settle_eq]
  rfl

end FunctionRecord

namespace FileFacts

/-- The complexity of a body is one more than the number of its decisions. -/
theorem measureBody_decisions (body : Option Block) :
    (measureBody body).1.cyclomaticComplexity =
      (measureBody body).1.cognitive.branchingScore + 1 := by
  cases body with
  | none => rfl
  | some body =>
    simp only [measureBody]
    split
    · rfl
    · exact Nat.add_comm 1 _

/-- The metrics of a body do not depend on other functions. -/
theorem measureBody_alone (body : Option Block) :
    { (measureBody body).1 with
      isDuplicate := false, isUnused := false, maintainabilityIndex := 0.0 } =
        (measureBody body).1 := by
  cases body with
  | none => rfl
  | some body =>
    simp only [measureBody]
    split <;> rfl

end FileFacts

namespace FuncDecl.ExtractedAs
variable {file package : String} {decl : FuncDecl} {f : FunctionRecord}

/-- The complexity of an extracted function is one more than the number of its decisions. -/
theorem decisions_eq (h : decl.ExtractedAs file package f) :
    f.metrics.cyclomaticComplexity = f.metrics.cognitive.branchingScore + 1 := by
  obtain ⟨refs, params, returns, rfl⟩ := h
  exact FileFacts.measureBody_decisions decl.body

/-- Nothing in an extracted record depends on other functions, and the copies of its metrics are in
place. -/
theorem alone_eq (h : decl.ExtractedAs file package f) : f.syncMetrics.alone = f := by
  obtain ⟨refs, params, returns, rfl⟩ := h
  have hmetrics := FileFacts.measureBody_alone decl.body
  have hduplicate := FileFacts.measureBody_isDuplicate decl.body
  unfold FileFacts.recordOf
  generalize FileFacts.measureBody decl.body = m at hmetrics hduplicate
  obtain ⟨metrics, fingerprint⟩ := m
  change metrics.isDuplicate = false at hduplicate
  simp only [FunctionRecord.syncMetrics, FunctionRecord.alone, hmetrics, hduplicate]

end FuncDecl.ExtractedAs

/-! ## The records of a report -/

/-- A function of a report is a settled and marked function of some file. -/
theorem exists_of_mem_merge_functions {outcomes : List Outcome} {entryPoints : List String}
    {f : FunctionRecord} (hf : f ∈ (merge outcomes entryPoints).functions) :
    ∃ g ∈ outcomes.flatMap (·.functions), ∃ isDuplicate,
      f = (g.settle isDuplicate).marked (outcomes.flatMap (·.functions)) entryPoints := by
  rw [merge_functions, (sortByKeys_perm _).mem_iff, settleAll_eq_mapIdx] at hf
  obtain ⟨g, hg, rfl⟩ := List.mem_map.1 hf
  obtain ⟨i, hi, rfl⟩ := List.mem_mapIdx.1 hg
  exact ⟨_, List.getElem_mem hi, _, rfl⟩

section
variable (files : List Examined) (entryPoints : List String)

/-- The functions that are merged are those of the facts. -/
theorem Examined.flatMap_functions :
    (files.filterMap (·.facts?)).flatMap (·.functions) =
      (files.map (·.outcome)).flatMap (·.functions) := by
  have hfacts : files.filterMap (·.facts?) = (files.map (·.outcome)).filterMap (·.facts) := by
    rw [List.filterMap_map]
    rfl
  rw [hfacts]
  exact flatMap_facts _ _

/-- What is left of the functions of a report is what was extracted. -/
theorem map_alone_merge_functions :
    ((merge (files.map (·.outcome)) entryPoints).functions.map (·.alone)).Perm
      ((files.map (·.outcome)).flatMap (·.functions)) := by
  rw [merge_functions]
  refine ((sortByKeys_perm _).map _).trans (.of_eq ?_)
  rw [List.map_map, map_settleAll fun b f => f.alone_settle_marked b _ entryPoints]
  conv_rhs => rw [← List.map_id ((files.map (·.outcome)).flatMap (·.functions))]
  refine List.map_congr_left fun f hf => ?_
  obtain ⟨e, -, file, -, decl, -, hextracted⟩ := Examined.exists_extractedAs hf
  exact hextracted.alone_eq

/-- The numbers that a function of a report shows twice agree. -/
theorem consistent_of_mem_merge {f : FunctionRecord}
    (hf : f ∈ (merge (files.map (·.outcome)) entryPoints).functions) : f.Consistent := by
  obtain ⟨g, hg, isDuplicate, rfl⟩ := exists_of_mem_merge_functions hf
  obtain ⟨e, -, file, -, decl, -, hextracted⟩ := Examined.exists_extractedAs hg
  exact (FunctionRecord.consistent_settle _ hextracted.decisions_eq).marked _ _

end

/-- **Merging loses no record and invents none.** Let any files be extracted and merged, some of
them perhaps with errors. Without what depends on other functions, the functions of the report are
the extracted functions, those with the same name included; structs, interfaces, globals, imports
and errors are the extracted ones as they are. Functions are ordered by their qualified names and
then by their files, the other records by their files and then by their names or paths. The numbers
that a function shows twice agree. -/
theorem merge_records (files : List Examined) (entryPoints : List String) :
    let facts := files.filterMap (·.facts?)
    let report := merge (files.map (·.outcome)) entryPoints
    ((report.functions.map (·.alone)).Perm (facts.flatMap (·.functions)) ∧
        report.structs.Perm (facts.flatMap (·.structs)) ∧
        report.interfaces.Perm (facts.flatMap (·.interfaces)) ∧
        report.globals.Perm (facts.flatMap (·.globals)) ∧
        report.imports.Perm (facts.flatMap (·.imports)) ∧
        report.errors.Perm (files.filterMap (·.error))) ∧
      (report.functions.Pairwise (InKeyOrder (·.qualifiedName) (·.file)) ∧
        report.structs.Pairwise (InKeyOrder (·.file) (·.name)) ∧
        report.interfaces.Pairwise (InKeyOrder (·.file) (·.name)) ∧
        report.globals.Pairwise (InKeyOrder (·.file) (·.name)) ∧
        report.imports.Pairwise (InKeyOrder (·.file) (·.path)) ∧
        report.errors.Pairwise fun e e' => (compare e.file e'.file).isLE = true) ∧
      ∀ f ∈ report.functions, f.Consistent := by
  intro facts report
  have hfacts : (files.map (·.outcome)).filterMap (·.facts) = facts := List.filterMap_map
  have herrors : (files.map (·.outcome)).filterMap (·.error) = files.filterMap (·.error) :=
    List.filterMap_map
  refine ⟨⟨?_, ?_, ?_, ?_, ?_, ?_⟩, ⟨pairwise_sortByKeys _, pairwise_sortByKeys _,
    pairwise_sortByKeys _, pairwise_sortByKeys _, pairwise_sortByKeys _,
    @pairwise_mergeSort_isLE _ (compareOn FileError.file) _ _⟩,
    fun f hf => consistent_of_mem_merge files entryPoints hf⟩
  · rw [Examined.flatMap_functions]
    exact map_alone_merge_functions files entryPoints
  · rw [← hfacts]
    exact sortByKeys_perm _
  · rw [← hfacts]
    exact sortByKeys_perm _
  · rw [← hfacts]
    exact sortByKeys_perm _
  · rw [← hfacts]
    exact sortByKeys_perm _
  · rw [← herrors]
    exact List.mergeSort_perm _ _

end GoSurvey
