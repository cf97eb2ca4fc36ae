import GoSurvey.Proofs.Go.Conformance.Lowering
import GoSurvey.Proofs.Metric.Walk
import GoSurvey.Proofs.Survey.Measured
import GoSurvey.Proofs.Survey.Outcomes

/-!
# Which functions a survey leaves unmeasured

A body is measured unless there is an error node in it, and without a syntax error in the source
there is none (`isError_of_isReadable`). A survey that does not accept parts of files takes its
functions from such sources only, so the functions in its report with the zeroed metrics are those
that are declared without a body (`Config.survey_zeroed_iff`).

A measured function never looks like one of them, not even if the number of its lines is too large
to be counted: its body counts as a block (`measure_ne_zeroed`).
-/

namespace GoSurvey

/-! ## Sources -/

/-- A source without syntax errors is readable. -/
theorem isReadable_of_hasErrors {bytes : List UInt8}
    (h : (Go.Source.read bytes).hasErrors = false) : isReadable bytes = true := by
  rw [isReadable, Go.Source.firstError_of_hasErrors h]
  rfl

section
variable {bytes : List UInt8} (hread : isReadable bytes = true) {path : String} {decl : FuncDecl}
  (hdecl : decl ∈ ((Go.Source.read bytes).toSourceFile path).functions)
include hread hdecl

/-- There is no error node in a body of a readable source, and measuring the body finds none. -/
theorem isError_of_isReadable {body : Block} (hbody : decl.body = some body) :
    (Node.preorderBlock body).any Node.isError = false ∧ (measure body).hasErrors = false := by
  have herror := Go.Source.any_isError_body (Option.isNone_iff_eq_none.1 hread) hdecl hbody
  rw [hasErrors_measure (Go.Source.plain_body hdecl hbody)]
  exact ⟨herror, herror⟩

/-- All bodies of a readable source are readable. -/
theorem readableBody?_eq_none_iff_of_isReadable : decl.readableBody? = none ↔ decl.body = none := by
  rw [FuncDecl.readableBody?_eq_none_iff hdecl, Option.eq_none_iff_forall_ne_some]
  refine forall_congr' fun body => ⟨fun herror hbody => ?_, fun hne hbody => absurd hbody hne⟩
  rw [(isError_of_isReadable hread hdecl hbody).1] at herror
  cases herror hbody

end

/-! ## Functions -/

/-- A body is a block, so that it has some depth. -/
theorem measure_ne_zeroed (body : Block) :
    (measure body).metrics.readability.nestingDepth ≠ Metrics.zeroed.readability.nestingDepth := by
  change (Tally.ofBody body).blockDepth ≠ 0
  rw [Tally.blockDepth_ofBody]
  cases body
  exact Nat.ne_of_gt (Nat.add_pos_left Nat.one_pos _)

/-- A reported function has the zeroed metrics exactly if it has no readable body. -/
theorem FuncDecl.Extracted.zeroed_iff {decl : FuncDecl} {f : FunctionRecord}
    (h : decl.Extracted f) {isDuplicate : Bool}
    (hflag : isDuplicate = true → ∃ text, f.fingerprint = some text)
    (functions : List FunctionRecord) (entryPoints : List String) :
    let f' := (f.settle isDuplicate).marked functions entryPoints
    f'.metrics = { Metrics.zeroed with isUnused := f'.metrics.isUnused } ↔
      decl.readableBody? = none := by
  intro f'
  refine ⟨fun hzeroed => ?_, fun hnone => (h.zeroed hnone hflag functions entryPoints).1⟩
  have hdepth : f.metrics.readability.nestingDepth =
      Metrics.zeroed.readability.nestingDepth := by
    have hdepth := congrArg (·.readability.nestingDepth) hzeroed
    simpa only [f', FunctionRecord.settle_eq, FunctionRecord.marked] using hdepth
  rw [h.metrics_eq] at hdepth
  cases hbody : decl.readableBody? with
  | none => rfl
  | some body =>
    rw [hbody] at hdepth
    exact absurd hdepth (measure_ne_zeroed body)

/-! ## Surveys -/

/-- The functions that a file declares. -/
def Listed.functions (root : String) (l : Listed) : List FuncDecl :=
  (l.source.toSourceFile (l.path root)).functions

/-- A function that is reported as it was extracted, but for what depends on other functions, and
that has the zeroed metrics exactly if it has no body. -/
structure FuncDecl.ReportedWhole (decl : FuncDecl) (f : FunctionRecord) : Prop where
  extracted : decl.Extracted f.alone
  zeroed_iff : f.metrics = { Metrics.zeroed with isUnused := f.metrics.isUnused } ↔
    decl.body = none

theorem FuncDecl.ReportedWhole.name_eq {decl : FuncDecl} {f : FunctionRecord}
    (h : decl.ReportedWhole f) : f.name = decl.name := by
  obtain ⟨file, package, refs, params, returns, heq⟩ := h.extracted
  exact congrArg (·.name) heq

/-- If all bodies of some files are readable, only functions without a body are reported with the
zeroed metrics. -/
theorem forall₂_reportedWhole (files : List Examined) (entryPoints : List String)
    (hbodies : ∀ decl ∈ files.flatMap (·.decls), decl.readableBody? = none ↔ decl.body = none) :
    List.Forall₂ FuncDecl.ReportedWhole (files.flatMap (·.decls))
      (settledFunctions (files.map (·.outcome)) entryPoints) := by
  rw [List.forall₂_iff_get]
  constructor
  · rw [(Examined.forall₂_allFunctions files).length_eq, settledFunctions, settleAll_eq_mapIdx,
      List.length_map, List.length_mapIdx]
  intro i hi hi'
  obtain ⟨g, isDuplicate, functions, hg, hf, hduplicate⟩ :=
    exists_of_getElem?_settledFunctions files entryPoints (List.getElem?_eq_getElem hi)
      (List.getElem?_eq_getElem hi')
  rw [List.get_eq_getElem, List.get_eq_getElem, hf]
  constructor
  · rw [FunctionRecord.alone_settle_marked]
    obtain ⟨file, package, hg⟩ := hg
    exact ⟨file, package, hg.alone_eq.symm ▸ hg⟩
  · rw [← hbodies _ (List.getElem_mem hi)]
    exact hg.zeroed_iff (fun hflag => (hduplicate.1 hflag).imp fun _ => And.right) functions
      entryPoints

namespace Config
variable (c : Config) (root : String)

/-- What is read of a file. -/
def examined (l : Listed) : Examined where
  code := if c.takes l then some (l.source.toSourceFile (l.path root)) else none
  path := l.reported root
  cache := .empty TypeCache.defaultCapacity
  error := l.syntaxError? root

theorem outcome_examined (l : Listed) : (c.examined root l).outcome = c.outcome root l := by
  unfold Examined.outcome Examined.facts? examined outcome
  cases c.takes l <;> rfl

/-- The functions that come into a report are those of the files that are taken. -/
theorem flatMap_decls_examined (files : List Listed) :
    (files.map (c.examined root)).flatMap (·.decls) =
      (files.filter c.takes).flatMap (·.functions root) := by
  induction files with
  | nil => rfl
  | cons l files ih =>
    rw [List.map_cons, List.flatMap_cons, ih, List.filter_cons]
    cases htakes : c.takes l with
    | true => simp [Examined.decls, examined, htakes, Listed.functions]
    | false => simp [Examined.decls, examined, htakes]

/-- A survey gives a report only if the settings make sense and the root can be accessed. -/
theorem survey_eq_ok_iff {found : Except AccessError FileTree} {report : Report} :
    c.survey root found = .ok report ↔
      ∃ patterns t, c.check = .ok patterns ∧ found = .ok t ∧
        c.surveyTree patterns root t = .ok report := by
  unfold survey
  cases c.check with
  | error e => simp
  | ok patterns => cases found <;> simp

/-- **In a survey of whole files, only functions without a body are left unmeasured.** A source
without syntax errors is readable. In a readable source no body contains an error node or a
placeholder for something missing, and measuring a body reports no errors. So in every report of a
survey that does not accept parts of files, the functions are those that the readable files declare,
and the ones with the zeroed metrics, but for the mark of unused functions, are those without a
body. -/
theorem survey_zeroed_iff (hwhole : c.acceptPartialParses = false) :
    (∀ bytes, (Go.Source.read bytes).hasErrors = false → isReadable bytes = true) ∧
    (∀ bytes, isReadable bytes = true → ∀ (path : String),
      ∀ decl ∈ ((Go.Source.read bytes).toSourceFile path).functions,
        ∀ body, decl.body = some body →
          (Node.preorderBlock body).any Node.isError = false ∧
            (measure body).hasErrors = false) ∧
    ∀ found report, c.survey root found = .ok report →
      ∃ patterns t, c.check = .ok patterns ∧ found = .ok t ∧
        ∃ records, report.functions.Perm records ∧
          List.Forall₂ FuncDecl.ReportedWhole
            (((t.collect ⟨c.includeTestFiles, patterns⟩ root).filter fun l =>
              isReadable l.content).flatMap (·.functions root)) records := by
  refine ⟨fun _ => isReadable_of_hasErrors, fun _ hread _ _ hdecl _ =>
    isError_of_isReadable hread hdecl, fun found report hreport => ?_⟩
  obtain ⟨patterns, t, hcheck, rfl, htree⟩ := (c.survey_eq_ok_iff root).1 hreport
  obtain ⟨-, rfl⟩ := (c.surveyTree_eq_ok_iff root).1 htree
  refine ⟨patterns, t, hcheck, rfl, _, merge_functions_perm_settledFunctions _ _, ?_⟩
  have htakes : (fun l : Listed => isReadable l.content) = c.takes := by
    funext l
    rw [takes, hwhole, Bool.false_or]
  rw [htakes, ← c.flatMap_decls_examined root, ← funext (c.outcome_examined root),
    ← Function.comp_def Examined.outcome, ← List.map_map]
  refine forall₂_reportedWhole _ _ fun decl hdecl => ?_
  rw [flatMap_decls_examined, ← htakes] at hdecl
  obtain ⟨l, hl, hdecl⟩ := List.mem_flatMap.1 hdecl
  exact readableBody?_eq_none_iff_of_isReadable (List.mem_filter.1 hl).2 hdecl

/-- A file with a function that loops and branches, and a function without a body. -/
theorem survey_zeroed_iff_two_functions :
    let bytes := ("package p\n" ++
      "func f() \x7b for i := range a \x7b if i \x7b return \x7d \x7d \x7d\n" ++
      "func g()\n").toUTF8.toList
    ({} : Config).acceptPartialParses = false ∧ (Go.Source.read bytes).hasErrors = false ∧
      ∃ report f g, ({} : Config).survey "r" (.ok (.directory "r" [.file "a.go" bytes])) =
          .ok report ∧ report.functions.Perm [f, g] ∧ f.name = "f" ∧ g.name = "g" ∧
        f.metrics ≠ { Metrics.zeroed with isUnused := f.metrics.isUnused } ∧
        g.metrics = { Metrics.zeroed with isUnused := g.metrics.isUnused } := by
  intro bytes
  have hinput : (Go.Source.read bytes).hasErrors = false ∧
      (Listed.functions "r" ⟨["a.go"], bytes⟩).map (fun decl => (decl.name, decl.body.isNone)) =
        [("f", false), ("g", true)] ∧
      (FileTree.listFrom [] (.directory "r" [.file "a.go" bytes])).filter
        (Filter.accepts ⟨false, []⟩ "r") = [⟨["a.go"], bytes⟩] := by
    decide +kernel
  obtain ⟨herrors, hdecls, haccepts⟩ := hinput
  obtain ⟨hreadable, -, hsurvey⟩ := survey_zeroed_iff {} "r" rfl
  have hread := hreadable bytes herrors
  have hfiles : FileTree.collect ⟨false, []⟩ "r" (.directory "r" [.file "a.go" bytes]) =
      [⟨["a.go"], bytes⟩] := by
    rw [FileTree.collect, haccepts, List.mergeSort_singleton]
  obtain ⟨report, hreport⟩ : ∃ report, ({} : Config).survey "r"
      (.ok (.directory "r" [.file "a.go" bytes])) = .ok report :=
    ⟨_, (survey_eq_ok_iff {} "r").2 ⟨[], _, rfl, rfl, (surveyTree_eq_ok_iff {} "r").2
      ⟨fun _ _ => by simp [goesOn], rfl⟩⟩⟩
  obtain ⟨patterns, t, hcheck, ht, records, hperm, hwhole⟩ := hsurvey _ report hreport
  obtain rfl : [] = patterns := Except.ok.inj hcheck
  obtain rfl := Except.ok.inj ht
  have hfilter : [(⟨["a.go"], bytes⟩ : Listed)].filter (fun l => isReadable l.content) =
      [⟨["a.go"], bytes⟩] :=
    List.filter_cons_of_pos hread
  rw [hfiles, hfilter, List.flatMap_singleton] at hwhole
  obtain ⟨decl, decls, hfunctions, hdecl, hdecls⟩ := List.map_eq_cons_iff.1 hdecls
  obtain ⟨decl', decls, rfl, hdecl', hdecls⟩ := List.map_eq_cons_iff.1 hdecls
  obtain rfl := List.map_eq_nil_iff.1 hdecls
  rw [hfunctions] at hwhole
  obtain - | ⟨hf, - | ⟨hg, - | -⟩⟩ := hwhole
  obtain ⟨hname, hbody⟩ := Prod.mk.inj hdecl
  obtain ⟨hname', hbody'⟩ := Prod.mk.inj hdecl'
  rw [Option.isNone_iff_eq_none] at hbody'
  refine ⟨rfl, herrors, report, _, _, hreport, hperm, hf.name_eq.trans hname,
    hg.name_eq.trans hname', fun hzeroed => ?_, hg.zeroed_iff.2 hbody'⟩
  rw [hf.zeroed_iff.1 hzeroed] at hbody
  cases hbody

end Config

end GoSurvey
