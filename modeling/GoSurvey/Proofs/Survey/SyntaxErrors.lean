import GoSurvey.Proofs.Survey.Files
import GoSurvey.Proofs.Survey.Outcomes

/-!
# Files with syntax errors

If syntax errors are reported and parts of files are not accepted, a file with a syntax error leaves
an entry in the report and no other trace: all else is as if the file were not there. The entries do
not depend on whether parts of files are accepted (`errors_merge_outcomes`), and a survey that gives
up at the first error gives up exactly if there is an entry.
-/

namespace GoSurvey

/-- The same settings with another way to handle syntax errors. -/
def Config.handling (c : Config) (errorPolicy : ErrorPolicy) (acceptPartialParses : Bool) :
    Config :=
  { c with errorPolicy, acceptPartialParses }

/-- A readable file leaves no entry. Any other file leaves one under the path it is reported by. -/
theorem Listed.syntaxError?_cases (root : String) (l : Listed) :
    isReadable l.content = true ∧ l.syntaxError? root = none ∨
      isReadable l.content = false ∧
        ∃ message, l.syntaxError? root = some ⟨l.reported root, .parse, message⟩ := by
  unfold isReadable syntaxError? source
  cases (Go.Source.read l.content).firstError with
  | none => exact .inl ⟨rfl, rfl⟩
  | some place => exact .inr ⟨rfl, _, rfl⟩

/-- A report depends on the facts of the files, but for the errors. -/
theorem merge_eq_of_facts {outcomes outcomes' : List Outcome} (entryPoints : List String)
    (h : outcomes.filterMap (·.facts) = outcomes'.filterMap (·.facts)) :
    merge outcomes entryPoints =
      { merge outcomes' entryPoints with errors := (merge outcomes entryPoints).errors } := by
  simp only [merge, h]
  rfl

section
variable (c : Config) (root : String) (files : List Listed) (entryPoints : List String)

/-- The errors of a report are the entries of the files, sorted by path, whatever else is taken
of the files. -/
theorem errors_merge_outcomes :
    (merge (files.map (c.outcome root)) entryPoints).errors =
      (files.filterMap (·.syntaxError? root)).mergeSort fun a b =>
        (compare a.file b.file).isLE := by
  simp only [merge, Report.sort, List.filterMap_map]
  rfl

/-- If parts of files are not accepted, there are no facts of files with syntax errors. -/
theorem filterMap_facts_outcomes (errorPolicy : ErrorPolicy) :
    (files.map ((c.handling errorPolicy false).outcome root)).filterMap (·.facts) =
      ((files.filter fun l => isReadable l.content).map
        ((c.handling errorPolicy false).outcome root)).filterMap (·.facts) := by
  rw [List.filterMap_map, List.filterMap_map, List.filterMap_filter]
  refine List.filterMap_congr fun l _ => ?_
  cases h : isReadable l.content <;> simp [Config.outcome, Config.takes, Config.handling, h]

/-- Each file that is not readable leaves one entry, and no other file does. -/
theorem map_syntaxErrors :
    (files.filterMap (·.syntaxError? root)).map (fun e => (e.file, e.kind)) =
      (files.filter fun l => !isReadable l.content).map fun l => (l.reported root, .parse) := by
  induction files with
  | nil => rfl
  | cons l files ih =>
    obtain ⟨hread, herror⟩ | ⟨hread, message, herror⟩ := l.syntaxError?_cases root
    · simpa [hread, herror] using ih
    · simpa [hread, herror] using ih

/-- There are no errors if all files are readable. -/
theorem errors_merge_outcomes_eq_nil_iff :
    (merge (files.map (c.outcome root)) entryPoints).errors = [] ↔
      ∀ l ∈ files, isReadable l.content = true := by
  rw [errors_merge_outcomes, ← List.length_eq_zero_iff, List.length_mergeSort,
    List.length_eq_zero_iff, List.filterMap_eq_nil_iff]
  refine forall₂_congr fun l _ => ?_
  obtain ⟨hread, herror⟩ | ⟨hread, message, herror⟩ := l.syntaxError?_cases root
  · simp [hread, herror]
  · simp [hread, herror]

end

namespace Config
variable {c : Config} {patterns : List Glob} (hc : c.check = .ok patterns) (root : String)
  (t : FileTree)
include hc

/-- How syntax errors are handled does not matter for whether settings make sense. -/
theorem survey_handling (errorPolicy : ErrorPolicy) (acceptPartialParses : Bool) :
    (c.handling errorPolicy acceptPartialParses).survey root (.ok t) =
      (c.handling errorPolicy acceptPartialParses).surveyTree patterns root t := by
  have hcheck : (c.handling errorPolicy acceptPartialParses).check = .ok patterns := hc
  simp only [survey, hcheck]

/-- If errors are reported, a survey gives a report. -/
theorem survey_keepGoing (acceptPartialParses : Bool) :
    (c.handling .keepGoing acceptPartialParses).survey root (.ok t) =
      .ok (merge ((t.collect ⟨c.includeTestFiles, patterns⟩ root).map
        ((c.handling .keepGoing acceptPartialParses).outcome root)) c.entryPoints) := by
  rw [survey_handling hc, surveyTree_eq_ok_iff]
  exact ⟨fun l _ => by simp [goesOn, handling], rfl⟩

/-- A survey that gives up at the first error gives a report if all files are readable. -/
theorem survey_failFast_eq_ok_iff (report : Report) :
    (c.handling .failFast false).survey root (.ok t) = .ok report ↔
      (∀ l ∈ t.collect ⟨c.includeTestFiles, patterns⟩ root, isReadable l.content = true) ∧
        (c.handling .keepGoing false).survey root (.ok t) = .ok report := by
  rw [survey_keepGoing hc, survey_handling hc, surveyTree_eq_ok_iff, Except.ok.injEq]
  refine and_congr (forall₂_congr fun l _ => ?_) Iff.rfl
  simp [goesOn, takes, handling]

/-- **A file with a syntax error leaves an entry and no other trace.** If errors are reported and
parts of files are not accepted, the report on a tree is the report on its readable files but for
the errors. These are one entry for each other file, ordered by path, and the same if parts of files
are accepted. A survey that gives up at the first error fails if there are entries, and else gives
the same report. -/
theorem survey_retain_isReadable :
    ∃ report readable lenient,
      (c.handling .keepGoing false).survey root (.ok t) = .ok report ∧
      (c.handling .keepGoing false).survey root (.ok (t.retain isReadable)) = .ok readable ∧
      (c.handling .keepGoing true).survey root (.ok t) = .ok lenient ∧
      report = { readable with errors := report.errors } ∧
      readable.errors = [] ∧
      (report.errors.map fun e => (e.file, e.kind)).Perm
        (((t.collect ⟨c.includeTestFiles, patterns⟩ root).filter fun l =>
          !isReadable l.content).map fun l => (l.reported root, .parse)) ∧
      (report.errors.Pairwise fun e e' => (compare e.file e'.file).isLE = true) ∧
      lenient.errors = report.errors ∧
      ((∃ e, (c.handling .failFast false).survey root (.ok t) = .error e) ↔ report.errors ≠ []) ∧
      (report.errors = [] → (c.handling .failFast false).survey root (.ok t) = .ok report) := by
  have hreport := survey_keepGoing hc root t false
  have hfast := survey_failFast_eq_ok_iff hc root t
  refine ⟨_, _, _, hreport, survey_keepGoing hc root _ false, survey_keepGoing hc root t true,
    ?_, ?_, ?_, ?_, ?_, ?_, ?_⟩
  · rw [FileTree.collect_retain]
    exact merge_eq_of_facts _ (filterMap_facts_outcomes c root _ _)
  · rw [FileTree.collect_retain, errors_merge_outcomes_eq_nil_iff]
    exact fun l hl => (List.mem_filter.1 hl).2
  · rw [errors_merge_outcomes, ← map_syntaxErrors]
    exact (List.mergeSort_perm _ _).map _
  · rw [errors_merge_outcomes]
    exact @pairwise_mergeSort_isLE _ (compareOn FileError.file) _ _
  · rw [errors_merge_outcomes, errors_merge_outcomes]
  · rw [Ne, errors_merge_outcomes_eq_nil_iff]
    cases hsurvey : (c.handling .failFast false).survey root (.ok t) with
    | error e =>
      refine iff_of_true ⟨e, rfl⟩ fun hall => ?_
      rw [(hfast _).2 ⟨hall, hreport⟩] at hsurvey
      cases hsurvey
    | ok report =>
      exact iff_of_false (fun ⟨e, he⟩ => nomatch he) (not_not_intro ((hfast _).1 hsurvey).1)
  · rw [errors_merge_outcomes_eq_nil_iff]
    exact fun hall => (hfast _).2 ⟨hall, hreport⟩

omit hc in
/-- A tree with a file that starts with a closing brace, and an empty file. -/
theorem survey_retain_isReadable_two_files :
    ({} : Config).check = .ok [] ∧
      ∃ report, (handling {} .keepGoing false).survey "r" (.ok (.directory "r"
          [.file "b.go" [125], .file "a.go" []])) = .ok report ∧
        report.errors.map (fun e => (e.file, e.kind)) = [("b.go", .parse)] ∧
        ∃ e, (handling {} .failFast false).survey "r" (.ok (.directory "r"
          [.file "b.go" [125], .file "a.go" []])) = .error e := by
  have hcheck : ({} : Config).check = .ok [] := rfl
  have haccepts : (FileTree.listFrom [] (.directory "r"
      [.file "b.go" [125], .file "a.go" []])).filter (Filter.accepts ⟨false, []⟩ "r") =
        [⟨["b.go"], [125]⟩, ⟨["a.go"], []⟩] := by decide +kernel
  have horder : namesLE ["b.go"] ["a.go"] = false := by decide +kernel
  have hbrace : isReadable [125] = false := by decide +kernel
  have hempty : isReadable [] = true := by decide +kernel
  have hreported : Listed.reported "r" ⟨["b.go"], [125]⟩ = "b.go" := by decide +kernel
  obtain ⟨report, _, _, hreport, -, -, -, -, herrors, -, -, hfast, -⟩ :=
    survey_retain_isReadable hcheck "r" (.directory "r" [.file "b.go" [125], .file "a.go" []])
  have hentries : report.errors.map (fun e => (e.file, e.kind)) = [("b.go", .parse)] := by
    simpa [FileTree.collect, haccepts, List.mergeSort, horder, hbrace, hempty, hreported]
      using herrors
  refine ⟨hcheck, report, hreport, hentries, hfast.2 fun hnil => ?_⟩
  rw [hnil] at hentries
  cases hentries

end Config

end GoSurvey
