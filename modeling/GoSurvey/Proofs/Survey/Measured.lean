import GoSurvey.Proofs.Survey.Records
import GoSurvey.Proofs.Survey.Repetition

/-!
# Which functions are measured

A function is measured if it has a body whose code could be read (`FuncDecl.readableBody?`). Nothing
records this: later passes go by the number of lines, which is zero for the other functions only, as
long as a body does not end before it starts. The functions that are not measured keep the zeroed
metrics, and they leave no fingerprint, so that no function counts as repeated because of them
(`FuncDecl.ReportedAs`).

The comments between the clauses of a `switch` or `select` are counted and not looked into. Where an
error node stands among them, a body counts as readable all the same; lowering puts none there
(`FuncDecl.readableBody?_eq_none_iff`).
-/

namespace GoSurvey

namespace FuncDecl

/-- The body of a function if its code could be read. -/
def readableBody? (decl : FuncDecl) : Option Block :=
  decl.body.filter fun body => !Node.isDamagedBlock body

/-- Metrics and fingerprint are taken of readable bodies only. -/
theorem measureBody_eq (decl : FuncDecl) :
    FileFacts.measureBody decl.body =
      ((decl.readableBody?.map fun body => (measure body).metrics).getD .zeroed,
        decl.readableBody?.map canonicalize) := by
  unfold readableBody?
  cases decl.body with
  | none => rfl
  | some body =>
    simp only [FileFacts.measureBody, hasErrors_measure_eq, Option.filter_some]
    cases Node.isDamagedBlock body <;> rfl

/-- In code lowered from a source, a body is readable if there is no error node in it. -/
theorem readableBody?_eq_none_iff {s : Go.Source} {path : String} {decl : FuncDecl}
    (hdecl : decl ∈ (s.toSourceFile path).functions) :
    decl.readableBody? = none ↔
      ∀ body, decl.body = some body → (Node.preorderBlock body).any Node.isError = true := by
  rw [readableBody?, Option.filter_eq_none_iff]
  refine forall₂_congr fun body hbody => ?_
  rw [Node.isDamagedBlock_eq (Go.Source.plain_body hdecl hbody)]
  simp

section
variable {decl : FuncDecl} {f : FunctionRecord}

/-- An extracted function has the metrics of its body. -/
theorem Extracted.metrics_eq (h : decl.Extracted f) :
    f.metrics = (decl.readableBody?.map fun body => (measure body).metrics).getD .zeroed := by
  obtain ⟨file, package, refs, params, returns, rfl⟩ := h
  change (FileFacts.measureBody decl.body).1 = _
  rw [measureBody_eq]

/-- An extracted function has the fingerprint of its body. -/
theorem Extracted.fingerprint_eq (h : decl.Extracted f) :
    f.fingerprint = decl.readableBody?.map canonicalize := by
  obtain ⟨file, package, refs, params, returns, rfl⟩ := h
  change (FileFacts.measureBody decl.body).2 = _
  rw [measureBody_eq]

end

/-- The fingerprints of extracted functions are those of the readable bodies. -/
theorem fingerprints_eq {decls : List FuncDecl} {fs : List FunctionRecord}
    (h : List.Forall₂ Extracted decls fs) :
    fingerprints fs = decls.filterMap fun decl => decl.readableBody?.map canonicalize := by
  induction h with
  | nil => rfl
  | @cons decl f decls fs hf _ ih =>
    rw [fingerprints_cons, ih, hf.fingerprint_eq]
    cases hbody : decl.readableBody? <;> simp [hbody]

/-- The span of the body of a function does not end before it starts, and its lines can be
counted. -/
def HasLines (decl : FuncDecl) : Prop :=
  ∀ body ∈ decl.body, body.span.startLine ≤ body.span.endLine ∧ body.span.lineCount < Nat.pow 2 32

/-- A readable body with lines is measured, and all its lines are counted. -/
theorem HasLines.linesOfCode_eq {decl : FuncDecl} (h : decl.HasLines) {body : Block}
    (hbody : decl.readableBody? = some body) :
    0 < body.span.lineCount ∧ (measure body).metrics.linesOfCode = body.span.lineCount := by
  obtain ⟨hle, hlt⟩ := h body (Option.filter_eq_some_iff.1 hbody).1
  exact ⟨Span.lineCount_pos hle, Nat.mod_eq_of_lt hlt⟩

/-- How a function shows in a report, after the functions of earlier files and the functions before
it in its own file. -/
structure ReportedAs (earlier : List FuncDecl) (decl : FuncDecl) (f : FunctionRecord) : Prop where
  /-- Without what depends on other functions, it is as it was extracted. -/
  extracted : decl.Extracted f.alone
  /-- Without a readable body there are no metrics, but it is known whether it is used. -/
  unreadable : decl.readableBody? = none →
    f.metrics = { Metrics.zeroed with isUnused := f.metrics.isUnused } ∧ f.isDuplicate = false
  /-- A readable body is measured, and the index goes by the flag that is shown. -/
  readable : ∀ body, decl.readableBody? = some body →
    f.metrics.isMeasured = true ∧ f.linesOfCode = body.span.lineCount ∧
      f.metrics.linesOfCode = body.span.lineCount ∧ f.metrics.isDuplicate = f.isDuplicate ∧
      f.metrics.maintainabilityIndex =
        ({ (measure body).metrics with isDuplicate := f.isDuplicate } :
          Metrics).maintainability.index
  /-- It counts as repeated because of an earlier readable body. -/
  isDuplicate_iff : f.isDuplicate = true ↔ ∃ body, decl.readableBody? = some body ∧
    ∃ decl' ∈ earlier, ∃ body', decl'.readableBody? = some body' ∧
      canonicalize body' = canonicalize body

/-- Without a readable body, settling and the marks leave the zeroed metrics, but for the mark of
unused functions: there is no fingerprint that could have been seen. -/
theorem Extracted.zeroed {decl : FuncDecl} {f : FunctionRecord} (h : decl.Extracted f)
    (hnone : decl.readableBody? = none) {isDuplicate : Bool}
    (hflag : isDuplicate = true → ∃ text, f.fingerprint = some text)
    (functions : List FunctionRecord) (entryPoints : List String) :
    let f' := (f.settle isDuplicate).marked functions entryPoints
    f'.metrics = { Metrics.zeroed with isUnused := f'.metrics.isUnused } ∧
      f'.isDuplicate = false := by
  have hflag : isDuplicate = false := by simpa [h.fingerprint_eq, hnone] using hflag
  have hmetrics : f.metrics = .zeroed := by rw [h.metrics_eq, hnone]; rfl
  rw [FunctionRecord.settle_eq]
  simp only [FunctionRecord.marked, hmetrics, hflag]
  exact ⟨rfl, trivial⟩

/-- A function is reported by whether its fingerprint has been seen. -/
theorem Extracted.reportedAs {decl : FuncDecl} {f : FunctionRecord} (h : decl.Extracted f)
    (hlines : decl.HasLines) {earlier : List FuncDecl} {isDuplicate : Bool}
    (hduplicate : isDuplicate = true ↔ ∃ text ∈ earlier.filterMap fun decl =>
      decl.readableBody?.map canonicalize, f.fingerprint = some text)
    (functions : List FunctionRecord) (entryPoints : List String) :
    decl.ReportedAs earlier ((f.settle isDuplicate).marked functions entryPoints) := by
  have hextracted : decl.Extracted ((f.settle isDuplicate).marked functions entryPoints).alone := by
    obtain ⟨file, package, hf⟩ := h
    rw [FunctionRecord.alone_settle_marked, hf.alone_eq]
    exact ⟨file, package, hf⟩
  have hzeroed := fun hnone => h.zeroed hnone
    (fun hflag => (hduplicate.1 hflag).imp fun _ => And.right) functions entryPoints
  rw [h.fingerprint_eq] at hduplicate
  rw [FunctionRecord.settle_eq] at hextracted hzeroed ⊢
  refine ⟨hextracted, hzeroed, fun body hbody => ?_, hduplicate.trans ?_⟩
  · obtain ⟨hpos, hlines⟩ := hlines.linesOfCode_eq hbody
    have hmetrics : f.metrics = (measure body).metrics := by rw [h.metrics_eq, hbody]; rfl
    have hmeasured : (measure body).metrics.isMeasured = true := decide_eq_true (hlines ▸ hpos)
    simp only [FunctionRecord.marked, hmetrics, hmeasured, if_true]
    exact ⟨hmeasured, hlines, hlines, trivial, trivial⟩
  · simp only [List.mem_filterMap, Option.map_eq_some_iff]
    constructor
    · rintro ⟨_, ⟨decl', hmem, body', hbody', rfl⟩, body, hbody, heq⟩
      exact ⟨body, hbody, decl', hmem, body', hbody', heq.symm⟩
    · rintro ⟨body, hbody, decl', hmem, body', hbody', heq⟩
      exact ⟨_, ⟨decl', hmem, body', hbody', rfl⟩, body, hbody, heq.symm⟩

/-- An extracted function does not count as repeated yet. -/
theorem Extracted.metrics_isDuplicate {decl : FuncDecl} {f : FunctionRecord}
    (h : decl.Extracted f) : f.metrics.isDuplicate = false := by
  rw [h.metrics_eq]
  cases decl.readableBody? <;> rfl

end FuncDecl

/-- Each function of a report is extracted from a function of the files, and settled by whether its
fingerprint is one of those before it. -/
theorem exists_of_getElem?_settledFunctions (files : List Examined) (entryPoints : List String)
    {i : Nat} {decl : FuncDecl} {f : FunctionRecord}
    (hdecl : (files.flatMap (·.decls))[i]? = some decl)
    (hf : (settledFunctions (files.map (·.outcome)) entryPoints)[i]? = some f) :
    ∃ g isDuplicate functions, decl.Extracted g ∧
      f = (g.settle isDuplicate).marked functions entryPoints ∧
      (isDuplicate = true ↔ ∃ text ∈ ((files.flatMap (·.decls)).take i).filterMap fun decl =>
        decl.readableBody?.map canonicalize, g.fingerprint = some text) := by
  have hall := Examined.forall₂_allFunctions files
  rw [settledFunctions, settleAll_eq_mapIdx, List.getElem?_map, List.getElem?_mapIdx] at hf
  obtain ⟨_, hsettled, rfl⟩ := Option.map_eq_some_iff.1 hf
  obtain ⟨g, hg, rfl⟩ := Option.map_eq_some_iff.1 hsettled
  have hextracted : decl.Extracted g := by
    obtain ⟨hi, rfl⟩ := List.getElem?_eq_some_iff.1 hdecl
    obtain ⟨hi', rfl⟩ := List.getElem?_eq_some_iff.1 hg
    exact hall.get hi hi'
  refine ⟨g, _, _, hextracted, rfl, ?_⟩
  rw [isRepeated_iff (Detector.holds_feed_empty _) hextracted.metrics_isDuplicate,
    FuncDecl.fingerprints_eq (List.forall₂_take i hall)]
  simp only [List.mem_toFinset]

/-- Each function of the files is reported as it stands among the functions before it. -/
theorem settledFunctions_reportedAs (files : List Examined) (entryPoints : List String)
    (hlines : ∀ e ∈ files, ∀ decl ∈ e.decls, decl.HasLines) {i : Nat} {decl : FuncDecl}
    {f : FunctionRecord} (hdecl : (files.flatMap (·.decls))[i]? = some decl)
    (hf : (settledFunctions (files.map (·.outcome)) entryPoints)[i]? = some f) :
    decl.ReportedAs ((files.flatMap (·.decls)).take i) f := by
  obtain ⟨g, isDuplicate, functions, hextracted, rfl, hduplicate⟩ :=
    exists_of_getElem?_settledFunctions files entryPoints hdecl hf
  obtain ⟨e, he, hmem⟩ := List.mem_flatMap.1 (List.mem_of_getElem? hdecl)
  exact hextracted.reportedAs (hlines e he decl hmem) hduplicate functions entryPoints

/-- **Only readable bodies are measured.** Let any files be extracted and merged in which no body
ends before it starts or has more lines than can be counted. The functions of the report are those
of the files, and each is reported as `FuncDecl.ReportedAs` says: a function without a readable body
has the zeroed metrics but for the mark of unused functions, does not count as repeated and makes no
other function count as repeated; all others are measured with their number of lines and the index
that goes with the flag shown. A body of a parsed source is readable unless there is an error node
in it. -/
theorem merge_reportedAs (files : List Examined) (entryPoints : List String)
    (hlines : ∀ e ∈ files, ∀ decl ∈ e.decls, decl.HasLines) :
    (∃ records, (merge (files.map (·.outcome)) entryPoints).functions.Perm records ∧
      records.length = (files.flatMap (·.decls)).length ∧
      ∀ i (decl : FuncDecl) f, (files.flatMap (·.decls))[i]? = some decl → records[i]? = some f →
        decl.ReportedAs ((files.flatMap (·.decls)).take i) f) ∧
    ∀ (s : Go.Source) (path : String), ∀ decl ∈ (s.toSourceFile path).functions,
      decl.readableBody? = none ↔
        ∀ body, decl.body = some body → (Node.preorderBlock body).any Node.isError = true := by
  refine ⟨⟨_, merge_functions_perm_settledFunctions _ _, ?_, ?_⟩, ?_⟩
  · rw [(Examined.forall₂_allFunctions files).length_eq, settledFunctions, settleAll_eq_mapIdx,
      List.length_map, List.length_mapIdx]
  · exact fun i decl f => settledFunctions_reportedAs files entryPoints hlines
  · exact fun s path decl => FuncDecl.readableBody?_eq_none_iff

/-- A function with some statements in its body, all on one line. -/
def FuncDecl.ofStatements (stmts : List Node) : FuncDecl :=
  ⟨"f", none, [], [], some (.mk ⟨0, 9, 1, 1, 1, 10⟩ stmts), default⟩

/-- A file of functions that differ only in their statements. -/
def Examined.ofStatements (bodies : List (List Node)) : Examined where
  code := some ⟨"a.go", "p", bodies.map fun stmts => .func (.ofStatements stmts), false⟩
  path := "a.go"
  cache := .empty 10
  error := none

/-- A body on one line has that line. -/
theorem FuncDecl.hasLines_ofStatements (stmts : List Node) : (ofStatements stmts).HasLines := by
  intro body hbody
  obtain rfl := Option.some.inj hbody
  exact ⟨Nat.le_refl 1, (by decide : 1 < Nat.pow 2 32)⟩

/-- A function between two others with the same body, with an error node in its own. -/
theorem merge_reportedAs_damaged :
    let e := Examined.ofStatements [[.ident "a"], [.other "ERROR" []], [.ident "a"]]
    (∀ decl ∈ e.decls, decl.HasLines) ∧
    ∃ f g h, (merge [e.outcome] []).functions.Perm [f, g, h] ∧
      f.metrics.isMeasured = true ∧ f.isDuplicate = false ∧
      g.metrics = { Metrics.zeroed with isUnused := g.metrics.isUnused } ∧
      h.metrics.isMeasured = true ∧ h.isDuplicate = true := by
  intro e
  have hlines : ∀ decl ∈ e.decls, decl.HasLines := by
    change ∀ decl ∈ List.map FuncDecl.ofStatements [_, _, _], decl.HasLines
    exact List.forall_mem_map.2 fun stmts _ => FuncDecl.hasLines_ofStatements stmts
  obtain ⟨records, hperm, hlength, hreported⟩ :=
    (merge_reportedAs [e] [] (by simpa using hlines)).1
  obtain ⟨f, g, h, rfl⟩ := List.length_eq_three.1 hlength
  have hf := hreported 0 _ f rfl rfl
  have hg := hreported 1 _ g rfl rfl
  have hh := hreported 2 _ h rfl rfl
  refine ⟨hlines, f, g, h, hperm, (hf.readable _ rfl).1, ?_, (hg.unreadable rfl).1,
    (hh.readable _ rfl).1, ?_⟩
  · refine Bool.eq_false_iff.2 fun hflag => ?_
    obtain ⟨_, _, _, hmem, _⟩ := hf.isDuplicate_iff.1 hflag
    cases hmem
  · exact hh.isDuplicate_iff.2 ⟨_, rfl, _, List.mem_cons_self, _, rfl, rfl⟩

/-- **An error node between the clauses of a `switch` is not seen.** Among the comments there, such
a node does not keep the body from being measured. -/
theorem merge_error_between_clauses :
    let e := Examined.ofStatements [[.switch none none [] [.other "ERROR" []]]]
    (∀ decl ∈ e.decls, decl.HasLines ∧ ∃ body, decl.body = some body ∧
      (Node.preorderBlock body).any Node.isError = true) ∧
    ∃ f, (merge [e.outcome] []).functions = [f] ∧ f.metrics.isMeasured = true ∧
      f.metrics ≠ { Metrics.zeroed with isUnused := f.metrics.isUnused } := by
  intro e
  have hlines : ∀ decl ∈ e.decls, decl.HasLines :=
    List.forall_mem_singleton.2 (FuncDecl.hasLines_ofStatements _)
  refine ⟨List.forall_mem_singleton.2 ⟨FuncDecl.hasLines_ofStatements _, _, rfl, by decide⟩, ?_⟩
  obtain ⟨f, hf⟩ : ∃ f, settledFunctions [e.outcome] [] = [f] := ⟨_, rfl⟩
  have hreported : FuncDecl.ReportedAs [] _ f :=
    settledFunctions_reportedAs [e] [] (by simpa using hlines) (i := 0) rfl (congrArg (·[0]?) hf)
  have hmeasured := (hreported.readable _ rfl).1
  have hperm := merge_functions_perm_settledFunctions [e.outcome] []
  refine ⟨f, List.perm_singleton.1 (hf ▸ hperm), hmeasured, fun hzeroed => ?_⟩
  rw [hzeroed] at hmeasured
  cases hmeasured

end GoSurvey
