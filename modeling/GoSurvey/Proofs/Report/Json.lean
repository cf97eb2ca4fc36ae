import GoSurvey.Proofs.Json.RoundTrip
import GoSurvey.Report.Json

/-!
# Reports read back

`Json.Shows decode j a` says of a value that it decodes to `a` and that nothing is lost when it is
written as text. It holds of what `toJson` gives for each record, as long as the counts fit into
their width and the doubles are finite (`Report.shows_toJson`, `Summary.shows_toJson`). Hence the
text of a report gives the report back, less what is not shown of its functions, and the text of a
summary gives the summary back (`Json.Shows.parse?`).
-/

namespace GoSurvey

namespace Json

/-- A value can be written without loss, and it decodes to `a`. -/
structure Shows {α : Type} (decode : Json → Option α) (j : Json) (a : α) : Prop where
  exact : j.isExact = true
  decode_eq : decode j = some a

section
variable {α β : Type} {decode : Json → Option α} {j : Json} {a : α}

/-- What a value shows can be read from its text. -/
theorem Shows.parse? (h : Shows decode j a) : (parse? j.pretty).bind decode = some a := by
  rw [parse?_pretty h.exact, Option.bind_some, h.decode_eq]

theorem shows_string (s : String) : Shows toString? (.string s) s :=
  ⟨rfl, rfl⟩

theorem shows_bool (b : Bool) : Shows toBool? (.bool b) b :=
  ⟨rfl, rfl⟩

theorem shows_float {x : Float} (hx : x.isFinite = true) : Shows toFloat? (.float x) x :=
  ⟨hx, rfl⟩

/-- A natural number below a limit of at most sixty-four bits. -/
theorem shows_nat {limit n : Nat} (hlimit : limit ≤ Nat.pow 2 64) (hn : n < limit) :
    Shows (toNat? limit) (.nat n) n := by
  refine ⟨?_, by simp [nat, toNat?, hn]⟩
  have hwide : n < Nat.pow 2 64 := hn.trans_le hlimit
  rw [nat, isExact, Bool.and_eq_true, decide_eq_true_eq, decide_eq_true_eq]
  exact ⟨by omega, by exact_mod_cast hwide⟩

theorem shows_count {n : Nat} (hn : n < Nat.pow 2 32) : Shows toCount? (.nat n) n :=
  shows_nat (by decide) hn

theorem shows_total {n : Nat} (hn : n < Nat.pow 2 64) : Shows toTotal? (.nat n) n :=
  shows_nat le_rfl hn

/-- An array shows the records that its items show. -/
theorem shows_ofRecords {encode : β → Json} {view : β → α} {records : List β}
    (h : ∀ b ∈ records, Shows decode (encode b) (view b)) :
    Shows (toList? decode) (ofRecords encode records) (records.map view) := by
  induction records with
  | nil => exact ⟨rfl, rfl⟩
  | cons b records ih =>
    obtain ⟨hb, hrecords⟩ := List.forall_mem_cons.1 h
    obtain ⟨hexact, hdecode⟩ := ih hrecords
    constructor
    · have hitems : allExact (records.map encode) = true := hexact
      simp [ofRecords, isExact, allExact, hb.exact, hitems]
    · have hitems : (records.map encode).mapM decode = some (records.map view) := hdecode
      simp [ofRecords, toList?, hb.decode_eq, hitems]

/-- An array of records that are shown as they are. -/
theorem shows_ofRecords_self {encode : α → Json} {records : List α}
    (h : ∀ a ∈ records, Shows decode (encode a) a) :
    Shows (toList? decode) (ofRecords encode records) records := by
  have hshows : Shows (toList? decode) (ofRecords encode records) (records.map id) :=
    shows_ofRecords h
  rwa [List.map_id] at hshows

theorem shows_strings (texts : List String) : Shows toStrings? (.strings texts) texts :=
  shows_ofRecords_self fun _ _ => ⟨rfl, rfl⟩

@[simp] theorem isExact_string (s : String) : (string s).isExact = true :=
  rfl

@[simp] theorem isExact_bool (b : Bool) : (bool b).isExact = true :=
  rfl

@[simp] theorem isExact_strings (texts : List String) : (strings texts).isExact = true :=
  (shows_strings texts).exact

@[simp] theorem isExact_object (fields : List (String × Json)) :
    (object fields).isExact = allExactFields fields :=
  rfl

/-- An object is a record as it stands. -/
theorem bind_record? (names : List String) (fields : List (String × Json)) (k : Json → Option β) :
    (record? names (object fields) >>= k) = k (object fields) :=
  rfl

/-- Decoding goes on with what a field shows. -/
theorem Shows.bind_field? (h : Shows decode j a) {fields : List (String × Json)} {key : String}
    (hkey : fields.lookup key = some j) {k : α → Option β} {r : Option β} (hk : k a = r) :
    ((object fields).field? key decode >>= k) = r := by
  rw [field?, get?, hkey, Option.bind_some, h.decode_eq, ← hk]
  rfl

end

end Json

open Json

/-! ## Metrics -/

/-- The doubles among Halstead's measures. -/
def Halstead.floats (h : Halstead) : List Float :=
  [h.volume, h.difficulty, h.effort]

theorem Halstead.shows_toJson {h : Halstead} (hfloats : ∀ x ∈ h.floats, x.isFinite = true) :
    Shows Halstead.ofJson? h.toJson h := by
  replace hfloats := fun x hx => shows_float (hfloats x hx)
  simp only [floats, List.forall_mem_cons] at hfloats
  obtain ⟨hvolume, hdifficulty, heffort, -⟩ := hfloats
  constructor
  · simp [toJson, allExactFields, hvolume.exact, hdifficulty.exact, heffort.exact]
  · rw [toJson, ofJson?, bind_record?]
    exact hvolume.bind_field? rfl <| hdifficulty.bind_field? rfl <| heffort.bind_field? rfl rfl

/-- The counts of the cognitive complexity. -/
def Cognitive.counts (c : Cognitive) : List Nat :=
  [c.score, c.nestedDepth, c.logicalOps, c.branchingScore]

theorem Cognitive.shows_toJson {c : Cognitive} (hcounts : ∀ n ∈ c.counts, n < Nat.pow 2 32) :
    Shows Cognitive.ofJson? c.toJson c := by
  replace hcounts := fun n hn => shows_count (hcounts n hn)
  simp only [counts, List.forall_mem_cons] at hcounts
  obtain ⟨hscore, hdepth, hops, hbranching, -⟩ := hcounts
  constructor
  · simp [toJson, allExactFields, hscore.exact, hdepth.exact, hops.exact, hbranching.exact]
  · rw [toJson, ofJson?, bind_record?]
    exact hscore.bind_field? rfl <| hdepth.bind_field? rfl <| hops.bind_field? rfl <|
      hbranching.bind_field? rfl rfl

theorem Readability.shows_toJson {r : Readability} (hdepth : r.nestingDepth < Nat.pow 2 32)
    (hcomments : r.commentDensity.isFinite = true) (hbranches : r.branchDensity.isFinite = true) :
    Shows Readability.ofJson? r.toJson r := by
  have hdepth := shows_count hdepth
  have hcomments := shows_float hcomments
  have hbranches := shows_float hbranches
  constructor
  · simp [toJson, allExactFields, hdepth.exact, hcomments.exact, hbranches.exact]
  · rw [toJson, ofJson?, bind_record?]
    exact hdepth.bind_field? rfl <| hcomments.bind_field? rfl <| hbranches.bind_field? rfl rfl

namespace Metrics

/-- The counts among the metrics. -/
def counts (m : Metrics) : List Nat :=
  [m.cyclomaticComplexity, m.linesOfCode, m.readability.nestingDepth] ++ m.cognitive.counts

/-- The doubles among the metrics. -/
def floats (m : Metrics) : List Float :=
  [m.maintainabilityIndex, m.readability.commentDensity, m.readability.branchDensity] ++
    m.halstead.floats

theorem shows_toJson {m : Metrics} (hcounts : ∀ n ∈ m.counts, n < Nat.pow 2 32)
    (hfloats : ∀ x ∈ m.floats, x.isFinite = true) : Shows Metrics.ofJson? m.toJson m := by
  simp only [counts, List.forall_mem_append, List.forall_mem_cons] at hcounts
  simp only [floats, List.forall_mem_append, List.forall_mem_cons] at hfloats
  obtain ⟨⟨hcyclomatic, hlines, hdepth, -⟩, hcognitive⟩ := hcounts
  obtain ⟨⟨hindex, hcomments, hbranches, -⟩, hhalstead⟩ := hfloats
  have hcyclomatic := shows_count hcyclomatic
  have hlines := shows_count hlines
  have hhalstead := Halstead.shows_toJson hhalstead
  have hcognitive := Cognitive.shows_toJson hcognitive
  have hreadability := Readability.shows_toJson hdepth hcomments hbranches
  have hindex := shows_float hindex
  constructor
  · simp [toJson, allExactFields, hcyclomatic.exact, hlines.exact, hhalstead.exact,
      hcognitive.exact, hreadability.exact, hindex.exact]
  · rw [toJson, ofJson?, bind_record?]
    exact hcyclomatic.bind_field? rfl <| hlines.bind_field? rfl <|
      (shows_bool _).bind_field? rfl <| (shows_bool _).bind_field? rfl <|
      hhalstead.bind_field? rfl <| hcognitive.bind_field? rfl <|
      hreadability.bind_field? rfl <| hindex.bind_field? rfl rfl

end Metrics

/-! ## Records -/

namespace FunctionRecord

/-- The counts of a function fit into 32 bits, and its doubles are finite. -/
structure Fits (f : FunctionRecord) : Prop where
  counts : ∀ n ∈ [f.cyclomaticComplexity, f.linesOfCode] ++ f.metrics.counts, n < Nat.pow 2 32
  floats : ∀ x ∈ f.metrics.floats, x.isFinite = true

/-- A function without what a report does not show of it. -/
def shown (f : FunctionRecord) : FunctionRecord :=
  { f with name := "", line := 0, fingerprint := none }

theorem shows_toJson {f : FunctionRecord} (h : f.Fits) :
    Shows FunctionRecord.ofJson? f.toJson f.shown := by
  have hcounts := h.counts
  simp only [List.forall_mem_append, List.forall_mem_cons] at hcounts
  obtain ⟨⟨hcyclomatic, hlines, -⟩, hcounts⟩ := hcounts
  have hcyclomatic := shows_count hcyclomatic
  have hlines := shows_count hlines
  have hmetrics := Metrics.shows_toJson hcounts h.floats
  constructor
  · simp [toJson, allExactFields, hcyclomatic.exact, hlines.exact, hmetrics.exact]
  · rw [toJson, ofJson?, bind_record?]
    exact (shows_string _).bind_field? rfl <| (shows_strings _).bind_field? rfl <|
      (shows_string _).bind_field? rfl <| (shows_string _).bind_field? rfl <|
      (shows_strings _).bind_field? rfl <| (shows_strings _).bind_field? rfl <|
      (shows_bool _).bind_field? rfl <| (shows_string _).bind_field? rfl <|
      (shows_bool _).bind_field? rfl <| (shows_bool _).bind_field? rfl <|
      hcyclomatic.bind_field? rfl <| hlines.bind_field? rfl <|
      (shows_strings _).bind_field? rfl <| (shows_strings _).bind_field? rfl <|
      hmetrics.bind_field? rfl rfl

end FunctionRecord

theorem StructRecord.shows_toJson (s : StructRecord) : Shows StructRecord.ofJson? s.toJson s :=
  ⟨rfl, rfl⟩

theorem InterfaceRecord.shows_toJson (i : InterfaceRecord) :
    Shows InterfaceRecord.ofJson? i.toJson i := by
  constructor
  · simp [toJson, allExactFields]
  · rw [toJson, ofJson?, bind_record?]
    exact (shows_string _).bind_field? rfl <| (shows_string _).bind_field? rfl <|
      (shows_string _).bind_field? rfl <| (shows_strings _).bind_field? rfl rfl

theorem GlobalRecord.shows_toJson (g : GlobalRecord) : Shows GlobalRecord.ofJson? g.toJson g :=
  ⟨rfl, rfl⟩

theorem ImportRecord.shows_toJson (i : ImportRecord) : Shows ImportRecord.ofJson? i.toJson i :=
  ⟨rfl, rfl⟩

theorem ImplementsRecord.shows_toJson (i : ImplementsRecord) :
    Shows ImplementsRecord.ofJson? i.toJson i :=
  ⟨rfl, rfl⟩

theorem FileError.shows_toJson (e : FileError) : Shows FileError.ofJson? e.toJson e := by
  obtain ⟨file, kind, message⟩ := e
  cases kind <;> exact ⟨rfl, rfl⟩

/-! ## Reports -/

namespace Report

/-- A report with its functions as they are shown. -/
def shown (r : Report) : Report :=
  { r with functions := r.functions.map FunctionRecord.shown }

theorem shows_toJson {r : Report} (h : ∀ f ∈ r.functions, f.Fits) :
    Shows Report.ofJson? r.toJson r.shown := by
  obtain ⟨functions, structs, interfaces, globals, imports, implements, errors⟩ := r
  have hfunctions := shows_ofRecords fun f hf => FunctionRecord.shows_toJson (h f hf)
  have hstructs := shows_ofRecords_self fun s (_ : s ∈ structs) => s.shows_toJson
  have hinterfaces := shows_ofRecords_self fun i (_ : i ∈ interfaces) => i.shows_toJson
  have hglobals := shows_ofRecords_self fun g (_ : g ∈ globals) => g.shows_toJson
  have himports := shows_ofRecords_self fun i (_ : i ∈ imports) => i.shows_toJson
  have himplements := shows_ofRecords_self fun i (_ : i ∈ implements) => i.shows_toJson
  have herrors := shows_ofRecords_self fun e (_ : e ∈ errors) => e.shows_toJson
  constructor
  · cases errors <;>
      simp [toJson, allExactFields, hfunctions.exact, hstructs.exact, hinterfaces.exact,
        hglobals.exact, himports.exact, himplements.exact, herrors.exact]
  · rw [toJson, ofJson?, bind_record?]
    refine hfunctions.bind_field? rfl <| hstructs.bind_field? rfl <|
      hinterfaces.bind_field? rfl <| hglobals.bind_field? rfl <| himports.bind_field? rfl <|
      himplements.bind_field? rfl ?_
    -- The field for skipped files is there only if there are some.
    cases errors with
    | nil => rfl
    | cons e errors =>
      exact congrArg (· >>= _) herrors.decode_eq

/-- The field for skipped files is left out exactly if there are none. -/
theorem get?_errors_toJson (r : Report) : r.toJson.get? "errors" = none ↔ r.errors = [] := by
  obtain ⟨functions, structs, interfaces, globals, imports, implements, errors⟩ := r
  cases errors with
  | nil => exact iff_of_true rfl rfl
  | cons e errors => exact iff_of_false nofun nofun

/-- A summary does not go by what is not shown. -/
theorem summarize_shown (r : Report) : r.shown.summarize = r.summarize := by
  have hmetrics : r.shown.functions.map (·.metrics) = r.functions.map (·.metrics) := List.map_map
  have hcount : ∀ p : FunctionRecord → Bool, (∀ f, p f.shown = p f) →
      r.shown.functions.countP p = r.functions.countP p := by
    intro p hp
    rw [shown, List.countP_map]
    exact List.countP_congr fun f _ => by simp [hp]
  have hhot : (r.shown.functions.filter (·.metrics.isHot)).map Hotspot.ofFunction =
      (r.functions.filter (·.metrics.isHot)).map Hotspot.ofFunction := by
    rw [shown, List.filter_map, List.map_map]
    rfl
  have hlength : r.shown.functions.length = r.functions.length := List.length_map _
  simp only [summarize, hmetrics, hhot, hlength, hcount (·.isRecursive) fun _ => rfl,
    hcount (·.isDuplicate) fun _ => rfl]

end Report

/-! ## Summaries -/

/-- The count of a hotspot fits into 32 bits, and its double is finite. -/
structure Hotspot.Fits (h : Hotspot) : Prop where
  complexity : h.complexity < Nat.pow 2 32
  maintainability : h.maintainability.isFinite = true

theorem Hotspot.shows_toJson {h : Hotspot} (hfits : h.Fits) : Shows Hotspot.ofJson? h.toJson h := by
  have hcomplexity := shows_count hfits.complexity
  have hmaintainability := shows_float hfits.maintainability
  constructor
  · simp [toJson, allExactFields, hcomplexity.exact, hmaintainability.exact]
  · rw [toJson, ofJson?, bind_record?]
    exact (shows_string _).bind_field? rfl <| (shows_string _).bind_field? rfl <|
      hcomplexity.bind_field? rfl <| hmaintainability.bind_field? rfl <|
      (shows_strings _).bind_field? rfl rfl

/-- The totals of a distribution. -/
def Distribution.totals (d : Distribution) : List Nat :=
  [d.low, d.medium, d.high]

theorem Distribution.shows_toJson {d : Distribution} (htotals : ∀ n ∈ d.totals, n < Nat.pow 2 64) :
    Shows Distribution.ofJson? d.toJson d := by
  replace htotals := fun n hn => shows_total (htotals n hn)
  simp only [totals, List.forall_mem_cons] at htotals
  obtain ⟨hlow, hmedium, hhigh, -⟩ := htotals
  constructor
  · simp [toJson, allExactFields, hlow.exact, hmedium.exact, hhigh.exact]
  · rw [toJson, ofJson?, bind_record?]
    exact hlow.bind_field? rfl <| hmedium.bind_field? rfl <| hhigh.bind_field? rfl rfl

namespace Summary

/-- The totals of a summary, with those of its distribution. -/
def totals (s : Summary) : List Nat :=
  [s.totalFunctions, s.totalLines, s.unusedFunctions, s.recursiveFunctions, s.duplicateFunctions] ++
    s.distribution.totals

/-- The means of a summary. -/
def means (s : Summary) : List Float :=
  [s.avgComplexity, s.avgMaintainability, s.avgNestingDepth]

/-- The totals of a summary fit into 64 bits, its means are finite, and its hotspots fit. -/
structure Fits (s : Summary) : Prop where
  totals : ∀ n ∈ s.totals, n < Nat.pow 2 64
  means : ∀ x ∈ s.means, x.isFinite = true
  hotspots : ∀ h ∈ s.hotspots, h.Fits

theorem shows_toJson {s : Summary} (h : s.Fits) : Shows Summary.ofJson? s.toJson s := by
  have htotals := h.totals
  have hmeans := h.means
  simp only [Summary.totals, List.forall_mem_append] at htotals
  obtain ⟨htotals, hdistribution⟩ := htotals
  replace htotals := fun n hn => shows_total (htotals n hn)
  replace hmeans := fun x hx => shows_float (hmeans x hx)
  simp only [List.forall_mem_cons] at htotals
  simp only [Summary.means, List.forall_mem_cons] at hmeans
  obtain ⟨hfunctions, hlines, hunused, hrecursive, hduplicate, -⟩ := htotals
  obtain ⟨hcomplexity, hmaintainability, hdepth, -⟩ := hmeans
  have hdistribution := Distribution.shows_toJson hdistribution
  have hhotspots := shows_ofRecords_self fun spot hspot =>
    Hotspot.shows_toJson (h.hotspots spot hspot)
  constructor
  · simp [toJson, allExactFields, hfunctions.exact, hlines.exact, hunused.exact,
      hrecursive.exact, hduplicate.exact, hcomplexity.exact, hmaintainability.exact, hdepth.exact,
      hdistribution.exact, hhotspots.exact]
  · rw [toJson, ofJson?, bind_record?]
    exact hfunctions.bind_field? rfl <| hlines.bind_field? rfl <| hunused.bind_field? rfl <|
      hrecursive.bind_field? rfl <| hduplicate.bind_field? rfl <| hcomplexity.bind_field? rfl <|
      hmaintainability.bind_field? rfl <| hdepth.bind_field? rfl <|
      hdistribution.bind_field? rfl <| hhotspots.bind_field? rfl rfl

end Summary

/-! ## Texts -/

/-- The text of a report stands for the report without what is not shown of its functions, whether
or not there are skipped files, and the summary of it is the same. The text of a summary stands for
that summary. -/
theorem parse?_toJson :
    (∀ r : Report, (∀ f ∈ r.functions, f.Fits) →
      (parse? r.toJson.pretty).bind Report.ofJson? = some r.shown ∧
        (r.toJson.get? "errors" = none ↔ r.errors = []) ∧
        r.shown.summarize = r.summarize) ∧
    ∀ s : Summary, s.Fits → (parse? s.toJson.pretty).bind Summary.ofJson? = some s := by
  refine ⟨fun r h => ⟨?_, r.get?_errors_toJson, r.summarize_shown⟩, fun s h => ?_⟩
  · exact (Report.shows_toJson h).parse?
  · exact (Summary.shows_toJson h).parse?

/-- A function whose texts need escapes and whose index has no end in binary. -/
def FunctionRecord.quoted : FunctionRecord :=
  { (default : FunctionRecord) with
    qualifiedName := "main.\"f\""
    params := ["a\\b", "\t\n"]
    metrics := { Metrics.zeroed with linesOfCode := 3, maintainabilityIndex := 0.1 }
    name := "f"
    line := 7
    fingerprint := some "x" }

/-- A report with that function and without skipped files, and a summary with it. -/
theorem parse?_toJson_quoted :
    (∀ f ∈ [FunctionRecord.quoted], f.Fits) ∧
      (parse? (Report.toJson { functions := [.quoted] }).pretty).bind Report.ofJson? =
        some { functions := [FunctionRecord.quoted.shown] } ∧
      ∃ s : Summary, s.Fits ∧ s.hotspots = [.ofFunction .quoted] ∧
        (parse? s.toJson.pretty).bind Summary.ofJson? = some s := by
  have hfits : ∀ f ∈ [FunctionRecord.quoted], f.Fits :=
    List.forall_mem_singleton.2 ⟨by decide, by decide⟩
  have hsummary : Summary.Fits ⟨1, 3, 1, 0, 0, 1.0, 0.1, 0.0, ⟨1, 0, 0⟩, [.ofFunction .quoted]⟩ :=
    ⟨by decide, by decide, List.forall_mem_singleton.2 ⟨by decide, by decide⟩⟩
  exact ⟨hfits, (parse?_toJson.1 { functions := [.quoted] } hfits).1, _, hsummary, rfl,
    parse?_toJson.2 _ hsummary⟩

end GoSurvey
