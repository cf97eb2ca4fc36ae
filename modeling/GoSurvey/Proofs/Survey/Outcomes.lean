import GoSurvey.Proofs.Facts
import GoSurvey.Survey.Basic

/-!
# What comes of each file

Files are read one after the other with a common cache of types, but what comes of a file depends on
nothing else than the file and the settings (`Config.outcome`). A survey that does not have to give
up at some file is a report on these outcomes (`Config.surveyTree_eq_ok_iff`).
-/

namespace GoSurvey

/-- Whether a content has no syntax error with a place. -/
def isReadable (content : List UInt8) : Bool :=
  (Go.Source.read content).firstError.isNone

namespace Listed

/-- A file as a source. -/
def source (l : Listed) : Go.Source :=
  Go.Source.read l.content

/-- The facts of a file, extracted with a new cache. -/
def facts (root : String) (l : Listed) : FileFacts :=
  (FileFacts.extract (l.source.toSourceFile (l.path root)) (l.reported root)
    (.empty TypeCache.defaultCapacity)).1

/-- The entry of a report for a file with a syntax error. -/
def syntaxError? (root : String) (l : Listed) : Option FileError :=
  l.source.firstError.map fun place => ⟨l.reported root, .parse, syntaxErrorMessage place⟩

end Listed

/-- Something is made of a good result only. -/
theorem except_map_eq_ok_iff {ε α β : Type} {f : α → β} {x : Except ε α} {b : β} :
    x.map f = .ok b ↔ ∃ a, x = .ok a ∧ f a = b := by
  cases x <;> simp [Except.map]

namespace Config

/-- Whether the facts of a file go into the report. -/
def takes (c : Config) (l : Listed) : Bool :=
  c.acceptPartialParses || isReadable l.content

/-- Whether a survey goes on after a file. -/
def goesOn (c : Config) (l : Listed) : Bool :=
  c.takes l || c.errorPolicy == .keepGoing

/-- What comes of a file if the survey goes on. -/
def outcome (c : Config) (root : String) (l : Listed) : Outcome where
  facts := if c.takes l then some (l.facts root) else none
  error := l.syntaxError? root

variable (c : Config) (root : String)

/-- What comes of a file does not depend on the cache, and the next file finds a faithful cache
again. -/
theorem settle_examine (l : Listed) {cache : TypeCache} (hcache : cache.Faithful) :
    (∀ o, c.settle (l.reported root)
        (c.examine (l.path root) (l.reported root) l.content cache).1 = .ok o ↔
          c.goesOn l = true ∧ c.outcome root l = o) ∧
      (c.examine (l.path root) (l.reported root) l.content cache).2.Faithful := by
  obtain ⟨facts, ts, hextract⟩ :=
    FileFacts.extract_steady (l.source.toSourceFile (l.path root)) (l.reported root)
  have hfacts : l.facts root = facts := by
    rw [Listed.facts, hextract _ (TypeCache.faithful_empty _)]
  have hextract := hextract cache hcache
  have hfaithful := hcache.renderAll ts
  have hsource : Go.Source.read l.content = l.source := rfl
  simp only [outcome, goesOn, takes, isReadable, Listed.syntaxError?, hfacts, examine, hsource]
  cases herror : l.source.firstError with
  | none => simp [settle, hextract, hfaithful]
  | some place =>
    -- A file with a syntax error is taken all the same, reported, or the end of the survey.
    cases c.acceptPartialParses with
    | true => simp [settle, hextract, hfaithful, SurveyError.toFileError?]
    | false =>
      cases hpolicy : c.errorPolicy <;>
        simp [settle, hpolicy, hcache, SurveyError.toFileError?]

/-- Files are read to the last one if the survey goes on after each of them. -/
theorem examineAll_eq_ok_iff {ls : List Listed} {cache : TypeCache} (hcache : cache.Faithful)
    {outcomes : List Outcome} :
    c.examineAll root ls cache = .ok outcomes ↔
      (∀ l ∈ ls, c.goesOn l = true) ∧ ls.map (c.outcome root) = outcomes := by
  induction ls generalizing cache outcomes with
  | nil => simp [examineAll]
  | cons l ls ih =>
    obtain ⟨houtcome, hcache⟩ := c.settle_examine root l hcache
    rw [examineAll, List.forall_mem_cons, List.map_cons]
    cases hsettle : c.settle (l.reported root)
        (c.examine (l.path root) (l.reported root) l.content cache).1 with
    | error e =>
      have hstop : c.goesOn l ≠ true := fun hgo => by
        rw [(houtcome _).2 ⟨hgo, rfl⟩] at hsettle
        cases hsettle
      simp [hsettle, hstop]
    | ok o =>
      obtain ⟨hgo, rfl⟩ := (houtcome o).1 hsettle
      simp [hsettle, hgo, except_map_eq_ok_iff, ih hcache, and_assoc]

/-- A survey reports on what comes of each file, unless it gives up at one of them. -/
theorem surveyTree_eq_ok_iff {patterns : List Glob} {t : FileTree} {report : Report} :
    c.surveyTree patterns root t = .ok report ↔
      (∀ l ∈ t.collect ⟨c.includeTestFiles, patterns⟩ root, c.goesOn l = true) ∧
        merge ((t.collect ⟨c.includeTestFiles, patterns⟩ root).map (c.outcome root)) c.entryPoints =
          report := by
  simp only [surveyTree, except_map_eq_ok_iff,
    c.examineAll_eq_ok_iff root (TypeCache.faithful_empty _), and_assoc, exists_and_left,
    exists_eq_left']

end Config

end GoSurvey
