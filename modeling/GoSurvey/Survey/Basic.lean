import GoSurvey.Config.Basic
import GoSurvey.Go.Source
import GoSurvey.Survey.Error
import GoSurvey.Survey.Files
import GoSurvey.Survey.Merge

/-!
# Surveys

A survey collects the source files below a root, reads each of them, and merges what they yield.
Files are read one after the other and share the texts of types, which changes none of them.
-/

namespace GoSurvey

/-- The message for a syntax error. -/
def syntaxErrorMessage (place : Nat × Nat) : String :=
  s!"syntax error at {place.1}:{place.2}"

namespace Config

/-- Reads a file. A file with a syntax error fails unless the settings accept parts of it. -/
def examine (c : Config) (path reported : String) (content : List UInt8) (cache : TypeCache) :
    Except SurveyError Outcome × TypeCache :=
  let source := Go.Source.read content
  let error := source.firstError.map fun place => SurveyError.parse path (syntaxErrorMessage place)
  match error, c.acceptPartialParses with
  | some e, false => (.error e, cache)
  | _, _ =>
    let (facts, cache) := FileFacts.extract (source.toSourceFile path) reported cache
    (.ok ⟨some facts, error.bind (·.toFileError? reported)⟩, cache)

/-- Turns the failure of a file into an entry of the report, if the settings say so. -/
def settle (c : Config) (reported : String) : Except SurveyError Outcome →
    Except SurveyError Outcome
  | .ok outcome => .ok outcome
  | .error e =>
    match c.errorPolicy, e.toFileError? reported with
    | .keepGoing, some entry => .ok ⟨none, some entry⟩
    | _, _ => .error e

/-- Reads files one after the other. -/
def examineAll (c : Config) (root : String) : List Listed → TypeCache →
    Except SurveyError (List Outcome)
  | [], _ => .ok []
  | l :: ls, cache =>
    let reported := l.reported root
    let (outcome, cache) := c.examine (l.path root) reported l.content cache
    match c.settle reported outcome with
    | .error e => .error e
    | .ok outcome => (examineAll c root ls cache).map (outcome :: ·)

/-- Surveys a tree of files. -/
def surveyTree (c : Config) (patterns : List Glob) (root : String) (t : FileTree) :
    Except SurveyError Report :=
  let files := t.collect ⟨c.includeTestFiles, patterns⟩ root
  (c.examineAll root files (.empty c.typeCacheCapacity)).map fun outcomes =>
    merge outcomes c.entryPoints

/-- The failure to walk a root that cannot be accessed. -/
def walkError (root : String) (e : AccessError) : SurveyError :=
  .walk root s!"IO error for operation on {root}: {e.message}"

/-- Surveys what is found at a root. The settings are checked first. -/
def survey (c : Config) (root : String) (found : Except AccessError FileTree) :
    Except SurveyError Report :=
  match c.check with
  | .error e => .error (.config "<config>" e.message)
  | .ok patterns =>
    match found with
    | .error e => .error (walkError root e)
    | .ok t => c.surveyTree patterns root t

end Config

end GoSurvey
