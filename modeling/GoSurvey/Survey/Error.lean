import GoSurvey.Record

/-!
# Failures of a survey

A file that cannot be read or parsed concerns only itself, and can become an entry of the report.
All other failures end a survey.
-/

namespace GoSurvey

/-- A failure. -/
inductive SurveyError where
  | walk (root message : String)
  | read (path message : String)
  | parse (path message : String)
  | frontEnd (language message : String)
  | config (path message : String)
deriving DecidableEq, Repr, Inhabited

namespace SurveyError

/-- A failure in words. -/
def message : SurveyError → String
  | .walk root message => s!"failed to walk {root}: {message}"
  | .read path message => s!"failed to read {path}: {message}"
  | .parse path message => s!"failed to parse {path}: {message}"
  | .frontEnd language message => s!"{language} front-end unavailable: {message}"
  | .config path message => s!"invalid configuration {path}: {message}"

/-- The entry of the report for a failure that concerns a single file. -/
def toFileError? (file : String) : SurveyError → Option FileError
  | .read _ message => some ⟨file, .io, message⟩
  | .parse _ message => some ⟨file, .parse, message⟩
  | _ => none

/-- Whether a survey can go on after a failure. -/
def isRecoverable : SurveyError → Bool
  | .read _ _ => true
  | .parse _ _ => true
  | _ => false

end SurveyError

end GoSurvey
