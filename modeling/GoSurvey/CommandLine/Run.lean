import GoSurvey.CommandLine.Options
import GoSurvey.Config.Discovery
import GoSurvey.Report.Format
import GoSurvey.Survey.Basic

/-!
# Running a command

A run gets the files it needs from a function that follows paths, and gives the text to print or a
failure.
-/

namespace GoSurvey

/-- Why a run fails. -/
inductive Failure where
  | format (word : String)
  | access (path : String) (error : AccessError)
  | notDirectory (path : String)
  | config (path : String) (error : Config.Error)
  | survey (error : SurveyError)
deriving DecidableEq, Repr, Inhabited

namespace Failure

/-- A failure in words. -/
def message : Failure → String
  | .format word => s!"Error: invalid format {Text.quoted word}, must be 'pretty' or 'json'\n"
  | .access path error => s!"Error: cannot access path {Text.quoted path}: {error.message}\n"
  | .notDirectory path => s!"Error: not a directory: {path}\n"
  | .config path error =>
    let error := SurveyError.config path error.message
    s!"Error: {error.message}\n"
  | .survey error => s!"Error: {error.message}\n"

/-- The exit code of a failed run. -/
def exitCode : Nat := 2

end Failure

/-- What is found at a path: the path without detours, and the file or directory. -/
abbrev Look := String → Except AccessError (String × FileTree)

namespace Options

/-- The settings in a given file. -/
def readConfig (look : Look) (path : String) : Except Failure Config :=
  let loaded :=
    match look path with
    | .ok (_, .file _ content) => Config.load content
    | _ => .error .unreadable
  loaded.mapError (.config path)

/-- The settings for a run: from the file that the options name, else from one in the root, else the
defaults. -/
def settings (o : Options) (look : Look) (root : String) (t : FileTree) : Except Failure Config :=
  match o.config with
  | some path => readConfig look path
  | none =>
    match Config.discover t with
    | none => .ok {}
    | some (name, loaded) => loaded.mapError (.config (Path.join root name))

/-- Surveys the path of the options and writes the report. -/
def run (o : Options) (terminal : Terminal) (look : Look) : Except Failure String := do
  let some format := Format.ofName? o.format | .error (.format o.format)
  let (root, t) ← (look o.path).mapError (.access o.path)
  if !t.isDirectory then .error (.notDirectory root)
  let config ← o.settings look root t
  let report ← (config.survey root (.ok t)).mapError .survey
  return report.write format terminal o.path o.summary

end Options

end GoSurvey
