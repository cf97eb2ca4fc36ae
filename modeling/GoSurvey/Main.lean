import GoSurvey.CommandLine.Run

/-!
# The program

Reads the files that a run may look at, runs it, and prints what it gives.
-/

namespace GoSurvey

/-- What the program says about how to call it. -/
def usageText : String :=
  "Usage: codescan analyze [OPTIONS] <PATH>\n\n" ++
  "Options:\n" ++
  "  -c, --config <CONFIG>  Path to config YAML file (default: auto-discover in the root)\n" ++
  "  -f, --format <FORMAT>  Output format: pretty or json [default: pretty]\n" ++
  "  -s, --summary          Emit the aggregate summary instead of the full report\n" ++
  "  -v, --verbose          Enable debug logging\n" ++
  "  -h, --help             Print help\n"

/-- The text for a command line that asks for no survey. -/
def Usage.text : Usage → String
  | .version => s!"{programName} {programVersion}\n"
  | _ => usageText

/-- Reads a file or a directory with all that a survey may need of it. The system gives names as
texts. -/
partial def readTree (name path : String) : IO FileTree := do
  let place ← IO.FS.realPath path
  if ← place.isDir then
    let mut children := []
    for entry in ← place.readDir do
      if !isSkipped entry.fileName || Config.fileNames.contains entry.fileName then
        children := (← readTree entry.fileName entry.path.toString) :: children
    return .directory name children
  else
    return .file name (← IO.FS.readBinFile place).toList

/-- Reads what is found at a path. -/
def access (path : String) : IO (Except AccessError (String × FileTree)) := do
  try
    let place := (← IO.FS.realPath path).toString
    return .ok (place, ← readTree ((Path.fileName? place).getD "") place)
  catch
    | .inappropriateType .. => return .error .notDirectory
    | _ => return .error .missing

end GoSurvey

open GoSurvey in
/-- Runs the program. -/
def main (args : List String) : IO UInt32 := do
  match Options.parse args with
  | .error usage =>
    if usage.exitCode = 0 then IO.print usage.text else IO.eprint usage.text
    return usage.exitCode.toUInt32
  | .ok options =>
    let found ← access options.path
    let config ← access (options.config.getD "")
    let look := fun path => if some path = options.config then config else found
    match options.run .plain look with
    | .ok text =>
      IO.print text
      return 0
    | .error failure =>
      IO.eprint failure.message
      return Failure.exitCode.toUInt32
