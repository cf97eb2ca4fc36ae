import GoSurvey.FileName
import GoSurvey.Path

/-!
# Names of Go files
-/

namespace GoSurvey.Go

/-- The name of the language. -/
def language : String := "go"

/-- The extensions of source files. -/
def extensions : List String := ["go"]

/-- Whether files with an extension are source files. -/
def handles (extension : String) : Bool :=
  extensions.contains extension

/-- Whether a name is that of a test file. A name that is no text never is. -/
def isTestName (name : FileName) : Bool :=
  name.text?.any (·.endsWith "_test.go")

/-- Whether a path leads to a test file. Paths are texts; names that need not be are left to
`isTestName`. -/
def isTestFile (path : String) : Bool :=
  (Path.fileName? path).any (isTestName ·)

end GoSurvey.Go
