import GoSurvey.Config.Yaml
import GoSurvey.FileTree

/-!
# Finding settings

Settings are looked for directly in a directory, under two names.
-/

namespace GoSurvey.Config

/-- The names of files with settings; the first one found counts. -/
def fileNames : List String :=
  ["codescan.yaml", ".codescan.yaml"]

/-- The first file with settings in a directory, by name and content. -/
def file? (t : FileTree) : Option (String × List UInt8) :=
  fileNames.findSome? fun name =>
    ((t.child? (.ofString name)).bind (·.content?)).map fun content => (name, content)

/-- The settings found in a directory, with the name of their file. -/
def discover (t : FileTree) : Option (String × Except Error Config) :=
  (file? t).map fun (name, content) => (name, load content)

end GoSurvey.Config
