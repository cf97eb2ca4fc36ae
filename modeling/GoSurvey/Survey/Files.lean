import GoSurvey.FileTree
import GoSurvey.Glob.Basic
import GoSurvey.Go.FileName

/-!
# The files of a survey

`FileTree.collect` lists the source files below a root. Hidden directories and directories with code
of others are not entered, unless one of them is the root itself. Test files and excluded paths are
left out as the filter says. The files come in the order of their paths, component by component.

The path of the root is a text. The names below it are bytes, which are looked at as they are where
the filter asks for the end of a name, and are shown as texts in paths.
-/

namespace GoSurvey

/-- A regular file and the names that lead to it from the root; there are none if the root itself is
the file. -/
structure Listed where
  names : List FileName
  content : List UInt8
deriving DecidableEq, Repr, Inhabited

namespace Listed

/-- The texts by which the names are shown. -/
def shown (l : Listed) : List String :=
  l.names.map (·.shown)

/-- The path by which a file is shown. -/
def path (root : String) (l : Listed) : String :=
  l.shown.foldl Path.join root

/-- The file name of a file: the last name that leads to it, or that of the root. -/
def fileName? (root : String) (l : Listed) : Option FileName :=
  l.names.getLast?.or ((Path.fileName? root).map (.ofString ·))

/-- The path under which a file is reported. -/
def reported (root : String) (l : Listed) : String :=
  Path.relative root (l.path root)

end Listed

/-- Directories that are not entered, besides the hidden ones. -/
def skippedDirectories : List String :=
  ["vendor", "node_modules", "testdata"]

/-- Whether a directory below the root is not entered. -/
def isSkipped (name : FileName) : Bool :=
  name.shown.startsWith "." || skippedDirectories.contains name.shown

/-- Whether names come before others, or are the same: the first difference decides. -/
def namesLE : List FileName → List FileName → Bool
  | [], _ => true
  | _ :: _, [] => false
  | a :: as, b :: bs => if a == b then namesLE as bs else compare a b == .lt

/-- Which source files to take. -/
structure Filter where
  includeTestFiles : Bool
  excluded : List Glob

/-- Whether a file is taken. -/
def Filter.accepts (f : Filter) (root : String) (l : Listed) : Bool :=
  (l.fileName? root).any (Go.handles ·.extension) &&
    (f.includeTestFiles || !(l.fileName? root).any Go.isTestName) &&
    !f.excluded.any (·.isMatch (l.reported root))

namespace FileTree

mutual
/-- All files in a tree, whose root is reached by `names`, latest first. -/
def listFrom (names : List FileName) : FileTree → List Listed
  | .file _ content => [⟨names.reverse, content⟩]
  | .directory _ children => listBelow names children

/-- All files in what a directory holds. -/
def listBelow (names : List FileName) : List FileTree → List Listed
  | [] => []
  | t :: ts =>
    (if t.isDirectory && isSkipped t.name then [] else listFrom (t.name :: names) t) ++
      listBelow names ts
end

/-- The files to survey, in the order of their paths. -/
def collect (f : Filter) (root : String) (t : FileTree) : List Listed :=
  ((listFrom [] t).filter (f.accepts root)).mergeSort fun a b => namesLE a.names b.names

end FileTree

end GoSurvey
