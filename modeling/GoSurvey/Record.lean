import GoSurvey.Metric.Basic
import GoSurvey.Text.Uppercase

/-!
# Records

What a survey reports: functions with their calls and metrics, types, globals, imports, which struct
covers which interface, and the files that could not be analysed.
-/

namespace GoSurvey

/-- Whether a name can be seen outside its package: its first letter is a capital one. -/
def isExportedName (name : String) : Bool :=
  match name.toList with
  | [] => false
  | c :: _ => Text.isUppercase c

/-- A function or method. `name`, `line` and `fingerprint` are used by the survey itself and do not
show in the report. -/
structure FunctionRecord where
  qualifiedName : String
  callees : List String
  file : String
  package : String
  params : List String
  returns : List String
  isMethod : Bool
  receiverStruct : String
  isRecursive : Bool
  isDuplicate : Bool
  cyclomaticComplexity : Nat
  linesOfCode : Nat
  referencedGlobals : List String
  dependencies : List String
  metrics : Metrics
  name : String
  line : Nat
  fingerprint : Option String
deriving Inhabited

namespace FunctionRecord

/-- Whether a function can be called from outside its package. -/
def isExported (f : FunctionRecord) : Bool :=
  isExportedName f.name

/-- A function is shown by its name and place. -/
def display (f : FunctionRecord) : String :=
  s!"{f.qualifiedName} ({f.file}:{f.line})"

/-- Copies the metrics that are also shown at the top of a record. -/
def syncMetrics (f : FunctionRecord) : FunctionRecord :=
  { f with
    cyclomaticComplexity := f.metrics.cyclomaticComplexity
    linesOfCode := f.metrics.linesOfCode
    isDuplicate := f.metrics.isDuplicate }

end FunctionRecord

/-- A struct type. -/
structure StructRecord where
  name : String
  file : String
  package : String
deriving DecidableEq, Repr, Inhabited

/-- An interface type with the methods it names. -/
structure InterfaceRecord where
  name : String
  file : String
  package : String
  methods : List String
deriving DecidableEq, Repr, Inhabited

/-- A variable or constant of a package. -/
structure GlobalRecord where
  name : String
  type : String
  value : String
  file : String
  package : String
deriving DecidableEq, Repr, Inhabited

/-- An import of one file. -/
structure ImportRecord where
  path : String
  file : String
  package : String
deriving DecidableEq, Repr, Inhabited

/-- A struct that has all the methods of an interface. -/
structure ImplementsRecord where
  structName : String
  interface : String
deriving DecidableEq, Repr, Inhabited

/-- Why a file was not analysed. -/
inductive FileErrorKind where
  | io
  | parse
deriving DecidableEq, Repr, Inhabited

/-- The word for a kind of failure. -/
def FileErrorKind.name : FileErrorKind → String
  | .io => "io"
  | .parse => "parse"

/-- A file that was not analysed, or not as a whole. -/
structure FileError where
  file : String
  kind : FileErrorKind
  message : String
deriving DecidableEq, Repr, Inhabited

/-- A failure is shown by its file, kind and message. -/
def FileError.display (e : FileError) : String :=
  s!"{e.file} ({e.kind.name}): {e.message}"

end GoSurvey
