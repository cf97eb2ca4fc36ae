import GoSurvey.Json.Printer
import GoSurvey.Report.Summary

/-!
# Reports as JSON

Each record has `toJson` and `ofJson?`. Reading looks fields up by name and ignores unknown ones; an
array stands for the record whose fields it lists in order. Counts fit into 32 bits, totals into 64.
-/

namespace GoSurvey

namespace Json

/-- A record by its fields: an object, or the values of the first fields in order. -/
def record? (names : List String) : Json → Option Json
  | .object fields => some (.object fields)
  | .array items =>
    if items.length ≤ names.length then some (.object (names.zip items)) else none
  | _ => none

/-- A field that decodes. -/
def field? {α : Type} (j : Json) (key : String) (decode : Json → Option α) : Option α :=
  (j.get? key).bind decode

/-- A count that fits into 32 bits. -/
def toCount? : Json → Option Nat :=
  toNat? (Nat.pow 2 32)

/-- A total that fits into 64 bits. -/
def toTotal? : Json → Option Nat :=
  toNat? (Nat.pow 2 64)

/-- A list of texts. -/
def toStrings? : Json → Option (List String) :=
  toList? toString?

end Json

/-- Halstead's measures as JSON. -/
def Halstead.toJson (h : Halstead) : Json :=
  .object [("volume", .float h.volume), ("difficulty", .float h.difficulty),
    ("effort", .float h.effort)]

/-- Halstead's measures from JSON. -/
def Halstead.ofJson? (j : Json) : Option Halstead := do
  let j ← j.record? ["volume", "difficulty", "effort"]
  return {
    volume := ← j.field? "volume" Json.toFloat?
    difficulty := ← j.field? "difficulty" Json.toFloat?
    effort := ← j.field? "effort" Json.toFloat? }

/-- The cognitive complexity as JSON. -/
def Cognitive.toJson (c : Cognitive) : Json :=
  .object [("score", .nat c.score), ("nested_depth", .nat c.nestedDepth),
    ("logical_ops", .nat c.logicalOps), ("branching_score", .nat c.branchingScore)]

/-- The cognitive complexity from JSON. -/
def Cognitive.ofJson? (j : Json) : Option Cognitive := do
  let j ← j.record? ["score", "nested_depth", "logical_ops", "branching_score"]
  return {
    score := ← j.field? "score" Json.toCount?
    nestedDepth := ← j.field? "nested_depth" Json.toCount?
    logicalOps := ← j.field? "logical_ops" Json.toCount?
    branchingScore := ← j.field? "branching_score" Json.toCount? }

/-- The readability as JSON. -/
def Readability.toJson (r : Readability) : Json :=
  .object [("nesting_depth", .nat r.nestingDepth), ("comment_density", .float r.commentDensity),
    ("branch_density", .float r.branchDensity)]

/-- The readability from JSON. -/
def Readability.ofJson? (j : Json) : Option Readability := do
  let j ← j.record? ["nesting_depth", "comment_density", "branch_density"]
  return {
    nestingDepth := ← j.field? "nesting_depth" Json.toCount?
    commentDensity := ← j.field? "comment_density" Json.toFloat?
    branchDensity := ← j.field? "branch_density" Json.toFloat? }

/-- Metrics as JSON. -/
def Metrics.toJson (m : Metrics) : Json :=
  .object [
    ("cyclomatic_complexity", .nat m.cyclomaticComplexity),
    ("lines_of_code", .nat m.linesOfCode),
    ("is_duplicate", .bool m.isDuplicate),
    ("is_unused", .bool m.isUnused),
    ("halstead_metrics", m.halstead.toJson),
    ("cognitive_complexity", m.cognitive.toJson),
    ("readability", m.readability.toJson),
    ("maintainability_index", .float m.maintainabilityIndex)]

/-- Metrics from JSON. -/
def Metrics.ofJson? (j : Json) : Option Metrics := do
  let j ← j.record? ["cyclomatic_complexity", "lines_of_code", "is_duplicate", "is_unused",
    "halstead_metrics", "cognitive_complexity", "readability", "maintainability_index"]
  return {
    cyclomaticComplexity := ← j.field? "cyclomatic_complexity" Json.toCount?
    linesOfCode := ← j.field? "lines_of_code" Json.toCount?
    isDuplicate := ← j.field? "is_duplicate" Json.toBool?
    isUnused := ← j.field? "is_unused" Json.toBool?
    halstead := ← j.field? "halstead_metrics" Halstead.ofJson?
    cognitive := ← j.field? "cognitive_complexity" Cognitive.ofJson?
    readability := ← j.field? "readability" Readability.ofJson?
    maintainabilityIndex := ← j.field? "maintainability_index" Json.toFloat? }

/-- A function as JSON. -/
def FunctionRecord.toJson (f : FunctionRecord) : Json :=
  .object [
    ("caller", .string f.qualifiedName),
    ("callees", .strings f.callees),
    ("file", .string f.file),
    ("package", .string f.package),
    ("params", .strings f.params),
    ("returns", .strings f.returns),
    ("is_method", .bool f.isMethod),
    ("struct", .string f.receiverStruct),
    ("is_recursive", .bool f.isRecursive),
    ("is_duplicate", .bool f.isDuplicate),
    ("cyclomatic_complexity", .nat f.cyclomaticComplexity),
    ("lines_of_code", .nat f.linesOfCode),
    ("referenced_globals", .strings f.referencedGlobals),
    ("dependencies", .strings f.dependencies),
    ("metrics", f.metrics.toJson)]

/-- A function from JSON. What the report does not show is left empty. -/
def FunctionRecord.ofJson? (j : Json) : Option FunctionRecord := do
  let j ← j.record? ["caller", "callees", "file", "package", "params", "returns", "is_method",
    "struct", "is_recursive", "is_duplicate", "cyclomatic_complexity", "lines_of_code",
    "referenced_globals", "dependencies", "metrics"]
  return {
    qualifiedName := ← j.field? "caller" Json.toString?
    callees := ← j.field? "callees" Json.toStrings?
    file := ← j.field? "file" Json.toString?
    package := ← j.field? "package" Json.toString?
    params := ← j.field? "params" Json.toStrings?
    returns := ← j.field? "returns" Json.toStrings?
    isMethod := ← j.field? "is_method" Json.toBool?
    receiverStruct := ← j.field? "struct" Json.toString?
    isRecursive := ← j.field? "is_recursive" Json.toBool?
    isDuplicate := ← j.field? "is_duplicate" Json.toBool?
    cyclomaticComplexity := ← j.field? "cyclomatic_complexity" Json.toCount?
    linesOfCode := ← j.field? "lines_of_code" Json.toCount?
    referencedGlobals := ← j.field? "referenced_globals" Json.toStrings?
    dependencies := ← j.field? "dependencies" Json.toStrings?
    metrics := ← j.field? "metrics" Metrics.ofJson?
    name := ""
    line := 0
    fingerprint := none }

/-- A struct as JSON. -/
def StructRecord.toJson (s : StructRecord) : Json :=
  .object [("name", .string s.name), ("file", .string s.file), ("package", .string s.package)]

/-- A struct from JSON. -/
def StructRecord.ofJson? (j : Json) : Option StructRecord := do
  let j ← j.record? ["name", "file", "package"]
  return {
    name := ← j.field? "name" Json.toString?
    file := ← j.field? "file" Json.toString?
    package := ← j.field? "package" Json.toString? }

/-- An interface as JSON. -/
def InterfaceRecord.toJson (i : InterfaceRecord) : Json :=
  .object [("name", .string i.name), ("file", .string i.file), ("package", .string i.package),
    ("methods", .strings i.methods)]

/-- An interface from JSON. -/
def InterfaceRecord.ofJson? (j : Json) : Option InterfaceRecord := do
  let j ← j.record? ["name", "file", "package", "methods"]
  return {
    name := ← j.field? "name" Json.toString?
    file := ← j.field? "file" Json.toString?
    package := ← j.field? "package" Json.toString?
    methods := ← j.field? "methods" Json.toStrings? }

/-- A variable or constant as JSON. -/
def GlobalRecord.toJson (g : GlobalRecord) : Json :=
  .object [("name", .string g.name), ("type", .string g.type), ("value", .string g.value),
    ("file", .string g.file), ("package", .string g.package)]

/-- A variable or constant from JSON. -/
def GlobalRecord.ofJson? (j : Json) : Option GlobalRecord := do
  let j ← j.record? ["name", "type", "value", "file", "package"]
  return {
    name := ← j.field? "name" Json.toString?
    type := ← j.field? "type" Json.toString?
    value := ← j.field? "value" Json.toString?
    file := ← j.field? "file" Json.toString?
    package := ← j.field? "package" Json.toString? }

/-- An import as JSON. -/
def ImportRecord.toJson (i : ImportRecord) : Json :=
  .object [("path", .string i.path), ("file", .string i.file), ("package", .string i.package)]

/-- An import from JSON. -/
def ImportRecord.ofJson? (j : Json) : Option ImportRecord := do
  let j ← j.record? ["path", "file", "package"]
  return {
    path := ← j.field? "path" Json.toString?
    file := ← j.field? "file" Json.toString?
    package := ← j.field? "package" Json.toString? }

/-- A covered interface as JSON. -/
def ImplementsRecord.toJson (i : ImplementsRecord) : Json :=
  .object [("struct", .string i.structName), ("interface", .string i.interface)]

/-- A covered interface from JSON. -/
def ImplementsRecord.ofJson? (j : Json) : Option ImplementsRecord := do
  let j ← j.record? ["struct", "interface"]
  return {
    structName := ← j.field? "struct" Json.toString?
    interface := ← j.field? "interface" Json.toString? }

/-- A kind of failure from its word. -/
def FileErrorKind.ofJson? : Json → Option FileErrorKind
  | .string "io" => some .io
  | .string "parse" => some .parse
  | _ => none

/-- A skipped file as JSON. -/
def FileError.toJson (e : FileError) : Json :=
  .object [("file", .string e.file), ("kind", .string e.kind.name), ("message", .string e.message)]

/-- A skipped file from JSON. -/
def FileError.ofJson? (j : Json) : Option FileError := do
  let j ← j.record? ["file", "kind", "message"]
  return {
    file := ← j.field? "file" Json.toString?
    kind := ← j.field? "kind" FileErrorKind.ofJson?
    message := ← j.field? "message" Json.toString? }

/-- An array of records. -/
def Json.ofRecords {α : Type} (encode : α → Json) (records : List α) : Json :=
  .array (records.map encode)

/-- A report as JSON. Without skipped files the field for them is left out. -/
def Report.toJson (r : Report) : Json :=
  .object ([
    ("functions", .ofRecords FunctionRecord.toJson r.functions),
    ("structs", .ofRecords StructRecord.toJson r.structs),
    ("interfaces", .ofRecords InterfaceRecord.toJson r.interfaces),
    ("globals", .ofRecords GlobalRecord.toJson r.globals),
    ("imports", .ofRecords ImportRecord.toJson r.imports),
    ("implements", .ofRecords ImplementsRecord.toJson r.implements)]
    ++ if r.errors.isEmpty then [] else [("errors", .ofRecords FileError.toJson r.errors)])

/-- A report from JSON. -/
def Report.ofJson? (j : Json) : Option Report := do
  let j ← j.record? ["functions", "structs", "interfaces", "globals", "imports", "implements",
    "errors"]
  return {
    functions := ← j.field? "functions" (Json.toList? FunctionRecord.ofJson?)
    structs := ← j.field? "structs" (Json.toList? StructRecord.ofJson?)
    interfaces := ← j.field? "interfaces" (Json.toList? InterfaceRecord.ofJson?)
    globals := ← j.field? "globals" (Json.toList? GlobalRecord.ofJson?)
    imports := ← j.field? "imports" (Json.toList? ImportRecord.ofJson?)
    implements := ← j.field? "implements" (Json.toList? ImplementsRecord.ofJson?)
    errors := ← match j.get? "errors" with
      | none => some []
      | some errors => errors.toList? FileError.ofJson? }

/-- A hotspot as JSON. -/
def Hotspot.toJson (h : Hotspot) : Json :=
  .object [("name", .string h.name), ("file", .string h.file), ("complexity", .nat h.complexity),
    ("maintainability", .float h.maintainability), ("issues", .strings h.issues)]

/-- A hotspot from JSON. -/
def Hotspot.ofJson? (j : Json) : Option Hotspot := do
  let j ← j.record? ["name", "file", "complexity", "maintainability", "issues"]
  return {
    name := ← j.field? "name" Json.toString?
    file := ← j.field? "file" Json.toString?
    complexity := ← j.field? "complexity" Json.toCount?
    maintainability := ← j.field? "maintainability" Json.toFloat?
    issues := ← j.field? "issues" Json.toStrings? }

/-- A distribution as JSON. -/
def Distribution.toJson (d : Distribution) : Json :=
  .object [("Low", .nat d.low), ("Medium", .nat d.medium), ("High", .nat d.high)]

/-- A distribution from JSON. -/
def Distribution.ofJson? (j : Json) : Option Distribution := do
  let j ← j.record? ["Low", "Medium", "High"]
  return {
    low := ← j.field? "Low" Json.toTotal?
    medium := ← j.field? "Medium" Json.toTotal?
    high := ← j.field? "High" Json.toTotal? }

/-- A summary as JSON. -/
def Summary.toJson (s : Summary) : Json :=
  .object [
    ("total_functions", .nat s.totalFunctions),
    ("total_lines", .nat s.totalLines),
    ("unused_functions", .nat s.unusedFunctions),
    ("recursive_functions", .nat s.recursiveFunctions),
    ("duplicate_functions", .nat s.duplicateFunctions),
    ("avg_complexity", .float s.avgComplexity),
    ("avg_maintainability", .float s.avgMaintainability),
    ("avg_nesting_depth", .float s.avgNestingDepth),
    ("complexity_distribution", s.distribution.toJson),
    ("hotspots", .ofRecords Hotspot.toJson s.hotspots)]

/-- A summary from JSON. -/
def Summary.ofJson? (j : Json) : Option Summary := do
  let j ← j.record? ["total_functions", "total_lines", "unused_functions", "recursive_functions",
    "duplicate_functions", "avg_complexity", "avg_maintainability", "avg_nesting_depth",
    "complexity_distribution", "hotspots"]
  return {
    totalFunctions := ← j.field? "total_functions" Json.toTotal?
    totalLines := ← j.field? "total_lines" Json.toTotal?
    unusedFunctions := ← j.field? "unused_functions" Json.toTotal?
    recursiveFunctions := ← j.field? "recursive_functions" Json.toTotal?
    duplicateFunctions := ← j.field? "duplicate_functions" Json.toTotal?
    avgComplexity := ← j.field? "avg_complexity" Json.toFloat?
    avgMaintainability := ← j.field? "avg_maintainability" Json.toFloat?
    avgNestingDepth := ← j.field? "avg_nesting_depth" Json.toFloat?
    distribution := ← j.field? "complexity_distribution" Distribution.ofJson?
    hotspots := ← j.field? "hotspots" (Json.toList? Hotspot.ofJson?) }

end GoSurvey
