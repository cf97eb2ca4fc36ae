import GoSurvey.Report.Basic

/-!
# Summaries

Counts and averages over the functions of a report, and the functions worth a second look.
-/

namespace GoSurvey

/-- How complex a function is. -/
inductive Level where
  | low
  | medium
  | high
deriving DecidableEq, Repr, Inhabited

namespace Level

/-- The greatest cyclomatic complexity that counts as low. -/
def lowLimit : Nat := 5

/-- The greatest cyclomatic complexity that counts as medium. -/
def mediumLimit : Nat := 10

/-- The level of a cyclomatic complexity. -/
def of (complexity : Nat) : Level :=
  if complexity ≤ lowLimit then .low
  else if complexity ≤ mediumLimit then .medium
  else .high

end Level

/-- How many functions there are of each level. -/
structure Distribution where
  low : Nat
  medium : Nat
  high : Nat
deriving DecidableEq, Repr, Inhabited

/-- The distribution of some complexities. -/
def Distribution.of (complexities : List Nat) : Distribution where
  low := complexities.countP (Level.of · = .low)
  medium := complexities.countP (Level.of · = .medium)
  high := complexities.countP (Level.of · = .high)

/-- A reason to look at a function again. -/
inductive Issue where
  | complexity
  | nesting
  | maintainability
  | cognitive
deriving DecidableEq, Repr, Inhabited

/-- The words for an issue. -/
def Issue.text : Issue → String
  | .complexity => "High cyclomatic complexity"
  | .nesting => "Deep nesting"
  | .maintainability => "Low maintainability"
  | .cognitive => "High cognitive complexity"

namespace Metrics

/-- Whether an issue applies. A maintainability that was never computed is no issue. -/
def has (m : Metrics) : Issue → Bool
  | .complexity => 10 < m.cyclomaticComplexity
  | .nesting => 4 < m.readability.nestingDepth
  | .maintainability => m.isMeasured && m.maintainabilityIndex < 50.0
  | .cognitive => 15 < m.cognitive.score

/-- Whether the issues are grave enough; a high cognitive complexity alone is not. -/
def isHot (m : Metrics) : Bool :=
  m.has .complexity || m.has .nesting || m.has .maintainability

/-- All issues that apply. -/
def issues (m : Metrics) : List Issue :=
  [.complexity, .nesting, .maintainability, .cognitive].filter m.has

end Metrics

/-- A function worth a second look. -/
structure Hotspot where
  name : String
  file : String
  complexity : Nat
  maintainability : Float
  issues : List String
deriving Inhabited

namespace Hotspot

/-- The entry for a function. -/
def ofFunction (f : FunctionRecord) : Hotspot where
  name := f.qualifiedName
  file := f.file
  complexity := f.metrics.cyclomaticComplexity
  maintainability := f.metrics.maintainabilityIndex
  issues := f.metrics.issues.map Issue.text

/-- The most complex first, then by name. -/
def order (a b : Hotspot) : Ordering :=
  (compare b.complexity a.complexity).then (compare a.name b.name)

end Hotspot

/-- Counts, averages and hotspots of a report. -/
structure Summary where
  totalFunctions : Nat
  totalLines : Nat
  unusedFunctions : Nat
  recursiveFunctions : Nat
  duplicateFunctions : Nat
  avgComplexity : Float
  avgMaintainability : Float
  avgNestingDepth : Float
  distribution : Distribution
  hotspots : List Hotspot
deriving Inhabited

/-- The mean of some numbers, and zero if there are none. -/
def mean (xs : List Float) : Float :=
  if xs.isEmpty then 0.0 else xs.foldl (· + ·) 0.0 / Float.ofNat xs.length

namespace Report

/-- The summary of a report. Functions that were never measured are counted, but left out of the
mean of the maintainability. -/
def summarize (r : Report) : Summary :=
  let ms := r.functions.map (·.metrics)
  { totalFunctions := r.functions.length
    totalLines := (ms.map (·.linesOfCode)).foldl (· + ·) 0
    unusedFunctions := ms.countP (·.isUnused)
    recursiveFunctions := r.functions.countP (·.isRecursive)
    duplicateFunctions := r.functions.countP (·.isDuplicate)
    avgComplexity := mean (ms.map fun m => Float.ofNat m.cyclomaticComplexity)
    avgMaintainability := mean ((ms.filter (·.isMeasured)).map (·.maintainabilityIndex))
    avgNestingDepth := mean (ms.map fun m => Float.ofNat m.readability.nestingDepth)
    distribution := .of (ms.map (·.cyclomaticComplexity))
    hotspots := ((r.functions.filter (·.metrics.isHot)).map Hotspot.ofFunction).mergeSort
      fun a b => (a.order b).isLE }

end Report

end GoSurvey
