import GoSurvey.Metric.Halstead
import GoSurvey.Metric.Maintainability

/-!
# Metrics of a function

All counts fit into thirty-two bits. The maintainability index is filled in last, because it depends
on whether the function repeats another one.
-/

namespace GoSurvey

/-- How much control flow a reader has to follow. -/
structure Cognitive where
  score : Nat
  nestedDepth : Nat
  logicalOps : Nat
  branchingScore : Nat
deriving DecidableEq, Repr, Inhabited

/-- How a body is laid out. -/
structure Readability where
  nestingDepth : Nat
  commentDensity : Float
  branchDensity : Float
deriving Inhabited

/-- Everything measured about a function. -/
structure Metrics where
  cyclomaticComplexity : Nat
  linesOfCode : Nat
  isDuplicate : Bool
  isUnused : Bool
  halstead : Halstead
  cognitive : Cognitive
  readability : Readability
  maintainabilityIndex : Float
deriving Inhabited

namespace Metrics

/-- The metrics of a function without a usable body. -/
def zeroed : Metrics where
  cyclomaticComplexity := 1
  linesOfCode := 0
  isDuplicate := false
  isUnused := false
  halstead := ⟨0.0, 0.0, 0.0⟩
  cognitive := ⟨0, 0, 0, 0⟩
  readability := ⟨0, 0.0, 0.0⟩
  maintainabilityIndex := 0.0

/-- Whether metrics come from a body: only a body has lines. -/
def isMeasured (m : Metrics) : Bool :=
  0 < m.linesOfCode

/-- What the maintainability index goes by. -/
def maintainability (m : Metrics) : Maintainability Float where
  linesOfCode := m.linesOfCode
  cyclomaticComplexity := m.cyclomaticComplexity
  commentDensity := m.readability.commentDensity
  nestingDepth := m.readability.nestingDepth
  branchDensity := m.readability.branchDensity
  isDuplicate := m.isDuplicate

/-- The metrics with the maintainability index filled in. -/
def finalize (m : Metrics) : Metrics :=
  { m with maintainabilityIndex := m.maintainability.index }

end Metrics

end GoSurvey
