import GoSurvey.Facts
import GoSurvey.Fingerprint.Detector
import GoSurvey.Graph.CallGraph
import GoSurvey.Report.Basic

/-!
# From files to a report

`merge` puts the facts of all files together. The order of the files decides which one of several
equal functions counts as the first; all else depends only on the records.
-/

namespace GoSurvey

/-- What came of a file. -/
structure Outcome where
  facts : Option FileFacts := none
  error : Option FileError := none
deriving Inhabited

namespace FunctionRecord

/-- A function for which it is known whether it repeats an earlier one. Metrics that were not taken
stay zero, the maintainability included. -/
def settle (isDuplicate : Bool) (f : FunctionRecord) : FunctionRecord :=
  let f := ({ f with metrics.isDuplicate := isDuplicate } : FunctionRecord).syncMetrics
  if f.metrics.isMeasured then { f with metrics := f.metrics.finalize } else f

end FunctionRecord

/-- Settles functions in order. One without a fingerprint keeps its flag and is not remembered. -/
def settleAll (d : Detector) : List FunctionRecord → List FunctionRecord
  | [] => []
  | f :: fs =>
    match f.fingerprint with
    | none => f.settle f.metrics.isDuplicate :: settleAll d fs
    | some text =>
      let (seen, d) := d.check text
      f.settle seen :: settleAll d fs

/-- The methods that a file declares. -/
def FileFacts.methodSets (facts : FileFacts) : List MethodSet :=
  facts.methodsByStruct.map fun (receiver, method) => ⟨facts.package, receiver, [method]⟩

/-- The report on some files. -/
def merge (outcomes : List Outcome) (entryPoints : List String) : Report :=
  let files := outcomes.filterMap (·.facts)
  let functions := settleAll .empty (files.flatMap (·.functions))
  let graph := CallGraph.build functions
  let structs := files.flatMap (·.structs)
  let interfaces := files.flatMap (·.interfaces)
  Report.sort {
    functions := graph.markUnused (graph.markRecursion functions) entryPoints
    structs
    interfaces
    globals := files.flatMap (·.globals)
    imports := files.flatMap (·.imports)
    implements := inferImplements structs interfaces (files.flatMap (·.methodSets))
    errors := outcomes.filterMap (·.error) }

end GoSurvey
