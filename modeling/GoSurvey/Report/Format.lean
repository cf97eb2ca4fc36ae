import GoSurvey.Report.Json
import GoSurvey.Report.Pretty

/-!
# Formats of a report
-/

namespace GoSurvey

/-- How a report is written. -/
inductive Format where
  | pretty
  | json
deriving DecidableEq, Repr, Inhabited

/-- The format that a word stands for. -/
def Format.ofName? : String → Option Format
  | "pretty" => some .pretty
  | "json" => some .json
  | _ => none

/-- A report, or only its summary, in a format. -/
def Report.write (format : Format) (terminal : Terminal) (root : String) (summaryOnly : Bool)
    (r : Report) : String :=
  match format with
  | .pretty => r.pretty terminal root summaryOnly
  | .json =>
    let json := if summaryOnly then r.summarize.toJson else r.toJson
    json.pretty ++ "\n"

end GoSurvey
