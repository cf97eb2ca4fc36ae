import GoSurvey.Config.Basic
import GoSurvey.Report.Json

/-!
# Settings as JSON

A setting that is missing has its default.
-/

namespace GoSurvey

/-- A policy from JSON: its word, or an object with its word as the only field and no value. -/
def ErrorPolicy.ofJson? : Json → Option ErrorPolicy
  | .string s => ofName? s
  | .object [(s, .null)] => ofName? s
  | _ => none

namespace Json

/-- A field that decodes, or a default if there is none. -/
def fieldOr? {α : Type} (j : Json) (key : String) (default : α) (decode : Json → Option α) :
    Option α :=
  match j.get? key with
  | none => some default
  | some value => decode value

/-- A value that may be `null`. -/
def toOption? {α : Type} (decode : Json → Option α) : Json → Option (Option α)
  | .null => some none
  | j => (decode j).map some

end Json

namespace Config

/-- Settings as JSON. -/
def toJson (c : Config) : Json :=
  .object [
    ("entry_points", .strings c.entryPoints),
    ("include_test_files", .bool c.includeTestFiles),
    ("excluded_paths", .strings c.excludedPaths),
    ("error_policy", .string c.errorPolicy.name),
    ("accept_partial_parses", .bool c.acceptPartialParses),
    ("type_cache_capacity", .nat c.typeCacheCapacity),
    ("threads", match c.threads with
      | none => .null
      | some n => .nat n)]

/-- Settings from JSON. -/
def ofJson? (j : Json) : Option Config := do
  let j ← j.record? keys
  let d : Config := {}
  return {
    entryPoints := ← j.fieldOr? "entry_points" d.entryPoints Json.toStrings?
    includeTestFiles := ← j.fieldOr? "include_test_files" d.includeTestFiles Json.toBool?
    excludedPaths := ← j.fieldOr? "excluded_paths" d.excludedPaths Json.toStrings?
    errorPolicy := ← j.fieldOr? "error_policy" d.errorPolicy ErrorPolicy.ofJson?
    acceptPartialParses := ← j.fieldOr? "accept_partial_parses" d.acceptPartialParses Json.toBool?
    typeCacheCapacity := ← j.fieldOr? "type_cache_capacity" d.typeCacheCapacity Json.toTotal?
    threads := ← j.fieldOr? "threads" d.threads (Json.toOption? Json.toTotal?) }

end Config

end GoSurvey
