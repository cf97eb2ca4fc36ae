import GoSurvey.Config.Basic
import GoSurvey.Yaml.Reader

/-!
# Settings from YAML

Settings are the fields of a mapping. A document with nothing in it has all defaults. Unknown
settings are skipped, and no setting may be given twice.
-/

namespace GoSurvey

namespace Yaml.Value

/-- A truth value, which is a plain scalar. -/
def toBool? : Value → Option Bool
  | .scalar true text =>
    if ["true", "True", "TRUE"].contains text then some true
    else if ["false", "False", "FALSE"].contains text then some false
    else none
  | _ => none

/-- A text: any scalar. -/
def toText? : Value → Option String
  | .scalar _ text => some text
  | _ => none

/-- A list of texts. Nothing stands for the empty list. -/
def toTexts? (v : Value) : Option (List String) :=
  match v with
  | .list items => items.mapM toText?
  | _ => if v.isEmpty then some [] else none

/-- The value of a digit. -/
def digit? (base : Nat) (c : Char) : Option Nat :=
  (hexDigit? c).filter (· < base)

/-- The number written with some digits, of which there is at least one. -/
def number? (base : Nat) (digits : List Char) : Option Nat :=
  if digits.isEmpty then none
  else digits.foldlM (fun n c => (digit? base c).map (n * base + ·)) 0

/-- A whole number that fits into 64 bits: a plain scalar, possibly with a plus sign, with decimal
digits and no needless zeros, or with digits of another base after its mark. -/
def toNat? : Value → Option Nat
  | .scalar true text =>
    let digits :=
      match text.toList with
      | '+' :: rest => rest
      | cs => cs
    let n? :=
      match digits with
      | '0' :: 'x' :: rest => number? 16 rest
      | '0' :: 'o' :: rest => number? 8 rest
      | '0' :: 'b' :: rest => number? 2 rest
      | '0' :: _ :: _ => none
      | _ => number? 10 digits
    n?.filter (· < Nat.pow 2 64)
  | _ => none

/-- A whole number that may be missing. -/
def toNatOption? (v : Value) : Option (Option Nat) :=
  match v with
  | .scalar true text =>
    if ["", "~", "null", "Null", "NULL"].contains text then some none else v.toNat?.map some
  | _ => none

/-- A policy, given by its word. -/
def toPolicy? (v : Value) : Option ErrorPolicy :=
  v.toText?.bind ErrorPolicy.ofName?

end Yaml.Value

namespace Config

/-- Gives a setting a value. -/
def set? (c : Config) (key : String) (v : Yaml.Value) : Option Config :=
  match key with
  | "entry_points" => v.toTexts?.map fun x => { c with entryPoints := x }
  | "include_test_files" => v.toBool?.map fun x => { c with includeTestFiles := x }
  | "excluded_paths" => v.toTexts?.map fun x => { c with excludedPaths := x }
  | "error_policy" => v.toPolicy?.map fun x => { c with errorPolicy := x }
  | "accept_partial_parses" => v.toBool?.map fun x => { c with acceptPartialParses := x }
  | "type_cache_capacity" => v.toNat?.map fun x => { c with typeCacheCapacity := x }
  | "threads" => v.toNatOption?.map fun x => { c with threads := x }
  | _ => some c

/-- Gives several settings their values. -/
def setAll? (seen : List String) (c : Config) : List (String × Yaml.Value) → Option Config
  | [] => some c
  | (key, v) :: rest =>
    if keys.contains key && seen.contains key then none
    else (c.set? key v).bind fun c => setAll? (key :: seen) c rest

/-- Settings from a document. -/
def ofYaml? (v : Yaml.Value) : Option Config :=
  match v with
  | .mapping fields => setAll? [] {} fields
  | _ => if v.isEmpty then some {} else none

/-- Settings from the bytes of a document, checked. -/
def load (content : List UInt8) : Except Error Config :=
  match (String.fromUTF8? ⟨content.toArray⟩).bind Yaml.parse? |>.bind ofYaml? with
  | none => .error .unreadable
  | some c => c.check.map fun _ => c

end Config

end GoSurvey
