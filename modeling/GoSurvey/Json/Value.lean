/-!
# JSON values

Whole numbers and numbers with a fraction or an exponent are told apart, because a count accepts
only the former.
-/

namespace GoSurvey

/-- A JSON value. The fields of an object keep their order. -/
inductive Json where
  | null
  | bool (value : Bool)
  | int (value : Int)
  | float (value : Float)
  | string (value : String)
  | array (items : List Json)
  | object (fields : List (String × Json))
deriving Inhabited

namespace Json

/-- The value of an object's field. -/
def get? (key : String) : Json → Option Json
  | .object fields => fields.lookup key
  | _ => none

/-- The value of an object's field, which counts as absent if it is `null`. -/
def present? (key : String) (j : Json) : Option Json :=
  match j.get? key with
  | some .null => none
  | other => other

/-- A truth value. -/
def toBool? : Json → Option Bool
  | .bool b => some b
  | _ => none

/-- A text. -/
def toString? : Json → Option String
  | .string s => some s
  | _ => none

/-- A whole number from zero up to, but not including, `limit`. -/
def toNat? (limit : Nat) : Json → Option Nat
  | .int n => if 0 ≤ n ∧ n.toNat < limit then some n.toNat else none
  | _ => none

/-- A number; a whole one is taken as a double. -/
def toFloat? : Json → Option Float
  | .float x => some x
  | .int n => some (if n < 0 then -Float.ofNat n.natAbs else Float.ofNat n.natAbs)
  | _ => none

/-- The items of an array. -/
def toArray? : Json → Option (List Json)
  | .array items => some items
  | _ => none

/-- A list whose items all decode. -/
def toList? {α : Type} (decode : Json → Option α) : Json → Option (List α)
  | .array items => items.mapM decode
  | _ => none

/-- An array of texts. -/
def strings (texts : List String) : Json :=
  .array (texts.map .string)

/-- A natural number. -/
def nat (n : Nat) : Json :=
  .int n

/-- A value or `null`. -/
def option {α : Type} (encode : α → Json) : Option α → Json
  | none => .null
  | some a => encode a

end Json

end GoSurvey
