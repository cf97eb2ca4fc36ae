/-!
# Halstead measures

A body is read as a sequence of operators and operands. From the number of distinct and of all
occurrences of each come volume, difficulty and effort.
-/

namespace GoSurvey

/-- Volume, difficulty and effort of a body. -/
structure Halstead where
  volume : Float
  difficulty : Float
  effort : Float
deriving Inhabited

namespace Halstead

/-- An operator or operand of a body. -/
inductive Occurrence where
  | operator (symbol : String)
  | operand (name : String)
deriving DecidableEq, Repr

/-- The operators of a sequence of occurrences. -/
def operators (os : List Occurrence) : List String :=
  os.filterMap fun
    | .operator symbol => some symbol
    | .operand _ => none

/-- The operands of a sequence of occurrences. -/
def operands (os : List Occurrence) : List String :=
  os.filterMap fun
    | .operator _ => none
    | .operand name => some name

/-- How often operators and operands occur, distinct ones first. -/
structure Counts where
  distinctOperators : Nat
  distinctOperands : Nat
  totalOperators : Nat
  totalOperands : Nat
deriving DecidableEq, Repr

/-- The counts of a sequence of occurrences. -/
def count (os : List Occurrence) : Counts where
  distinctOperators := (operators os).eraseDups.length
  distinctOperands := (operands os).eraseDups.length
  totalOperators := (operators os).length
  totalOperands := (operands os).length

/-- The measures that belong to counts; a measure that would divide by zero, or take the logarithm
of zero, is zero. -/
def compute (n : Counts) : Halstead :=
  let vocabulary := n.distinctOperators + n.distinctOperands
  let length := Float.ofNat (n.totalOperators + n.totalOperands)
  let volume := if vocabulary = 0 then 0.0 else length * (Float.ofNat vocabulary).log2
  let difficulty :=
    if n.distinctOperands = 0 then 0.0
    else (Float.ofNat n.distinctOperators / 2.0)
      * (Float.ofNat n.totalOperands / Float.ofNat n.distinctOperands)
  { volume, difficulty, effort := difficulty * volume }

end Halstead

end GoSurvey
