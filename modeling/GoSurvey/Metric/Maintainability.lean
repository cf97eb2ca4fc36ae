/-!
# The maintainability index

The index starts at one hundred, loses points for size and complexity, gains some for comments, and
is then scaled down for repetition, deep nesting and dense branching. The formula makes sense over
any kind of number; the survey takes doubles.
-/

namespace GoSurvey

/-- What the index of a function depends on. -/
structure Maintainability (α : Type) where
  linesOfCode : Nat
  cyclomaticComplexity : Nat
  commentDensity : α
  nestingDepth : Nat
  branchDensity : α
  isDuplicate : Bool

namespace Maintainability

variable {α : Type} [Add α] [Sub α] [Mul α] [Div α] [LT α] [DecidableLT α] [NatCast α]

/-- The smaller of two numbers. -/
def least (x y : α) : α :=
  if x < y then x else y

/-- The decimal fraction `n / 10`. -/
def tenths (n : Nat) : α :=
  (n : α) / (10 : Nat)

/-- The index before any scaling. At most a hundred lines, fifty decisions and four comments in ten
lines count. -/
def base (m : Maintainability α) : α :=
  (100 : Nat)
    - (20 : Nat) * ((min m.linesOfCode 100 : Nat) : α) / (100 : Nat)
    - (30 : Nat) * ((min m.cyclomaticComplexity 50 : Nat) : α) / (50 : Nat)
    + (10 : Nat) * least m.commentDensity (tenths 4)

/-- Scales a number down if a condition holds. -/
def scaleIf (condition : Bool) (factor x : α) : α :=
  if condition then x * factor else x

/-- The index: the base value scaled for repetition, for more than three nested blocks, and for
more than one branch in two lines. -/
def index (m : Maintainability α) : α :=
  scaleIf (tenths 5 < m.branchDensity) (tenths 9)
    (scaleIf (3 < m.nestingDepth) (tenths 9)
      (scaleIf m.isDuplicate (tenths 8) m.base))

end Maintainability

instance natCastFloat : NatCast Float := ⟨Float.ofNat⟩

end GoSurvey
