import GoSurvey.Code.Node
import GoSurvey.Metric.Basic

/-!
# Measuring a body

One walk over a body fills a tally. The walk carries two levels: `nesting` counts the enclosing
bodies of conditionals, loops, switches and selects, while `depth` counts the enclosing blocks. They
differ: a condition stands at the outer nesting, and a bare block deepens only the blocks.
-/

namespace GoSurvey

/-- What a walk over a body has counted so far. Occurrences are kept in reverse. -/
structure Tally where
  occurrences : List Halstead.Occurrence
  score : Nat
  nestedDepth : Nat
  logicalOps : Nat
  decisions : Nat
  comments : Nat
  branches : Nat
  blockDepth : Nat
  hasErrors : Bool
deriving Inhabited

namespace Tally

/-- Nothing counted yet. -/
def zero : Tally :=
  ⟨[], 0, 0, 0, 0, 0, 0, 0, false⟩

/-- Something stands at the given nesting. -/
def reach (nesting : Nat) (t : Tally) : Tally :=
  { t with nestedDepth := max t.nestedDepth nesting }

/-- A block stands at the given depth. -/
def enter (depth : Nat) (t : Tally) : Tally :=
  { t with blockDepth := max t.blockDepth depth }

/-- One more operator. -/
def operator (symbol : String) (t : Tally) : Tally :=
  { t with occurrences := .operator symbol :: t.occurrences }

/-- One more operand. -/
def operand (name : String) (t : Tally) : Tally :=
  { t with occurrences := .operand name :: t.occurrences }

/-- One more decision. -/
def decide (t : Tally) : Tally :=
  { t with decisions := t.decisions + 1 }

/-- One more branching statement of the given weight. -/
def branch (weight : Nat) (t : Tally) : Tally :=
  { t with branches := t.branches + 1, score := t.score + weight }

/-- More comments. -/
def comment (count : Nat) (t : Tally) : Tally :=
  { t with comments := t.comments + count }

/-- An operator that decides whether its right operand is evaluated. -/
def shortCircuit (t : Tally) : Tally :=
  { t with decisions := t.decisions + 1, logicalOps := t.logicalOps + 1, score := t.score + 1 }

/-- Source that could not be read. -/
def fail (t : Tally) : Tally :=
  { t with hasErrors := true }

mutual
/-- Walks over a node. -/
def node (nesting depth : Nat) : Node → Tally → Tally
  | .ident name, t | .literal name, t => (t.reach nesting).operand name
  | .type type, t => type.names.foldl (fun t name => t.operand name) (t.reach nesting)
  | .comment _, t => (t.reach nesting).comment 1
  | .unary op e, t => node nesting depth e ((t.reach nesting).operator op)
  | .binary op l r, t =>
    let t := (t.reach nesting).operator op
    let t := if Node.isShortCircuit op then t.shortCircuit else t
    node nesting depth r (node nesting depth l t)
  | .call f args, t => nodes nesting depth args (node nesting depth f (t.reach nesting))
  | .selector e field, t => (node nesting depth e (t.reach nesting)).operand field
  | .cond init test body alt, t =>
    let t := ((t.reach nesting).decide).branch 1
    let t := node nesting depth test (optional nesting depth init t)
    alternative (nesting + 1) depth alt (block (nesting + 1) depth body t)
  | .loop init test post body, t =>
    let t := ((t.reach nesting).decide).branch 2
    let t := optional nesting depth test (optional nesting depth init t)
    block (nesting + 1) depth body (optional nesting depth post t)
  | .range left target body, t =>
    let t := ((t.reach nesting).decide).branch 2
    block (nesting + 1) depth body (node nesting depth target (optional nesting depth left t))
  | .switch init tag cs comments, t =>
    let t := (t.reach nesting).branch 1
    let t := optional nesting depth tag (optional nesting depth init t)
    let t := (t.reach (nesting + 1)).enter (depth + 1)
    (clauses (nesting + 1) (depth + 1) cs t).comment comments.length
  | .select cs comments, t =>
    let t := ((t.reach nesting).decide).branch 1
    let t := (t.reach (nesting + 1)).enter (depth + 1)
    (clauses (nesting + 1) (depth + 1) cs t).comment comments.length
  | .block b, t => block nesting depth b (t.reach nesting)
  | .ret values, t => nodes nesting depth values (t.reach nesting)
  | .other kind children, t =>
    let t := t.reach nesting
    nodes nesting depth children (if Node.isErrorKind kind then t.fail else t)

/-- Walks over an optional part. -/
def optional (nesting depth : Nat) : Option Node → Tally → Tally
  | none, t => t
  | some n, t => node nesting depth n t

/-- Walks over what follows `else`; its own nesting is already one deeper. -/
def alternative (nesting depth : Nat) : Option Node → Tally → Tally
  | none, t => t
  | some (.block b), t => block nesting depth b t
  | some n, t => node nesting depth n t

/-- Walks over nodes from left to right. -/
def nodes (nesting depth : Nat) : List Node → Tally → Tally
  | [], t => t
  | n :: ns, t => nodes nesting depth ns (node nesting depth n t)

/-- Walks over a block, which is one deeper than what it stands in. -/
def block (nesting depth : Nat) : Block → Tally → Tally
  | .mk _ stmts, t => nodes nesting (depth + 1) stmts ((t.reach nesting).enter (depth + 1))

/-- Walks over clauses; each of them is a decision. -/
def clauses (nesting depth : Nat) : List Clause → Tally → Tally
  | [], t => t
  | .mk _ _ exprs body :: cs, t =>
    clauses nesting depth cs
      (nodes nesting depth body (nodes nesting depth exprs t.decide))
end

/-- The tally of a whole body. -/
def ofBody (body : Block) : Tally :=
  block 0 0 body zero

end Tally

/-- What measuring a body gives. -/
structure Measured where
  metrics : Metrics
  hasErrors : Bool
deriving Inhabited

/-- A count per line; there is none without lines. -/
def density (count lines : Nat) : Float :=
  if lines = 0 then 0.0 else Float.ofNat count / Float.ofNat lines

/-- The metrics of a body, all but the maintainability index. Lines are counted modulo `2 ^ 32`. -/
def measure (body : Block) : Measured :=
  let t := Tally.ofBody body
  let lines := body.span.lineCount % Nat.pow 2 32
  { hasErrors := t.hasErrors
    metrics :=
      { cyclomaticComplexity := 1 + t.decisions
        linesOfCode := lines
        isDuplicate := false
        isUnused := false
        halstead := Halstead.compute (Halstead.count t.occurrences)
        cognitive := ⟨t.score, t.nestedDepth, t.logicalOps, t.decisions⟩
        readability := ⟨t.blockDepth, density t.comments lines, density t.branches lines⟩
        maintainabilityIndex := 0.0 } }

end GoSurvey
