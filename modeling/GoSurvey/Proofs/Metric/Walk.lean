import Mathlib.Algebra.BigOperators.Group.List.Basic
import Mathlib.Algebra.GroupWithZero.Nat
import Mathlib.Data.Finset.Card
import GoSurvey.Proofs.Fingerprint.Lexemes

/-!
# What a walk over a body measures

Measuring fills one tally in a single walk, which carries two levels down and keeps the greatest of
each. Here the results are told from the body alone (`measure_eq`):

* what is counted, by the nodes of the code (`Counter.read_node`);
* how deep bodies and blocks lie within each other, by the height of a node
  (`Tally.nestedDepth_node`, `Tally.blockDepth_node`);
* the operators and operands, by the lexemes of the code.
-/

namespace GoSurvey

/-! ## Kinds of nodes -/

namespace Node

/-- Whether a node is a conditional. -/
def isCond : Node → Bool
  | .cond _ _ _ _ => true
  | _ => false

/-- Whether a node is a loop with a condition, or with none. -/
def isLoop : Node → Bool
  | .loop _ _ _ _ => true
  | _ => false

/-- Whether a node is a loop over a range. -/
def isRange : Node → Bool
  | .range _ _ _ => true
  | _ => false

/-- Whether a node is a `switch`. -/
def isSwitch : Node → Bool
  | .switch _ _ _ _ => true
  | _ => false

/-- Whether a node is a `select`. -/
def isSelect : Node → Bool
  | .select _ _ => true
  | _ => false

/-- Whether a node is a conjunction or a disjunction. -/
def isLogical : Node → Bool
  | .binary op _ _ => isShortCircuit op
  | _ => false

/-- The number of clauses of a node. -/
def clauseCount : Node → Nat
  | .switch _ _ clauses _ | .select clauses _ => clauses.length
  | _ => 0

/-- The number of comments a node stands for. What stands between clauses counts as a comment. -/
def commentCount : Node → Nat
  | .comment _ => 1
  | .switch _ _ _ comments | .select _ comments => comments.length
  | _ => 0

/-! ## Heights -/

mutual
/-- How many bodies of conditionals, loops, switches and selects lie within each other below a node,
at most. What follows `else` is one deeper than its conditional, also if it is a conditional. -/
def bodyHeight : Node → Nat
  | .ident _ | .literal _ | .type _ | .comment _ => 0
  | .unary _ e | .selector e _ => e.bodyHeight
  | .binary _ l r => max l.bodyHeight r.bodyHeight
  | .call f args => max f.bodyHeight (bodyHeightAll args)
  | .cond init test body alt =>
    max (max (bodyHeightOpt init) test.bodyHeight)
      (1 + max (bodyHeightBlock body) (bodyHeightOpt alt))
  | .loop init test post body =>
    max (max (max (bodyHeightOpt init) (bodyHeightOpt test)) (bodyHeightOpt post))
      (1 + bodyHeightBlock body)
  | .range left target body =>
    max (max (bodyHeightOpt left) target.bodyHeight) (1 + bodyHeightBlock body)
  | .switch init tag clauses _ =>
    max (max (bodyHeightOpt init) (bodyHeightOpt tag)) (1 + bodyHeightClauses clauses)
  | .select clauses _ => 1 + bodyHeightClauses clauses
  | .block b => bodyHeightBlock b
  | .ret values | .other _ values => bodyHeightAll values

/-- `bodyHeight` of an optional part. -/
def bodyHeightOpt : Option Node → Nat
  | none => 0
  | some n => n.bodyHeight

/-- `bodyHeight` over a list of nodes. -/
def bodyHeightAll : List Node → Nat
  | [] => 0
  | n :: ns => max n.bodyHeight (bodyHeightAll ns)

/-- `bodyHeight` over the statements of a block. -/
def bodyHeightBlock : Block → Nat
  | .mk _ stmts => bodyHeightAll stmts

/-- `bodyHeight` over clauses. -/
def bodyHeightClauses : List Clause → Nat
  | [] => 0
  | .mk _ _ exprs body :: cs =>
    max (max (bodyHeightAll exprs) (bodyHeightAll body)) (bodyHeightClauses cs)
end

mutual
/-- How many blocks lie within each other below a node, at most. All clauses of a `switch` or
`select` together are a block. -/
def blockHeight : Node → Nat
  | .ident _ | .literal _ | .type _ | .comment _ => 0
  | .unary _ e | .selector e _ => e.blockHeight
  | .binary _ l r => max l.blockHeight r.blockHeight
  | .call f args => max f.blockHeight (blockHeightAll args)
  | .cond init test body alt =>
    max (max (blockHeightOpt init) test.blockHeight)
      (max (blockHeightBlock body) (blockHeightOpt alt))
  | .loop init test post body =>
    max (max (max (blockHeightOpt init) (blockHeightOpt test)) (blockHeightOpt post))
      (blockHeightBlock body)
  | .range left target body =>
    max (max (blockHeightOpt left) target.blockHeight) (blockHeightBlock body)
  | .switch init tag clauses _ =>
    max (max (blockHeightOpt init) (blockHeightOpt tag)) (1 + blockHeightClauses clauses)
  | .select clauses _ => 1 + blockHeightClauses clauses
  | .block b => blockHeightBlock b
  | .ret values | .other _ values => blockHeightAll values

/-- `blockHeight` of an optional part. -/
def blockHeightOpt : Option Node → Nat
  | none => 0
  | some n => n.blockHeight

/-- `blockHeight` over a list of nodes. -/
def blockHeightAll : List Node → Nat
  | [] => 0
  | n :: ns => max n.blockHeight (blockHeightAll ns)

/-- `blockHeight` of a block, which counts itself. -/
def blockHeightBlock : Block → Nat
  | .mk _ stmts => 1 + blockHeightAll stmts

/-- `blockHeight` over clauses. -/
def blockHeightClauses : List Clause → Nat
  | [] => 0
  | .mk _ _ exprs body :: cs =>
    max (max (blockHeightAll exprs) (blockHeightAll body)) (blockHeightClauses cs)
end

end Node

/-! ## What is counted -/

/-- A number in a tally that a walk only adds to, and what is added on each occasion. -/
structure Counter where
  read : Tally → Nat
  /-- For a decision. -/
  decision : Nat
  /-- For a branching statement, by its weight. -/
  branch : Nat → Nat
  /-- For a comment. -/
  comment : Nat
  /-- For a conjunction or disjunction. -/
  logical : Nat
  read_zero : read .zero = 0 := by rfl
  read_reach : ∀ nesting t, read (t.reach nesting) = read t := by intros; rfl
  read_enter : ∀ depth t, read (t.enter depth) = read t := by intros; rfl
  read_operator : ∀ symbol t, read (t.operator symbol) = read t := by intros; rfl
  read_operand : ∀ name t, read (t.operand name) = read t := by intros; rfl
  read_fail : ∀ t, read t.fail = read t := by intros; rfl
  read_decide : ∀ t, read t.decide = read t + decision := by intros; rfl
  read_branch : ∀ weight t, read (t.branch weight) = read t + branch weight := by intros; rfl
  read_comment : ∀ count t, read (t.comment count) = read t + comment * count
  read_shortCircuit : ∀ t, read t.shortCircuit = read t + logical := by intros; rfl

namespace Counter

/-- The cognitive score. -/
def score : Counter where
  read := (·.score)
  decision := 0
  branch weight := weight
  comment := 0
  logical := 1
  read_comment _ _ := by simp [Tally.comment]

/-- The logical operators. -/
def logicalOps : Counter where
  read := (·.logicalOps)
  decision := 0
  branch _ := 0
  comment := 0
  logical := 1
  read_comment _ _ := by simp [Tally.comment]

/-- The decisions. -/
def decisions : Counter where
  read := (·.decisions)
  decision := 1
  branch _ := 0
  comment := 0
  logical := 1
  read_comment _ _ := by simp [Tally.comment]

/-- The comments. -/
def comments : Counter where
  read := (·.comments)
  decision := 0
  branch _ := 0
  comment := 1
  logical := 0
  read_comment _ _ := by simp [Tally.comment]

/-- The branching statements. -/
def branches : Counter where
  read := (·.branches)
  decision := 0
  branch _ := 1
  comment := 0
  logical := 0
  read_comment _ _ := by simp [Tally.comment]

variable (c : Counter)

/-- What a node adds by itself. -/
def weight : Node → Nat
  | .cond _ _ _ _ => c.decision + c.branch 1
  | .loop _ _ _ _ | .range _ _ _ => c.decision + c.branch 2
  | .switch _ _ clauses comments =>
    c.branch 1 + c.decision * clauses.length + c.comment * comments.length
  | .select clauses comments =>
    c.decision + c.branch 1 + c.decision * clauses.length + c.comment * comments.length
  | .binary op _ _ => if Node.isShortCircuit op then c.logical else 0
  | .comment _ => c.comment
  | _ => 0

/-- What the nodes of some code add. -/
def total (code : List Node) : Nat :=
  (code.map c.weight).sum

@[simp]
theorem total_nil : c.total [] = 0 := rfl

@[simp]
theorem total_cons (n : Node) (code : List Node) :
    c.total (n :: code) = c.weight n + c.total code := List.sum_cons

@[simp]
theorem total_append (code code' : List Node) :
    c.total (code ++ code') = c.total code + c.total code' := by
  simp [total]

/-- Naming operands adds nothing. -/
theorem read_operands (names : List String) (t : Tally) :
    c.read (names.foldl (fun t name => t.operand name) t) = c.read t := by
  induction names generalizing t with
  | nil => rfl
  | cons name names ih => rw [List.foldl_cons, ih, c.read_operand]

open Tally Node

attribute [local simp] read_reach read_enter read_operator read_operand read_fail read_decide
  read_branch read_comment read_shortCircuit node Tally.optional nodes Tally.block clauses
  alternative_eq_optional code codeOpt codeAll codeBlock codeClauses weight

mutual
/-- A walk over a node adds what the nodes of its code add. -/
theorem read_node (nesting depth : Nat) : ∀ (n : Node) (t : Tally),
    c.read (node nesting depth n t) = c.read t + c.total n.code
  | .ident _, t | .literal _, t | .comment _, t => by simp
  | .type _, t => by simp [read_operands]
  | .unary _ e, t | .selector e _, t => by simp [read_node nesting depth e]
  | .binary op l r, t => by
    cases hop : isShortCircuit op <;>
      simp [read_node nesting depth l, read_node nesting depth r, hop] <;> omega
  | .call f args, t => by
    simp [read_node nesting depth f, read_nodes nesting depth args]
    omega
  | .cond init test body alt, t => by
    simp [read_optional _ _ init, read_node _ _ test, read_block _ _ body, read_optional _ _ alt]
    omega
  | .loop init test post body, t => by
    simp [read_optional _ _ init, read_optional _ _ test, read_optional _ _ post,
      read_block _ _ body]
    omega
  | .range left target body, t => by
    simp [read_optional _ _ left, read_node _ _ target, read_block _ _ body]
    omega
  | .switch init tag cs _, t => by
    simp [read_optional _ _ init, read_optional _ _ tag, read_clauses _ _ cs]
    omega
  | .select cs _, t => by
    simp [read_clauses _ _ cs]
    omega
  | .block b, t => by simp [read_block nesting depth b]
  | .ret values, t => by simp [read_nodes nesting depth values]
  | .other kind children, t => by
    simp [read_nodes nesting depth children, apply_ite c.read]

/-- `read_node` for an optional part. -/
theorem read_optional (nesting depth : Nat) : ∀ (n : Option Node) (t : Tally),
    c.read (Tally.optional nesting depth n t) = c.read t + c.total (codeOpt n)
  | none, t => by simp
  | some n, t => read_node nesting depth n t

/-- `read_node` over a list of nodes. -/
theorem read_nodes (nesting depth : Nat) : ∀ (ns : List Node) (t : Tally),
    c.read (nodes nesting depth ns t) = c.read t + c.total (codeAll ns)
  | [], t => by simp
  | n :: ns, t => by
    simp [read_node nesting depth n, read_nodes nesting depth ns]
    omega

/-- `read_node` over a block. -/
theorem read_block (nesting depth : Nat) : ∀ (b : Block) (t : Tally),
    c.read (Tally.block nesting depth b t) = c.read t + c.total (codeBlock b)
  | .mk _ stmts, t => by simp [read_nodes nesting (depth + 1) stmts]

/-- `read_node` over clauses, each of which is a decision. -/
theorem read_clauses (nesting depth : Nat) : ∀ (cs : List Clause) (t : Tally),
    c.read (clauses nesting depth cs t) =
      c.read t + c.decision * cs.length + c.total (codeClauses cs)
  | [], t => by simp
  | .mk _ _ exprs body :: cs, t => by
    simp [read_nodes _ _ exprs, read_nodes _ _ body, read_clauses _ _ cs, Nat.mul_succ]
    omega
end

/-- A walk over a body adds up its code. -/
theorem read_ofBody (body : Block) : c.read (Tally.ofBody body) = c.total (codeBlock body) := by
  rw [ofBody, read_block, read_zero, Nat.zero_add]

section
variable (code : List Node)

attribute [local simp] score logicalOps decisions comments branches isCond isLoop isRange isSwitch
  isSelect isLogical clauseCount commentCount List.countP_cons

/-- The score weighs loops twice. -/
theorem total_score : score.total code = code.countP isCond +
    2 * (code.countP isLoop + code.countP isRange) + code.countP isSwitch +
    code.countP isSelect + code.countP isLogical := by
  induction code with
  | nil => rfl
  | cons n code ih =>
    rw [total_cons, ih]
    cases n with
    | binary op _ _ =>
      cases hop : isShortCircuit op with
      | false => simp [hop]
      | true =>
        simp [hop]
        omega
    | _ => simp <;> omega

/-- Every conjunction and disjunction is a logical operator. -/
theorem total_logicalOps : logicalOps.total code = code.countP isLogical := by
  induction code with
  | nil => rfl
  | cons n code ih =>
    rw [total_cons, ih]
    cases n with
    | binary op _ _ =>
      cases hop : isShortCircuit op with
      | false => simp [hop]
      | true =>
        simp [hop]
        omega
    | _ => simp

/-- A `switch` decides by its clauses only. -/
theorem total_decisions : decisions.total code = code.countP isCond + code.countP isLoop +
    code.countP isRange + code.countP isSelect + (code.map clauseCount).sum +
    code.countP isLogical := by
  induction code with
  | nil => rfl
  | cons n code ih =>
    rw [total_cons, ih]
    cases n with
    | binary op _ _ =>
      cases hop : isShortCircuit op with
      | false => simp [hop]
      | true =>
        simp [hop]
        omega
    | _ => simp <;> omega

/-- Comments are counted in the code and between clauses. -/
theorem total_comments : comments.total code = (code.map commentCount).sum := by
  induction code with
  | nil => rfl
  | cons n code ih =>
    rw [total_cons, ih]
    cases n <;> simp

/-- Every statement with bodies branches. -/
theorem total_branches : branches.total code = code.countP isCond + code.countP isLoop +
    code.countP isRange + code.countP isSwitch + code.countP isSelect := by
  induction code with
  | nil => rfl
  | cons n code ih =>
    rw [total_cons, ih]
    cases n <;> simp <;> omega

end

end Counter

/-! ## How deep a walk gets -/

namespace Tally
open Node

section
variable (t : Tally)

@[simp]
theorem nestedDepth_reach (nesting : Nat) :
    (t.reach nesting).nestedDepth = max t.nestedDepth nesting := rfl

@[simp]
theorem nestedDepth_enter (depth : Nat) : (t.enter depth).nestedDepth = t.nestedDepth := rfl

@[simp]
theorem nestedDepth_operator (symbol : String) :
    (t.operator symbol).nestedDepth = t.nestedDepth := rfl

@[simp]
theorem nestedDepth_operand (name : String) : (t.operand name).nestedDepth = t.nestedDepth := rfl

@[simp]
theorem nestedDepth_decide : t.decide.nestedDepth = t.nestedDepth := rfl

@[simp]
theorem nestedDepth_branch (weight : Nat) : (t.branch weight).nestedDepth = t.nestedDepth := rfl

@[simp]
theorem nestedDepth_comment (count : Nat) : (t.comment count).nestedDepth = t.nestedDepth := rfl

@[simp]
theorem nestedDepth_shortCircuit : t.shortCircuit.nestedDepth = t.nestedDepth := rfl

@[simp]
theorem nestedDepth_fail : t.fail.nestedDepth = t.nestedDepth := rfl

@[simp]
theorem blockDepth_reach (nesting : Nat) : (t.reach nesting).blockDepth = t.blockDepth := rfl

@[simp]
theorem blockDepth_enter (depth : Nat) : (t.enter depth).blockDepth = max t.blockDepth depth := rfl

@[simp]
theorem blockDepth_operator (symbol : String) : (t.operator symbol).blockDepth = t.blockDepth := rfl

@[simp]
theorem blockDepth_operand (name : String) : (t.operand name).blockDepth = t.blockDepth := rfl

@[simp]
theorem blockDepth_decide : t.decide.blockDepth = t.blockDepth := rfl

@[simp]
theorem blockDepth_branch (weight : Nat) : (t.branch weight).blockDepth = t.blockDepth := rfl

@[simp]
theorem blockDepth_comment (count : Nat) : (t.comment count).blockDepth = t.blockDepth := rfl

@[simp]
theorem blockDepth_shortCircuit : t.shortCircuit.blockDepth = t.blockDepth := rfl

@[simp]
theorem blockDepth_fail : t.fail.blockDepth = t.blockDepth := rfl

end

/-- Naming operands reaches no deeper. -/
theorem nestedDepth_operands (names : List String) (t : Tally) :
    (names.foldl (fun t name => t.operand name) t).nestedDepth = t.nestedDepth := by
  induction names generalizing t with
  | nil => rfl
  | cons name names ih => exact ih _

/-- Naming operands enters no block. -/
theorem blockDepth_operands (names : List String) (t : Tally) :
    (names.foldl (fun t name => t.operand name) t).blockDepth = t.blockDepth := by
  induction names generalizing t with
  | nil => rfl
  | cons name names ih => exact ih _

/-- A level is passed on the way to a deeper one. -/
theorem max_add (nesting height : Nat) : max nesting (nesting + height) = nesting + height :=
  Nat.max_eq_right (Nat.le_add_right nesting height)

/-- A level is passed on the way to a deeper one, whatever else is reached. -/
theorem max_add_max (nesting height m : Nat) :
    max nesting (max (nesting + height) m) = max (nesting + height) m := by
  rw [← Nat.max_assoc, max_add]

/-- Where a node has been walked over, its level is reached. -/
theorem le_max_add (m nesting height : Nat) : nesting ≤ max m (nesting + height) :=
  Nat.le_trans (Nat.le_add_right nesting height) (Nat.le_max_right ..)

-- Only a node or a block reaches the nesting it stands at. A missing part, or a list without items,
-- reaches nothing, so there the walk has to be as deep already.
mutual
/-- A walk over a node reaches its nesting and as far beyond as the node is high. -/
theorem nestedDepth_node (nesting depth : Nat) : ∀ (n : Node) (t : Tally),
    (node nesting depth n t).nestedDepth = max t.nestedDepth (nesting + n.bodyHeight)
  | .ident _, t | .literal _, t | .comment _, t => by simp [node, bodyHeight]
  | .type _, t => by simp [node, bodyHeight, nestedDepth_operands]
  | .unary _ e, t | .selector e _, t => by
    simp [node, bodyHeight, nestedDepth_node nesting depth e]
  | .binary op l r, t => by
    cases hop : isShortCircuit op <;>
      simp [node, bodyHeight, nestedDepth_node nesting depth l, nestedDepth_node nesting depth r,
        hop, ← Nat.add_max_add_left, Nat.max_assoc]
  | .call f args, t => by
    have hf := nestedDepth_node nesting depth f (t.reach nesting)
    have hargs := nestedDepth_nodes nesting depth args _ (hf ▸ le_max_add ..)
    simp only [node, hargs, hf, nestedDepth_reach, bodyHeight, ← Nat.add_max_add_left,
      Nat.max_assoc, max_add_max]
  | .cond init test body alt, t => by
    let start := ((t.reach nesting).decide).branch 1
    have hstart : start.nestedDepth = max t.nestedDepth nesting := rfl
    have hinit := nestedDepth_optional nesting depth init start (Nat.le_max_right ..)
    have htest := nestedDepth_node nesting depth test (optional nesting depth init start)
    have hbody := nestedDepth_block (nesting + 1) depth body
      (node nesting depth test (optional nesting depth init start))
    have halt := nestedDepth_optional (nesting + 1) depth alt _ (hbody ▸ le_max_add ..)
    rw [node, alternative_eq_optional, halt, hbody, htest, hinit, hstart]
    simp only [bodyHeight, ← Nat.add_max_add_left, ← Nat.add_assoc, Nat.max_assoc, max_add_max]
  | .loop init test post body, t => by
    let start := ((t.reach nesting).decide).branch 2
    have hstart : start.nestedDepth = max t.nestedDepth nesting := rfl
    have hinit := nestedDepth_optional nesting depth init start (Nat.le_max_right ..)
    have htest := nestedDepth_optional nesting depth test _ (hinit ▸ le_max_add ..)
    have hpost := nestedDepth_optional nesting depth post _ (htest ▸ le_max_add ..)
    rw [node, nestedDepth_block, hpost, htest, hinit, hstart]
    simp only [bodyHeight, ← Nat.add_max_add_left, ← Nat.add_assoc, Nat.max_assoc, max_add_max]
  | .range left target body, t => by
    let start := ((t.reach nesting).decide).branch 2
    have hstart : start.nestedDepth = max t.nestedDepth nesting := rfl
    have hleft := nestedDepth_optional nesting depth left start (Nat.le_max_right ..)
    rw [node, nestedDepth_block, nestedDepth_node, hleft, hstart]
    simp only [bodyHeight, ← Nat.add_max_add_left, ← Nat.add_assoc, Nat.max_assoc, max_add_max]
  | .switch init tag cs _, t => by
    let start := (t.reach nesting).branch 1
    have hstart : start.nestedDepth = max t.nestedDepth nesting := rfl
    have hinit := nestedDepth_optional nesting depth init start (Nat.le_max_right ..)
    have htag := nestedDepth_optional nesting depth tag _ (hinit ▸ le_max_add ..)
    rw [node, nestedDepth_comment, nestedDepth_clauses _ _ cs _ (Nat.le_max_right ..),
      nestedDepth_enter, nestedDepth_reach, htag, hinit, hstart]
    simp only [bodyHeight, ← Nat.add_max_add_left, ← Nat.add_assoc, Nat.max_assoc, max_add]
  | .select cs _, t => by
    rw [node, nestedDepth_comment, nestedDepth_clauses _ _ cs _ (Nat.le_max_right ..),
      nestedDepth_enter, nestedDepth_reach, nestedDepth_branch, nestedDepth_decide,
      nestedDepth_reach]
    simp only [bodyHeight, ← Nat.add_assoc, Nat.max_assoc, max_add]
  | .block b, t => by simp [node, bodyHeight, nestedDepth_block nesting depth b]
  | .ret values, t => by
    rw [node, nestedDepth_nodes nesting depth values _ (Nat.le_max_right ..), nestedDepth_reach,
      bodyHeight, Nat.max_assoc, max_add]
  | .other kind children, t => by
    have hreached : (if isErrorKind kind then (t.reach nesting).fail
        else t.reach nesting).nestedDepth = max t.nestedDepth nesting := by
      split <;> rfl
    have hchildren := nestedDepth_nodes nesting depth children _ (hreached ▸ Nat.le_max_right ..)
    rw [node, hchildren, hreached, bodyHeight, Nat.max_assoc, max_add]

/-- `nestedDepth_node` for an optional part. -/
theorem nestedDepth_optional (nesting depth : Nat) : ∀ (n : Option Node) (t : Tally),
    nesting ≤ t.nestedDepth →
      (optional nesting depth n t).nestedDepth = max t.nestedDepth (nesting + bodyHeightOpt n)
  | none, _, h => (Nat.max_eq_left h).symm
  | some n, _, _ => nestedDepth_node nesting depth n _

/-- `nestedDepth_node` over a list of nodes. -/
theorem nestedDepth_nodes (nesting depth : Nat) : ∀ (ns : List Node) (t : Tally),
    nesting ≤ t.nestedDepth →
      (nodes nesting depth ns t).nestedDepth = max t.nestedDepth (nesting + bodyHeightAll ns)
  | [], t, h => (Nat.max_eq_left h).symm
  | n :: ns, t, _ => by
    have hn := nestedDepth_node nesting depth n t
    rw [nodes, nestedDepth_nodes nesting depth ns _ (hn ▸ le_max_add ..), hn, bodyHeightAll,
      ← Nat.add_max_add_left, Nat.max_assoc]

/-- `nestedDepth_node` over a block. -/
theorem nestedDepth_block (nesting depth : Nat) : ∀ (b : Block) (t : Tally),
    (block nesting depth b t).nestedDepth = max t.nestedDepth (nesting + bodyHeightBlock b)
  | .mk _ stmts, t => by
    rw [block, nestedDepth_nodes nesting (depth + 1) stmts _ (Nat.le_max_right ..),
      nestedDepth_enter, nestedDepth_reach, bodyHeightBlock, Nat.max_assoc, max_add]

/-- `nestedDepth_node` over clauses. -/
theorem nestedDepth_clauses (nesting depth : Nat) : ∀ (cs : List Clause) (t : Tally),
    nesting ≤ t.nestedDepth →
      (clauses nesting depth cs t).nestedDepth = max t.nestedDepth (nesting + bodyHeightClauses cs)
  | [], t, h => (Nat.max_eq_left h).symm
  | .mk _ _ exprs body :: cs, t, h => by
    have hexprs := nestedDepth_nodes nesting depth exprs t.decide h
    have hbody := nestedDepth_nodes nesting depth body _ (hexprs ▸ le_max_add ..)
    have hcs := nestedDepth_clauses nesting depth cs _ (hbody ▸ le_max_add ..)
    simp only [clauses, hcs, hbody, hexprs, nestedDepth_decide, bodyHeightClauses,
      ← Nat.add_max_add_left, Nat.max_assoc]
end

/-- How deep a height gets from a depth; without a block the depth does not matter. -/
def blocksTo (depth height : Nat) : Nat :=
  if height = 0 then 0 else depth + height

/-- Without blocks there is no depth. -/
@[simp]
theorem blocksTo_zero (depth : Nat) : blocksTo depth 0 = 0 := rfl

/-- The greater height gets deeper. -/
@[simp]
theorem blocksTo_max (depth a b : Nat) :
    blocksTo depth (max a b) = max (blocksTo depth a) (blocksTo depth b) := by
  unfold blocksTo
  split <;> split <;> split <;> omega

/-- A block with what lies in it. -/
@[simp]
theorem max_blocksTo (depth height : Nat) :
    max (depth + 1) (blocksTo (depth + 1) height) = blocksTo depth (1 + height) := by
  unfold blocksTo
  split <;> split <;> omega

section
attribute [local simp] node optional nodes block clauses alternative_eq_optional blockHeight
  blockHeightOpt blockHeightAll blockHeightBlock blockHeightClauses Nat.max_assoc

mutual
/-- A walk over a node enters as many blocks as the node is high. -/
theorem blockDepth_node (nesting depth : Nat) : ∀ (n : Node) (t : Tally),
    (node nesting depth n t).blockDepth = max t.blockDepth (blocksTo depth n.blockHeight)
  | .ident _, t | .literal _, t | .comment _, t => by simp
  | .type _, t => by simp [blockDepth_operands]
  | .unary _ e, t | .selector e _, t => by simp [blockDepth_node nesting depth e]
  | .binary op l r, t => by
    cases hop : isShortCircuit op <;>
      simp [blockDepth_node nesting depth l, blockDepth_node nesting depth r, hop]
  | .call f args, t => by
    simp [blockDepth_node nesting depth f, blockDepth_nodes nesting depth args]
  | .cond init test body alt, t => by
    simp [blockDepth_optional _ _ init, blockDepth_node _ _ test, blockDepth_block _ _ body,
      blockDepth_optional _ _ alt]
  | .loop init test post body, t => by
    simp [blockDepth_optional _ _ init, blockDepth_optional _ _ test, blockDepth_optional _ _ post,
      blockDepth_block _ _ body]
  | .range left target body, t => by
    simp [blockDepth_optional _ _ left, blockDepth_node _ _ target, blockDepth_block _ _ body]
  | .switch init tag cs _, t => by
    simp [blockDepth_optional _ _ init, blockDepth_optional _ _ tag, blockDepth_clauses _ _ cs]
  | .select cs _, t => by simp [blockDepth_clauses _ _ cs]
  | .block b, t => by simp [blockDepth_block nesting depth b]
  | .ret values, t => by simp [blockDepth_nodes nesting depth values]
  | .other kind children, t => by
    cases hkind : isErrorKind kind <;> simp [blockDepth_nodes nesting depth children, hkind]

/-- `blockDepth_node` for an optional part. -/
theorem blockDepth_optional (nesting depth : Nat) : ∀ (n : Option Node) (t : Tally),
    (optional nesting depth n t).blockDepth = max t.blockDepth (blocksTo depth (blockHeightOpt n))
  | none, t => by simp
  | some n, t => blockDepth_node nesting depth n t

/-- `blockDepth_node` over a list of nodes. -/
theorem blockDepth_nodes (nesting depth : Nat) : ∀ (ns : List Node) (t : Tally),
    (nodes nesting depth ns t).blockDepth = max t.blockDepth (blocksTo depth (blockHeightAll ns))
  | [], t => by simp
  | n :: ns, t => by simp [blockDepth_node nesting depth n, blockDepth_nodes nesting depth ns]

/-- `blockDepth_node` over a block. -/
theorem blockDepth_block (nesting depth : Nat) : ∀ (b : Block) (t : Tally),
    (block nesting depth b t).blockDepth = max t.blockDepth (blocksTo depth (blockHeightBlock b))
  | .mk _ stmts, t => by simp [blockDepth_nodes nesting (depth + 1) stmts]

/-- `blockDepth_node` over clauses. -/
theorem blockDepth_clauses (nesting depth : Nat) : ∀ (cs : List Clause) (t : Tally),
    (clauses nesting depth cs t).blockDepth =
      max t.blockDepth (blocksTo depth (blockHeightClauses cs))
  | [], t => by simp
  | .mk _ _ exprs body :: cs, t => by
    simp [blockDepth_nodes _ _ exprs, blockDepth_nodes _ _ body, blockDepth_clauses _ _ cs]
end

end

/-- A walk over a body gets as deep as bodies lie within each other. -/
theorem nestedDepth_ofBody (body : Block) : (ofBody body).nestedDepth = bodyHeightBlock body := by
  rw [ofBody, nestedDepth_block]
  simp [zero]

/-- A walk over a body enters as many blocks as lie within each other. -/
theorem blockDepth_ofBody (body : Block) : (ofBody body).blockDepth = blockHeightBlock body := by
  rw [ofBody, blockDepth_block]
  cases body
  simp [zero, blocksTo, blockHeightBlock]

/-- A walk over a body finds the errors in its code. -/
theorem hasErrors_ofBody (body : Block) : (ofBody body).hasErrors = (codeBlock body).any isError :=
  (hasErrors_measure_eq body).trans (isDamagedBlock_eq_any_code body)

end Tally

/-! ## Operators and operands -/

namespace Halstead

/-- Without repetitions a list is as long as it has elements. -/
theorem length_eraseDups (xs : List String) : xs.eraseDups.length = xs.toFinset.card := by
  -- Each step leaves out all copies of the first element, so the list left is not a tail.
  induction hn : xs.length using Nat.strong_induction_on generalizing xs with
  | _ n ih =>
    cases xs with
    | nil => rfl
    | cons x xs =>
      have hlt : (xs.filter fun y => !y == x).length < n := by
        rw [← hn]
        exact Nat.lt_succ_of_le (List.length_filter_le ..)
      have hmem : x ∉ (xs.filter fun y => !y == x).toFinset := by simp
      have hset : insert x (xs.filter fun y => !y == x).toFinset = (x :: xs).toFinset := by
        ext y
        by_cases hy : y = x <;> simp [hy]
      rw [List.eraseDups_cons, List.length_cons, ih _ hlt _ rfl, ← hset,
        Finset.card_insert_of_notMem hmem]

/-- The counts do not depend on the order of the occurrences. -/
theorem count_reverse (os : List Occurrence) : count os.reverse = count os := by
  simp [count, operators, operands, length_eraseDups, List.filterMap_reverse]

/-- The counts of a sequence of occurrences, distinct ones by their sets. -/
theorem count_eq (os : List Occurrence) : count os =
    ⟨(operators os).toFinset.card, (operands os).toFinset.card, (operators os).length,
      (operands os).length⟩ := by
  rw [count, length_eraseDups, length_eraseDups]

end Halstead

/-- A walk over a body counts its lexemes. -/
theorem Tally.count_ofBody (body : Block) : Halstead.count (ofBody body).occurrences =
    Halstead.count ((Node.lexemesBlock body).filterMap Lexeme.occurrence?) := by
  rw [← occurrences_ofBody, Halstead.count_reverse]

/-! ## Measuring a body -/

/-- All that measuring a body gives, told from the code of the body, from its lexemes and from its
heights. -/
theorem measure_eq (body : Block) :
    let code := Node.codeBlock body
    let occurrences := (Node.lexemesBlock body).filterMap Lexeme.occurrence?
    let operators := Halstead.operators occurrences
    let operands := Halstead.operands occurrences
    let lines := body.span.lineCount % Nat.pow 2 32
    let decisions := code.countP Node.isCond + code.countP Node.isLoop + code.countP Node.isRange +
      code.countP Node.isSelect + (code.map Node.clauseCount).sum + code.countP Node.isLogical
    let branches := code.countP Node.isCond + code.countP Node.isLoop + code.countP Node.isRange +
      code.countP Node.isSwitch + code.countP Node.isSelect
    measure body =
      { hasErrors := code.any Node.isError
        metrics :=
          { cyclomaticComplexity := 1 + decisions
            linesOfCode := lines
            isDuplicate := false
            isUnused := false
            halstead := Halstead.compute
              { distinctOperators := operators.toFinset.card
                distinctOperands := operands.toFinset.card
                totalOperators := operators.length
                totalOperands := operands.length }
            cognitive :=
              { score := code.countP Node.isCond +
                  2 * (code.countP Node.isLoop + code.countP Node.isRange) +
                  code.countP Node.isSwitch + code.countP Node.isSelect +
                  code.countP Node.isLogical
                nestedDepth := Node.bodyHeightBlock body
                logicalOps := code.countP Node.isLogical
                branchingScore := decisions }
            readability :=
              { nestingDepth := Node.blockHeightBlock body
                commentDensity := density (code.map Node.commentCount).sum lines
                branchDensity := density branches lines }
            maintainabilityIndex := 0.0 } } := by
  intro code occurrences operators operands lines decisions branches
  have hscore : (Tally.ofBody body).score = _ := Counter.score.read_ofBody body
  have hlogical : (Tally.ofBody body).logicalOps = _ := Counter.logicalOps.read_ofBody body
  have hdecisions : (Tally.ofBody body).decisions = _ := Counter.decisions.read_ofBody body
  have hcomments : (Tally.ofBody body).comments = _ := Counter.comments.read_ofBody body
  have hbranches : (Tally.ofBody body).branches = _ := Counter.branches.read_ofBody body
  rw [Counter.total_score] at hscore
  rw [Counter.total_logicalOps] at hlogical
  rw [Counter.total_decisions] at hdecisions
  rw [Counter.total_comments] at hcomments
  rw [Counter.total_branches] at hbranches
  rw [measure, hscore, hlogical, hdecisions, hcomments, hbranches, Tally.nestedDepth_ofBody,
    Tally.blockDepth_ofBody, Tally.hasErrors_ofBody, Tally.count_ofBody, Halstead.count_eq]

end GoSurvey
