import GoSurvey.Code.Span
import GoSurvey.Code.TypeExpr

/-!
# Function bodies

Statements and expressions share one type of node. The forms the survey tells apart have a
constructor of their own; every other construct is kept as `other`, with the kind it was read from
and its children in source order, comments included.

`Node.preorder` lists a node and everything below it in the order it is written; what a body refers
to is read off that list.
-/

namespace GoSurvey

/-- Which construct a clause belongs to. -/
inductive ClauseKind where
  /-- A clause of an expression or type switch. -/
  | case
  /-- A clause of a select statement. -/
  | comm
deriving DecidableEq, Repr, Inhabited

mutual
/-- A statement or expression inside a body. -/
inductive Node where
  | ident (name : String)
  | literal (text : String)
  | unary (op : String) (operand : Node)
  | binary (op : String) (left right : Node)
  | call (function : Node) (args : List Node)
  | selector (operand : Node) (field : String)
  | type (type : TypeExpr)
  /-- The alternative is a block or another conditional. -/
  | cond (init : Option Node) (test : Node) (body : Block) (alternative : Option Node)
  | loop (init test post : Option Node) (body : Block)
  | range (left : Option Node) (target : Node) (body : Block)
  /-- The comments are those between the clauses. -/
  | switch (init tag : Option Node) (clauses : List Clause) (comments : List Node)
  | select (clauses : List Clause) (comments : List Node)
  | block (block : Block)
  | ret (values : List Node)
  | comment (text : String)
  | other (kind : String) (children : List Node)

/-- Statements between braces. -/
inductive Block where
  | mk (span : Span) (stmts : List Node)

/-- One clause of a switch or select: its expressions, types or communication, and its body. -/
inductive Clause where
  | mk (kind : ClauseKind) (isDefault : Bool) (exprs body : List Node)
end

deriving instance Inhabited for Node
deriving instance Inhabited for Block
deriving instance Inhabited for Clause

namespace Block

/-- The range from the opening to the closing brace. -/
def span : Block → Span
  | .mk span _ => span

/-- The statements of a block. -/
def stmts : Block → List Node
  | .mk _ stmts => stmts

end Block

namespace Clause

/-- The construct a clause belongs to. -/
def kind : Clause → ClauseKind
  | .mk kind _ _ _ => kind

/-- Whether a clause is the default one. -/
def isDefault : Clause → Bool
  | .mk _ isDefault _ _ => isDefault

/-- What a clause is selected by. -/
def exprs : Clause → List Node
  | .mk _ _ exprs _ => exprs

/-- The statements of a clause. -/
def body : Clause → List Node
  | .mk _ _ _ body => body

end Clause

namespace Node

/-- Whether a kind stands for source that could not be read. -/
def isErrorKind (kind : String) : Bool :=
  kind == "ERROR" || kind == "MISSING"

/-- Whether a node stands for source that could not be read. -/
def isError : Node → Bool
  | .other kind _ => isErrorKind kind
  | _ => false

/-- Whether an operator evaluates its right operand only if it has to. -/
def isShortCircuit (op : String) : Bool :=
  op == "&&" || op == "||"

/-! ## Everything below a node -/

mutual
/-- A node followed by all nodes below it, in source order. -/
def preorder : Node → List Node
  | .ident name => [.ident name]
  | .literal text => [.literal text]
  | .unary op e => .unary op e :: e.preorder
  | .binary op l r => .binary op l r :: (l.preorder ++ r.preorder)
  | .call f as => .call f as :: (f.preorder ++ preorderAll as)
  | .selector e field => .selector e field :: e.preorder
  | .type t => [.type t]
  | .cond init test body alt =>
    .cond init test body alt ::
      (preorderOpt init ++ test.preorder ++ preorderBlock body ++ preorderOpt alt)
  | .loop init test post body =>
    .loop init test post body ::
      (preorderOpt init ++ preorderOpt test ++ preorderOpt post ++ preorderBlock body)
  | .range left target body =>
    .range left target body :: (preorderOpt left ++ target.preorder ++ preorderBlock body)
  | .switch init tag clauses comments =>
    .switch init tag clauses comments ::
      (preorderOpt init ++ preorderOpt tag ++ preorderClauses clauses ++ preorderAll comments)
  | .select clauses comments =>
    .select clauses comments :: (preorderClauses clauses ++ preorderAll comments)
  | .block b => .block b :: preorderBlock b
  | .ret values => .ret values :: preorderAll values
  | .comment text => [.comment text]
  | .other kind children => .other kind children :: preorderAll children

/-- `preorder` of an optional part. -/
def preorderOpt : Option Node → List Node
  | none => []
  | some n => n.preorder

/-- `preorder` over a list of nodes. -/
def preorderAll : List Node → List Node
  | [] => []
  | n :: ns => n.preorder ++ preorderAll ns

/-- `preorder` over the statements of a block. -/
def preorderBlock : Block → List Node
  | .mk _ stmts => preorderAll stmts

/-- `preorder` over clauses: the expressions of each, then its body. -/
def preorderClauses : List Clause → List Node
  | [] => []
  | .mk _ _ exprs body :: cs => preorderAll exprs ++ preorderAll body ++ preorderClauses cs
end

end Node

end GoSurvey
