import GoSurvey.Go.Reader
import GoSurvey.Go.Tree

/-!
# Readings

A piece of source may be read in several ways: `a[b](c)` is a call of an indexed value, a call with
type arguments, or a conversion to an instantiated type. Every reading has a weight, and the
heaviest one counts. An `Operand` holds the ways a piece of an expression can still turn out.
-/

namespace GoSurvey.Go

/-- A tree and its weight. -/
structure Reading where
  tree : Tree
  weight : Int
deriving Inhabited

namespace Reading

/-- A node over some parts, with a weight of its own. -/
def node (kind : Kind) (own : Int) (parts : List Reading) : Reading :=
  ⟨.branch kind (parts.map (·.tree)), (parts.map (·.weight)).foldl (· + ·) own⟩

/-- A reading under a label. -/
def as (label : Label) (r : Reading) : Reading :=
  { r with tree := r.tree.as label }

/-- An operator, a delimiter or a keyword. -/
def mark (t : Token) : Reading :=
  ⟨.mark none t.text t.span, 0⟩

/-- A named node that is a single token. -/
def leaf (kind : Kind) (t : Token) : Reading :=
  ⟨.leaf none kind t.text t.span, 0⟩

/-- The first of the heaviest readings. -/
def heaviest? : List Reading → Option Reading
  | [] => none
  | r :: rs =>
    match heaviest? rs with
    | none => some r
    | some s => if r.weight < s.weight then some s else some r

/-- The heaviest of the readings that are there; of equal ones, the first. -/
def best? (rs : List (Option Reading)) : Option Reading :=
  heaviest? (rs.filterMap id)

end Reading

/-- The ways to read a piece of an expression. -/
structure Operand where
  /-- As an expression. -/
  expr : Option Reading := none
  /-- As a type. -/
  type : Option Reading := none
  /-- As a type that type arguments may follow. -/
  base : Option Reading := none
  /-- As a union of types. -/
  union : Option Reading := none
  /-- As a function and its type arguments, which arguments have to follow. -/
  applied : Option (Reading × Reading) := none
  /-- As a name and nothing more. -/
  name : Option Token := none

/-- Where an expression stands. -/
structure Mode where
  /-- A new line ends the expression. -/
  lines : Bool := false
  /-- An opening brace after a name starts a block. -/
  header : Bool := false
  /-- An opening brace after a qualified or instantiated name starts a literal even in a header. -/
  lax : Bool := false
  /-- An arrow, a double plus or a double minus ends the expression. -/
  leading : Bool := false
  /-- The question for a type ends the expression. -/
  guarded : Bool := false
deriving DecidableEq, Inhabited

/-- What a grammar reads, with the type of the result. -/
inductive Rule : Type → Type 1 where
  /-- An expression whose operators bind at least as tightly as a level. -/
  | expr (mode : Mode) (level : Nat) : Rule Operand
  /-- A type; if told so, a new line ends it. -/
  | type (lines : Bool) : Rule Reading
  /-- Parameters in parentheses. -/
  | parameters : Rule Reading
  /-- The body of a composite literal. -/
  | literalValue : Rule Reading
  /-- A block. -/
  | block : Rule Reading
  /-- A statement, inside a clause or not. -/
  | statement (inClause : Bool) : Rule Reading

/-- A reader for every rule. -/
abbrev Grammar : Type 1 :=
  {α : Type} → Rule α → Reader α

namespace Reader

/-- Takes an operator or a delimiter. -/
def mark (text : String) : Reader Reading := do
  let t ← peek
  if t.isMark text then return .mark (← next) else refuse

/-- Takes a keyword. -/
def keyword (text : String) : Reader Reading := do
  let t ← peek
  if t.isWord text then return .mark (← next) else refuse

/-- Takes the start of an operator and leaves the rest of it. -/
def split (length : Nat) : Reader Reading := do
  let t ← next
  if length < t.text.length then push (t.dropFirst length)
  return .mark (t.takeFirst length)

/-- Takes any word as a node of a kind. -/
def word (kind : Kind) : Reader Reading := do
  let t ← peek
  if t.kind == .word then return .leaf kind (← next) else refuse

/-- Whether the next token is an operator or a delimiter. -/
def atMark (text : String) : Reader Bool := do
  return (← peek).isMark text

/-- Whether the next token is a word. -/
def atWord (text : String) : Reader Bool := do
  return (← peek).isWord text

/-- Whether a new line comes before the next token. -/
def atNewline : Reader Bool := do
  return (← peek).newline.isSome

/-- Whether a new line comes next and matters. -/
def atEnd (lines : Bool) : Reader Bool := do
  if lines then atNewline else return false

/-- Takes what ends a statement: a new line, a semicolon or the character with code zero. -/
def terminator? : Reader (Option Reading) := do
  let t ← peek
  match t.newline with
  | some span =>
    let t ← next
    push { t with newline := none }
    return some ⟨.mark none "\n" span, 0⟩
  | none =>
    if t.isMark ";" || t.kind == .nul then return some (.mark (← next)) else return none

/-- Items that end with a terminator each, the last one possibly without, up to a closing mark. -/
def lines (closing : String) (item : Reader Reading) : Reader (List Reading) := do
  let (found, _) ← iterate (fun (found, more) => do
    if !more then return none
    if ← atMark closing then return none
    let r ← item
    match ← terminator? with
    | some t => return some (found ++ [r, t], true)
    | none => return some (found ++ [r], false)) ([], true)
  return found

end Reader

end GoSurvey.Go
