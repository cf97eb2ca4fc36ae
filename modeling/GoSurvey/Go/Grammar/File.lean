import GoSurvey.Go.Grammar.Statements

/-!
# Source files

The rules refer to each other in circles; `rules` ties them together. Each use of a rule takes one
unit of fuel, and between two tokens only a bounded number of rules is used, so a multiple of the
number of tokens is fuel enough.
-/

namespace GoSurvey.Go.Grammar

open Reader

/-- One step of every rule. -/
def step (lenient : Bool) (self : Grammar) : {α : Type} → Rule α → Reader α
  | _, .expr mode level => expressionAt self mode level
  | _, .type lines => anyType self lines
  | _, .parameters => parameterList self
  | _, .literalValue => literalValue self
  | _, .block => blockOf self
  | _, .statement inClause => statementOf self lenient inClause

/-- All rules, to a certain depth. A lenient grammar passes over forgotten separators in groups. -/
def rules (lenient : Bool) : Nat → {α : Type} → Rule α → Reader α
  | 0, _, _ => refuse
  | fuel + 1, _, rule => step lenient (rules lenient fuel) rule

/-- A function, a method, or a statement that starts with a function. -/
def functionItem (self : Grammar) : Reader Reading := do
  match ← ahead with
  | _ :: t :: _ =>
    if t.kind == .word then functionDeclaration self
    else methodDeclaration self <|> self (.statement false)
  | _ => refuse

/-- An item of a file: anything that may stand outside a function, and any statement. -/
def item (self : Grammar) : Reader Reading := do
  let t ← peek
  if t.isWord "package" then packageClause
  else if t.isWord "import" then importDeclaration
  else if t.isWord "func" then functionItem self
  else self (.statement false)

/-- The items of a file up to its end. A forgotten terminator is marked, if that is allowed. -/
def items (self : Grammar) (lenient : Bool) : Reader (List Reading) :=
  iterate (fun found => do
    if (← peek).kind == .eof then return none
    let start ← ahead
    let r ← item self
    match ← terminator? with
    | some t => return some (found ++ [r, t])
    | none =>
      if (← peek).kind == .eof then return some (found ++ [r])
      else if lenient then return some (found ++ [r, ← forgotten (item self) start found.isEmpty])
      else refuse) []

/-- A source file. -/
def sourceFile (self : Grammar) (lenient : Bool) : Reader Tree := do
  let parts ← items self lenient
  if (← peek).kind == .eof then return .branch .sourceFile (parts.map (·.tree)) else refuse

/-- The depth to which rules are used for some tokens. -/
def depthFor (tokens : List Token) : Nat :=
  64 * (tokens.length + 1)

/-- The tree of some tokens with no separator forgotten, if they can be read so. -/
def parseWhole? (tokens : List Token) : Option Tree :=
  match sourceFile (rules false (depthFor tokens)) false tokens 0 with
  | (some (tree, _), _) => some tree
  | (none, _) => none

/-- The tree of some tokens, or the place of the token that cannot be read. Separators may be
forgotten in groups, and between the items of the file if that is allowed. -/
def parse (lenient : Bool) (tokens : List Token) : Except Nat Tree :=
  match sourceFile (rules true (depthFor tokens)) lenient tokens 0 with
  | (some (tree, _), _) => .ok tree
  | (none, reach) => .error reach

end GoSurvey.Go.Grammar
