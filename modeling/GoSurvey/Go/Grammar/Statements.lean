import GoSurvey.Go.Grammar.Declarations

/-!
# Statements

A statement ends with its line. In the head of an `if`, `for` or `switch` new lines do not matter,
and an opening brace after a name starts the block.
-/

namespace GoSurvey.Go.Grammar

open Reader

/-- The operators that assign. -/
def assignmentOperators : List String :=
  ["=", "+=", "-=", "*=", "/=", "%=", "&=", "|=", "^=", "<<=", ">>=", "&^="]

/-- The mode of the values that are assigned. They are in the head of a statement only if nothing
else can come between them and the block. -/
def assignedMode (mode : Mode) (last : Bool) : Mode :=
  { lines := mode.lines, header := mode.header && last, lax := mode.lax
    guarded := mode.guarded }

/-- What follows the expressions a simple statement starts with. -/
def simpleRest (self : Grammar) (mode : Mode) (last : Bool) (left : Reading)
    (single : Option Reading) : Reader Reading := do
  let plain : Reader Reading := do
    let e ← ofOption single
    return .node .expressionStatement 0 [e]
  if ← atEnd mode.lines then return ← plain
  let t ← peek
  if t.isMark ":=" then
    let op ← mark ":="
    let right ← expressionList self (assignedMode mode last)
    return .node .shortVarDeclaration 0 [left.as .left, op, right.as .right]
  if assignmentOperators.any t.isMark then
    let op ← mark t.text
    let right ← expressionList self (assignedMode mode last)
    return .node .assignmentStatement 0 [left.as .left, op.as .operator, right.as .right]
  match single with
  | none => refuse
  | some e =>
    if t.isMark "<-" then
      let op ← mark "<-"
      return .node .sendStatement 0 [e, op, ← expression self (assignedMode mode last)]
    else if t.isMark "++" then return .node .incStatement 0 [e, ← mark "++"]
    else if t.isMark "--" then return .node .decStatement 0 [e, ← mark "--"]
    else plain

/-- The expressions a simple statement starts with: all of them, and the first if it is alone. -/
def leadingExpressions (self : Grammar) (mode : Mode) : Reader (Reading × Option Reading) := do
  let first ← expression self { mode with leading := true }
  let more := !(← atEnd mode.lines) && (← atMark ",")
  let all ← expressionsFrom self mode first
  return (all, if more then none else some first)

/-- A simple statement; `last` tells whether a block may follow it directly. -/
def simpleStatement (self : Grammar) (mode : Mode) (last : Bool) : Reader Reading := do
  let (left, single) ← leadingExpressions self mode
  simpleRest self mode last left single

/-- The expression of a statement that is nothing else. -/
def bareExpression? (r : Reading) : Option Reading :=
  match r.tree with
  | .node _ .expressionStatement _ [e] => some ⟨e, r.weight⟩
  | _ => none

/-! ## Lists of statements -/

/-- Whether statements end here: at a closing brace, and inside a clause at the next clause. -/
def closes (inClause : Bool) (t : Token) : Bool :=
  t.isMark "\x7d" || (inClause && (t.isWord "case" || t.isWord "default"))

/-- Whether a label comes next. -/
def atLabel : Reader Bool := do
  match ← ahead with
  | t :: u :: _ => return t.kind == .word && u.isMark ":" && u.newline.isNone
  | _ => return false

/-- Whether a label comes next that no statement follows. -/
def atLastLabel (inClause : Bool) : Reader Bool := do
  match ← ahead with
  | _ :: _ :: t :: _ => return (← atLabel) && closes inClause t
  | _ => return false

/-- A label and its colon. -/
def labelParts : Reader (List Reading) := do
  let name ← word .labelName
  return [name, ← mark ":"]

/-- Statements with terminators between them. A label may stand at the end without a statement. -/
def statementList (self : Grammar) (inClause : Bool) : Reader (List Reading) := do
  let (found, _) ← iterate (fun (found, more) => do
    if !more || closes inClause (← peek) then return none
    if ← atLastLabel inClause then
      return some (found ++ [.node .labeledStatement 0 (← labelParts)], false)
    let s ← self (.statement inClause)
    match ← terminator? with
    | some t => return some (found ++ [s, t], true)
    | none => return some (found ++ [s], false)) ([], true)
  return found

/-- A block. -/
def blockOf (self : Grammar) : Reader Reading := do
  let opening ← mark "\x7b"
  let stmts ← statementList self false
  return .node .block 0 (opening :: stmts ++ [← mark "\x7d"])

/-! ## Statements with a head -/

/-- The mode of an expression in a head. -/
def headMode (lax : Bool) : Mode :=
  { header := true, lax }

/-- Whether a statement can end here. -/
def canEnd (t : Token) : Bool :=
  t.newline.isSome || t.isMark ";" || t.kind == .nul || t.kind == .eof || closes true t

/-- Reads a head and what comes after it, so that braces start blocks wherever they can. If that
does not work out, or the statement cannot end there, braces start literals after qualified names.
-/
def headed {α : Type} (head : Bool → Reader α) (rest : α → Reader Reading) : Reader Reading :=
  fun ts reach =>
    match (do let h ← head false; return (h, (← ahead).length) : Reader (α × Nat)) ts reach with
    | (none, reach) => (do rest (← head true) : Reader Reading) ts reach
    | (some ((h, left), after), reach) =>
      let second : Reader Reading := do
        let h ← head true
        if (← ahead).length == left then refuse else rest h
      match rest h after reach with
      | (none, reach) => second ts reach
      | (some (found, after), reach) =>
        if canEnd (after.headD ending) then (some (found, after), reach)
        else
          match second ts reach with
          | (none, reach) => (some (found, after), reach)
          | result => result

/-- What follows the block of an `if`. -/
def alternative (self : Grammar) (chained : Reader Reading) : Reader (List Reading) := do
  if ← atNewline then return []
  if ← atWord "else" then
    let start ← keyword "else"
    let alt ← if ← atWord "if" then chained else self .block
    return [start, alt.as .alternative]
  return []

/-- The head of an `if`: an initialiser, if there is one, and the condition. -/
def ifHead (self : Grammar) (lax : Bool) : Reader (List Reading) := do
  let first ← simpleStatement self (headMode lax) false
  if ← atMark ";" then
    let semi ← mark ";"
    let condition ← expression self (headMode lax)
    return [first.as .initializer, semi, condition.as .condition]
  return [(← ofOption (bareExpression? first)).as .condition]

/-- An `if` statement. -/
def ifStatement (self : Grammar) (inClause : Bool) : Reader Reading := do
  let start ← keyword "if"
  headed (ifHead self) fun head => do
    let body ← self .block
    let alt ← alternative self (self (.statement inClause))
    return .node .ifStatement 0 (start :: head ++ body.as .consequence :: alt)

/-- The rest of the head of a `for` with semicolons, from the first of them on. -/
def forClause (self : Grammar) (lax : Bool) (init : List Reading) : Reader Reading := do
  let first ← mark ";"
  let condition ← if ← atMark ";" then pure []
    else pure [(← expression self {}).as .condition]
  let second ← mark ";"
  let update ← if ← atMark "\x7b" then pure []
    else pure [(← simpleStatement self (headMode lax) true).as .update]
  return .node .forClause 0 (init ++ first :: condition ++ second :: update)

/-- The value a `for` ranges over, and what comes before it. -/
def rangeClause (self : Grammar) (lax : Bool) (left : List Reading) : Reader Reading := do
  let start ← keyword "range"
  let right ← expression self (headMode lax)
  return .node .rangeClause 0 (left ++ [start, right.as .right])

/-- The head of a `for`. -/
def forHead (self : Grammar) (lax : Bool) : Reader (List Reading) := do
  if ← atMark "\x7b" then return []
  if ← atMark ";" then return [← forClause self lax []]
  if ← atWord "range" then return [← rangeClause self lax []]
  let mode := headMode lax
  let (left, single) ← leadingExpressions self mode
  match ← ahead with
  | op :: t :: _ =>
    if (op.isMark "=" || op.isMark ":=") && t.isWord "range" then
      let op ← mark op.text
      return [← rangeClause self lax [left.as .left, op]]
    else
      let first ← simpleRest self mode false left single
      if ← atMark ";" then return [← forClause self lax [first.as .initializer]]
      return [← ofOption (bareExpression? first)]
  | _ => refuse

/-- A `for` statement. -/
def forStatement (self : Grammar) : Reader Reading := do
  let start ← keyword "for"
  headed (forHead self) fun head => do
    let body ← self .block
    return .node .forStatement 0 (start :: head ++ [body.as .body])

/-! ## Statements with clauses -/

/-- What follows the colon of a clause. -/
def clauseBody (self : Grammar) : Reader (List Reading) := do
  let colon ← mark ":"
  return colon :: (← statementList self true)

/-- The clause for everything else. -/
def defaultCase (self : Grammar) : Reader Reading := do
  let start ← keyword "default"
  return .node .defaultCase 0 (start :: (← clauseBody self))

/-- A clause for some values. -/
def expressionCase (self : Grammar) : Reader Reading := do
  let start ← keyword "case"
  let values ← expressionList self {}
  return .node .expressionCase 0 (start :: values.as .value :: (← clauseBody self))

/-- A clause for some types; the commas count among them. -/
def typeCase (self : Grammar) : Reader Reading := do
  let start ← keyword "case"
  let first ← self (.type false)
  let types ← iterate (fun parts => do
    if ← atMark "," then
      let comma ← mark ","
      return some (parts ++ [comma, ← self (.type false)])
    else return none) [first]
  return .node .typeCase 0 (start :: types.map (·.as .type) ++ (← clauseBody self))

/-- A value to send, or a value to receive and where to put it. -/
def communication (self : Grammar) : Reader Reading := do
  let (left, single) ← leadingExpressions self {}
  let t ← peek
  if t.isMark "=" || t.isMark ":=" then
    let op ← mark t.text
    let right ← expression self {}
    return .node .receiveStatement 0 [left.as .left, op, right.as .right]
  let e ← ofOption single
  if t.isMark "<-" then
    let op ← mark "<-"
    return .node .sendStatement 0 [e, op, ← expression self {}]
  return .node .receiveStatement 0 [e.as .right]

/-- A clause for a communication. -/
def communicationCase (self : Grammar) : Reader Reading := do
  let start ← keyword "case"
  let comm ← communication self
  return .node .communicationCase 0 (start :: comm.as .communication :: (← clauseBody self))

/-- Clauses in braces. -/
def clauses (self : Grammar) (case : Reader Reading) : Reader (List Reading) := do
  let opening ← mark "\x7b"
  let found ← iterate (fun found => do
    if ← atWord "case" then return some (found ++ [← case])
    if ← atWord "default" then return some (found ++ [← defaultCase self])
    return none) []
  return opening :: found ++ [← mark "\x7d"]

/-- The question for a type. -/
def typeQuestion : Reader (List Reading) := do
  let dot ← mark "."
  let opening ← mark "("
  let word ← keyword "type"
  return [dot, opening, word, ← mark ")"]

/-- The head of a `switch` from the left side of a declaration on: either the declaration names the
value whose type is asked for, or it is an initialiser. -/
def switchDeclaration (self : Grammar) (left : Reading) : Reader (Bool × List Reading) := do
  let op ← mark ":="
  let value ← expression self { guarded := true }
  if ← atTypeQuestion then
    return (true, left :: op :: value.as .value :: (← typeQuestion))
  let right ← expressionsFrom self {} value
  return (false, [.node .shortVarDeclaration 0 [left.as .left, op, right.as .right]])

/-- A part of the head of a `switch`: a value, a question for the type of one, or a statement. The
result tells whether types are asked for. -/
def switchPart (self : Grammar) (lax : Bool) : Reader (Bool × List Reading) := do
  let mode : Mode := { headMode lax with guarded := true }
  let (left, single) ← leadingExpressions self mode
  if ← atMark ":=" then return ← switchDeclaration self left
  if ← atTypeQuestion then
    let value ← ofOption single
    return (true, value.as .value :: (← typeQuestion))
  return (false, [← simpleRest self mode false left single])

/-- The last part of the head of a `switch`. -/
def switchSubject (parts : Bool × List Reading) : Reader (Bool × List Reading) := do
  match parts with
  | (false, [r]) => return (false, [(← ofOption (bareExpression? r)).as .value])
  | _ => return parts

/-- The head of a `switch`. -/
def switchHead (self : Grammar) (lax : Bool) : Reader (Bool × List Reading) := do
  if ← atMark "\x7b" then return (false, [])
  let first ← switchPart self lax
  if first.1 || !(← atMark ";") then return ← switchSubject first
  let semi ← mark ";"
  let init := first.2.map (·.as .initializer)
  if ← atMark "\x7b" then return (false, init ++ [semi])
  let (types, parts) ← switchSubject (← switchPart self lax)
  return (types, init ++ semi :: parts)

/-- A `switch` statement. -/
def switchStatement (self : Grammar) : Reader Reading := do
  let start ← keyword "switch"
  headed (switchHead self) fun (types, head) => do
    if types then
      return .node .typeSwitchStatement 0 (start :: head ++ (← clauses self (typeCase self)))
    return .node .expressionSwitchStatement 0
      (start :: head ++ (← clauses self (expressionCase self)))

/-- A `select` statement. -/
def selectStatement (self : Grammar) : Reader Reading := do
  let start ← keyword "select"
  return .node .selectStatement 0 (start :: (← clauses self (communicationCase self)))

/-! ## All statements -/

/-- Whether an optional part of a statement is left out. -/
def atOmitted (inClause : Bool) : Reader Bool := do
  let t ← peek
  return t.newline.isSome || t.isMark ";" || t.kind == .nul || t.kind == .eof || closes inClause t

/-- The values of a `return`. -/
def returnStatement (self : Grammar) (inClause : Bool) : Reader Reading := do
  let start ← keyword "return"
  let values ← if ← atOmitted inClause then pure [] else pure [← expressionList self lineMode]
  return .node .returnStatement 0 (start :: values)

/-- A jump that may name a label. -/
def jumpStatement (word_ : String) (kind : Kind) (inClause : Bool) : Reader Reading := do
  let start ← keyword word_
  let label ← if ← atOmitted inClause then pure [] else pure [← word .labelName]
  return .node kind 0 (start :: label)

/-- The words that start a statement and are no names there. -/
def statementWords : List String :=
  ["const", "type", "var", "return", "go", "defer", "if", "for", "switch", "select", "fallthrough",
   "break", "continue", "goto", "func", "struct", "map", "chan", "interface", "new", "make", "nil",
   "true", "false", "iota"]

/-- A statement with a label, or a simple one. -/
def otherStatement (self : Grammar) (inClause : Bool) : Reader Reading := do
  let t ← peek
  if (← atLabel) && !statementWords.contains t.text then
    let label ← labelParts
    return .node .labeledStatement 0 (label ++ [← self (.statement inClause)])
  simpleStatement self lineMode false

/-- A statement that starts with a word. -/
def wordStatement (self : Grammar) (lenient inClause : Bool) (text : String) : Reader Reading := do
  match text with
  | "const" | "var" | "type" => declaration self lenient
  | "return" => returnStatement self inClause
  | "go" =>
    let start ← keyword "go"
    return .node .goStatement 0 [start, ← expression self lineMode]
  | "defer" =>
    let start ← keyword "defer"
    return .node .deferStatement 0 [start, ← expression self lineMode]
  | "if" => ifStatement self inClause
  | "for" => forStatement self
  | "switch" => switchStatement self
  | "select" => selectStatement self
  | "fallthrough" => return .node .fallthroughStatement 0 [← keyword "fallthrough"]
  | "break" => jumpStatement "break" .breakStatement inClause
  | "continue" => jumpStatement "continue" .continueStatement inClause
  | "goto" =>
    let start ← keyword "goto"
    return .node .gotoStatement 0 [start, ← word .labelName]
  | _ => otherStatement self inClause

/-- Any statement. -/
def statementOf (self : Grammar) (lenient inClause : Bool) : Reader Reading := do
  let t ← peek
  if t.kind == .word then wordStatement self lenient inClause t.text
  else if t.isMark "\x7b" then self .block
  else if t.isMark ";" then return .node .emptyStatement 0 [← mark ";"]
  else simpleStatement self lineMode false

end GoSurvey.Go.Grammar
