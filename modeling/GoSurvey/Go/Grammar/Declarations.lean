import GoSurvey.Go.Grammar.Expressions

/-!
# Declarations

Constants, variables, types, functions, imports and the package clause. In a group each
specification ends with a terminator. A lenient grammar still reads the group if one is forgotten
and the next specification or the end of the group follows, and marks the gap.
-/

namespace GoSurvey.Go.Grammar

open Reader

/-- The mode of an expression that a new line ends. -/
def lineMode : Mode :=
  { lines := true }

/-- A separator that was forgotten before the next token. -/
def absent : Reader Reading := do
  let s := (← peek).span
  let place : Span :=
    ⟨s.startByte, s.startByte, s.startLine, s.startCol, s.startLine, s.startCol⟩
  return ⟨.absent place, 0⟩

/-- Whether tokens are so few that leaving them out is the better guess than a forgotten separator
next to them. -/
def isSlight (tokens : List Token) : Bool :=
  match tokens.head?, tokens.getLast? with
  | some first, some last =>
    first.span.startLine == last.span.endLine && last.span.endByte < first.span.startByte + 10
  | _, _ => false

/-- Whether an item takes more than some tokens, or ends with a terminator, if it is followed by
others. -/
def goesOn (item : Reader Reading) (tokens rest : List Token) : Bool :=
  match (do let _ ← item; return (← terminator?).isSome) (tokens ++ rest) 0 with
  | (some (ended, left), _) => ended || left.length < rest.length || (left.all (·.kind == .eof))
  | (none, _) => false

/-- Takes a separator for forgotten after an item, which began at `start`. It is not if the item is
slight and the first one, nor if the next token is slight, closes nothing, and the item goes on
after it. -/
def forgotten (item : Reader Reading) (start : List Token) (isFirst : Bool) : Reader Reading := do
  let tokens ← ahead
  let taken := start.take (start.length - tokens.length)
  if isFirst && isSlight taken then refuse
  else if isSlight (tokens.take 1) && !(← atMark ")") && goesOn item taken (tokens.drop 1) then
    refuse
  else absent

/-- Specifications in parentheses. -/
def group (lenient : Bool) (spec : Reader Reading) : Reader (List Reading) := do
  let opening ← mark "("
  let specs ← iterate (fun specs => do
    if ← atMark ")" then return none
    let start ← ahead
    let s ← spec
    match ← terminator? with
    | some t => return some (specs ++ [s, t])
    | none =>
      let t ← peek
      if lenient && (t.isMark ")" || t.kind == .word) then
        return some (specs ++ [s, ← forgotten spec start specs.isEmpty])
      else refuse) []
  return opening :: specs ++ [← mark ")"]

/-- The values of a specification. -/
def initialValues (self : Grammar) : Reader (List Reading) := do
  let equals ← mark "="
  return [equals, (← expressionList self lineMode).as .value]

/-- The names of constants; the commas count among them. -/
def constNames : Reader (List Reading) := do
  return (← names .identifier).map (·.as .name)

/-- Constants with an optional type and values. -/
def constSpec (self : Grammar) : Reader Reading := do
  let ns ← constNames
  let rest ←
    if ← atNewline then pure []
    else if ← atMark "=" then initialValues self
    else
      let t ← peek
      if t.isMark "(" || startsType t then
        let type ← self (.type false)
        pure (type.as .type :: (← initialValues self))
      else pure []
  return .node .constSpec 0 (ns ++ rest)

/-- Variables with a type, values or both. -/
def varSpec (self : Grammar) : Reader Reading := do
  let ns ← names .identifier
  if ← atMark "=" then return .node .varSpec 0 (ns ++ (← initialValues self))
  let type ← self (.type true)
  let values ← if ← atNewline then pure []
    else if ← atMark "=" then initialValues self
    else pure []
  return .node .varSpec 0 (ns ++ type.as .type :: values)

/-- Type parameters of one constraint. -/
def typeParameterDeclaration (self : Grammar) : Reader Reading := do
  let ns ← names .identifier
  let constraint ← typeElem self .typeConstraint false
  return .node .typeParameterDeclaration 0 (ns ++ [constraint.as .type])

/-- Type parameters in brackets. -/
def typeParameterList (self : Grammar) : Reader Reading := do
  let opening ← mark "["
  let parts ← commaList "]" (typeParameterDeclaration self)
  return .node .typeParameterList 0 (opening :: parts ++ [← mark "]"])

/-- A type with a length in brackets, which may be taken for type parameters. -/
def lengthWeight (self : Grammar) : Reader Int := do
  let _ ← mark "["
  if ← atMark "]" then return 0
  let length ← expression self {}
  let _ ← mark "]"
  return length.weight

/-- Looks ahead with a reader and leaves the tokens where they are. -/
def look {α : Type} (p : Reader α) : Reader (Option α) :=
  fun ts reach =>
    match p ts reach with
    | (some (a, _), reach) => (some (some a, ts), reach)
    | (none, reach) => (some (none, ts), reach)

/-- Whether the brackets after the name of a type hold type parameters. -/
def atTypeParameters (self : Grammar) : Reader Bool := do
  if !(← atMark "[") then return false
  match ← look (lengthWeight self), ← look (typeParameterList self) with
  | _, none => return false
  | none, some _ => return true
  | some weight, some params => return weight < params.weight

/-- A new type, or another name for a type. -/
def typeSpec (self : Grammar) : Reader Reading := do
  let name ← word .typeIdentifier
  if ← atMark "=" then
    let equals ← mark "="
    let type ← self (.type true)
    return .node .typeAlias 0 [name.as .name, equals, type.as .type]
  let params ← if ← atTypeParameters self then pure [← typeParameterList self] else pure []
  let type ← self (.type true)
  return .node .typeSpec 0 (name.as .name :: params ++ [type.as .type])

/-- Constants, variables or types. -/
def declaration (self : Grammar) (lenient : Bool) : Reader Reading := do
  let t ← peek
  match t.text with
  | "const" =>
    let start ← keyword "const"
    let rest ← if ← atMark "(" then group lenient (constSpec self) else pure [← constSpec self]
    return .node .constDeclaration 0 (start :: rest)
  | "var" =>
    let start ← keyword "var"
    let rest ←
      if ← atMark "(" then pure (.node .varSpecList 0 (← group lenient (varSpec self)))
      else varSpec self
    return .node .varDeclaration 0 [start, rest]
  | _ =>
    let start ← keyword "type"
    let rest ← if ← atMark "(" then group lenient (typeSpec self) else pure [← typeSpec self]
    return .node .typeDeclaration 0 (start :: rest)

/-! ## Functions, imports and the package -/

/-- The body of a function, which has to start on the same line. -/
def optionalBody (self : Grammar) : Reader (List Reading) := do
  if ← atNewline then return []
  if ← atMark "\x7b" then return [(← self .block).as .body]
  return []

/-- A function. -/
def functionDeclaration (self : Grammar) : Reader Reading := do
  let start ← keyword "func"
  let name ← word .identifier
  let types ← if ← atMark "[" then pure [← typeParameterList self] else pure []
  let sig ← signature self true
  return .node .functionDeclaration 0
    (start :: name.as .name :: types ++ sig ++ (← optionalBody self))

/-- A method. -/
def methodDeclaration (self : Grammar) : Reader Reading := do
  let start ← keyword "func"
  let receiver ← self .parameters
  let name ← word .fieldIdentifier
  let sig ← signature self true
  return .node .methodDeclaration 0
    (start :: receiver.as .receiver :: name.as .name :: sig ++ (← optionalBody self))

/-- The name a file gives to an import. -/
def importName : Reader (List Reading) := do
  let t ← peek
  if t.isMark "." then return [(.leaf .dot (← next) : Reading).as .name]
  if t.isWord "_" then return [(.leaf .blankIdentifier (← next) : Reading).as .name]
  if t.kind == .word then return [(.leaf .packageIdentifier (← next) : Reading).as .name]
  return []

/-- An import. -/
def importSpec : Reader Reading := do
  let name ← importName
  return .node .importSpec 0 (name ++ [(← stringLiteral).as .path])

/-- One import, or several in parentheses. -/
def importDeclaration : Reader Reading := do
  let start ← keyword "import"
  if ← atMark "(" then
    let opening ← mark "("
    let specs ← lines ")" importSpec
    let list := Reading.node .importSpecList 0 (opening :: specs ++ [← mark ")"])
    return .node .importDeclaration 0 [start, list]
  return .node .importDeclaration 0 [start, ← importSpec]

/-- The package clause. -/
def packageClause : Reader Reading := do
  let start ← keyword "package"
  return .node .packageClause 0 [start, ← word .packageIdentifier]

end GoSurvey.Go.Grammar
