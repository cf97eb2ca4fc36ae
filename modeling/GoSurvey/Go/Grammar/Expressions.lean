import GoSurvey.Go.Grammar.Types

/-!
# Expressions

An expression is an operand with what follows it, and operators between such. An operand keeps all
its readings as long as more than one of them can go on.
-/

namespace GoSurvey.Go.Grammar

open Reader

/-! ## Lists -/

/-- Expressions with commas between them, of which the first is already read. -/
def expressionsFrom (self : Grammar) (mode : Mode) (first : Reading) : Reader Reading := do
  let parts ← iterate (fun parts => do
    if ← atEnd mode.lines then return none
    if ← atMark "," then
      let comma ← mark ","
      return some (parts ++ [comma, ← expression self mode])
    else return none) [first]
  return .node .expressionList 0 parts

/-- Expressions with commas between them. -/
def expressionList (self : Grammar) (mode : Mode) : Reader Reading := do
  expressionsFrom self mode (← expression self mode)

/-- An argument, which dots may follow. -/
def argument (self : Grammar) : Reader Reading := do
  let e ← expression self {}
  if ← atMark "..." then return .node .variadicArgument 0 [e, ← mark "..."]
  return e

/-- Arguments in parentheses. -/
def argumentList (self : Grammar) : Reader (List Reading) := do
  let opening ← mark "("
  let parts ← if ← atMark ")" then pure [] else commaList ")" (argument self)
  return opening :: parts ++ [← mark ")"]

/-- An element of a composite literal, or a key or value of one. -/
def literalElement (self : Grammar) : Reader Reading := do
  let e ← if ← atMark "\x7b" then self .literalValue else expression self {}
  return .node .literalElement 0 [e]

/-- An element of a composite literal, with or without a key. -/
def keyedElement (self : Grammar) : Reader Reading := do
  let first ← literalElement self
  if ← atMark ":" then
    let colon ← mark ":"
    return .node .keyedElement 0 [first, colon, ← literalElement self]
  return first

/-- The body of a composite literal. -/
def literalValue (self : Grammar) : Reader Reading := do
  let opening ← mark "\x7b"
  let parts ←
    if ← atMark "\x7d" then pure []
    else if ← atMark "," then pure [← mark ","]
    else commaList "\x7d" (keyedElement self)
  return .node .literalValue 0 (opening :: parts ++ [← mark "\x7d"])

/-! ## What starts an operand -/

/-- An operand that is only an expression. -/
def valueOf (r : Reading) : Operand :=
  { expr := some r }

/-- An operand that is only a type. -/
def typeOf (r : Reading) : Operand :=
  { type := some r }

/-- A name, which may stand for a value or a type. -/
def nameOf (t : Token) : Operand :=
  { expr := some (.leaf .identifier t)
    type := some (typeName (.leaf .typeIdentifier t))
    base := some (.leaf .typeIdentifier t)
    name := some t }

/-- The name of a function that takes a type first, or a call of it. -/
def specialCall (self : Grammar) (mode : Mode) : Reader Operand := do
  let function ← word .identifier
  if (← atEnd mode.lines) || !(← atMark "(") then return valueOf function
  let opening ← mark "("
  let parts ←
    if ← atMark ")" then pure []
    else
      let first ← self (.type false)
      iterate (fun parts => do
        if ← atMark "," then
          let comma ← mark ","
          if ← atMark ")" then return some (parts ++ [comma])
          return some (parts ++ [comma, ← expression self {}])
        else return none) [first]
  let args := Reading.node .argumentList 0 (opening :: parts ++ [← mark ")"])
  return valueOf (.node .callExpression 0 [function.as .function, args.as .arguments])

/-- A function type, or a function with its body. -/
def functionOperand (self : Grammar) : Reader Operand := do
  let start ← keyword "func"
  let parts := start :: (← signature self false)
  if ← atMark "\x7b" then
    let body ← self .block
    return valueOf (.node .funcLiteral 0 (parts ++ [body.as .body]))
  return typeOf (.node .functionType 0 parts)

/-- A slice or array type, of which the length may be left to the elements. -/
def sequenceOperand (self : Grammar) : Reader Operand := do
  match ← ahead with
  | _ :: t :: _ =>
    if t.isMark "..." then
      let opening ← mark "["
      let dots ← mark "..."
      let closing ← mark "]"
      let element ← self (.type false)
      return { base := some (.node .implicitLengthArrayType 0
        [opening, dots, closing, element.as .element]) }
    else return typeOf (← sequenceType self false)
  | _ => refuse

/-- An expression or a type in parentheses. -/
def parenthesized (self : Grammar) : Reader Operand := do
  let opening ← mark "("
  let inner ← self (.expr {} 1)
  let closing ← mark ")"
  let wrap (kind : Kind) (r : Reading) : Reading := .node kind 0 [opening, r, closing]
  return {
    expr := inner.expr.map (wrap .parenthesizedExpression)
    type := inner.type.map (wrap .parenthesizedType) }

/-- What a word starts. -/
def wordOperand (self : Grammar) (mode : Mode) (t : Token) : Reader Operand := do
  match t.text with
  | "func" => functionOperand self
  | "struct" | "map" | "chan" | "interface" => return typeOf (← anyType self false)
  | "new" | "make" => specialCall self mode
  | "nil" => return valueOf (.leaf .nilValue (← next))
  | "true" => return valueOf (.leaf .trueValue (← next))
  | "false" => return valueOf (.leaf .falseValue (← next))
  | "iota" => return valueOf (.leaf .iotaValue (← next))
  | _ => return nameOf (← next)

/-- An operand without what follows it. -/
def primary (self : Grammar) (mode : Mode) : Reader Operand := do
  let t ← peek
  match t.kind with
  | .word => wordOperand self mode t
  | .int => return valueOf (.leaf .intLiteral (← next))
  | .float => return valueOf (.leaf .floatLiteral (← next))
  | .imaginary => return valueOf (.leaf .imaginaryLiteral (← next))
  | .rune => return valueOf (.leaf .runeLiteral (← next))
  | .string | .rawString => return valueOf (← stringLiteral)
  | .mark =>
    if t.isMark "(" then parenthesized self
    else if t.isMark "[" then sequenceOperand self
    else if t.isMark "~" then return typeOf (← negatedType self false)
    else refuse
  | _ => refuse

/-! ## What follows an operand -/

/-- A field or method of a value, or a type of a package. -/
def selected (o : Operand) (dot name : Reading) (t : Token) : Operand :=
  let type := o.name.map fun package =>
    qualified (.leaf .packageIdentifier package) dot (.leaf .typeIdentifier t)
  { expr := o.expr.map fun e =>
      .node .selectorExpression 0 [e.as .operand, dot, name.as .field]
    type
    base := type }

/-- Whether the question for a type comes next. -/
def atTypeQuestion : Reader Bool := do
  match ← ahead with
  | a :: b :: c :: _ => return a.isMark "." && b.isMark "(" && c.isWord "type"
  | _ => return false

/-- What a dot starts: a selector or a type assertion. -/
def afterDot (self : Grammar) (o : Operand) : Reader Operand := do
  let dot ← mark "."
  if ← atMark "(" then
    let opening ← mark "("
    let type ← self (.type false)
    let closing ← mark ")"
    let e ← exprOf o
    return valueOf (.node .typeAssertionExpression 0
      [e.as .operand, dot, opening, type.as .type, closing])
  let t ← peek
  let name ← word .fieldIdentifier
  return selected o dot name t

/-- The bounds of a slice, from the first colon on. -/
def sliceFrom (self : Grammar) (o : Operand) (start : List Reading) : Reader Operand := do
  let e ← exprOf o
  let colon ← mark ":"
  let bounds ←
    if ← atMark "]" then pure []
    else
      let high ← expression self {}
      if ← atMark ":" then
        let second ← mark ":"
        pure [high, second, ← expression self {}]
      else pure [high]
  return valueOf (.node .sliceExpression 0
    (e.as .operand :: start ++ colon :: bounds ++ [← mark "]"]))

/-- A type argument. -/
def argumentOf (o : Operand) : Option Reading :=
  match o.type with
  | some t => some (.node .typeElem 0 [t])
  | none => o.union

/-- Puts readings in place of the operands they come from, between the marks that are there. -/
def fill (pick : Operand → Option Reading) : List (Reading ⊕ Operand) → Option (List Reading)
  | [] => some []
  | .inl mark :: rest => (fill pick rest).map (mark :: ·)
  | .inr o :: rest => do return (← pick o) :: (← fill pick rest)

/-- The readings of an operand with something in brackets after it. -/
def bracketed (o : Operand) (opening closing : Reading) (items : List (Reading ⊕ Operand)) :
    Operand :=
  let args := (fill argumentOf items).map fun parts =>
    Reading.node .typeArguments 2 (opening :: parts ++ [closing])
  let instantiation := do
    let type ← o.type
    let parts ← fill (·.type) items
    let label (r : Reading) : Reading := if r.tree.isNamed then r.as .type else r
    return Reading.node .typeInstantiationExpression (-1)
      (type.as .type :: opening :: parts.map label ++ [closing])
  let index := match items with
    | [.inr i] => do
      return Reading.node .indexExpression 0 [(← o.expr).as .operand, opening, ← i.expr, closing]
    | _ => none
  { expr := Reading.best? [instantiation, index]
    type := do return instantiate (← o.base) (← args)
    applied := do return (← o.expr, ← args) }

/-- What an opening bracket starts: an index, a slice or type arguments. -/
def afterBracket (self : Grammar) (o : Operand) : Reader Operand := do
  let opening ← mark "["
  if ← atMark ":" then return ← sliceFrom self o [opening]
  let first ← self (.expr {} 1)
  if ← atMark ":" then return ← sliceFrom self o [opening, ← exprOf first]
  let items ← iterate (fun items => do
    if ← atMark "," then
      let comma ← mark ","
      if ← atMark "]" then return some (items ++ [.inl comma])
      return some (items ++ [.inl comma, .inr (← self (.expr {} 1))])
    else return none) [Sum.inr first]
  let closing ← mark "]"
  let found := bracketed o opening closing items
  if found.expr.isNone && found.type.isNone && found.applied.isNone then refuse
  return found

/-- A conversion of a single value. -/
def conversion? (o : Operand) (args : List Reading) : Option Reading := do
  let type ← o.type
  match args.filter (·.tree.isNamed) with
  | [arg] =>
    if arg.tree.kind? == some .variadicArgument then none
    else return .node .typeConversionExpression (-1) (type.as .type :: args)
  | _ => none

/-- What an opening parenthesis starts: a call or a conversion. -/
def afterParen (self : Grammar) (o : Operand) : Reader Operand := do
  let args ← argumentList self
  let list := (Reading.node .argumentList 0 args).as .arguments
  let call := o.expr.map fun f => Reading.node .callExpression 0 [f.as .function, list]
  let applied := o.applied.map fun (f, types) =>
    Reading.node .callExpression 0 [f.as .function, types.as .typeArguments, list]
  return valueOf (← ofOption (Reading.best? [conversion? o args, call, applied]))

/-- The type a composite literal may start with. -/
def compositeType? (o : Operand) : Option Reading :=
  o.base <|> o.type.bind fun t =>
    match t.tree.kind? with
    | some .mapType | some .sliceType | some .arrayType | some .structType | some .genericType =>
      some t
    | _ => none

/-- Whether an opening brace after an operand belongs to it. -/
def takesBrace (mode : Mode) (o : Operand) : Bool :=
  (compositeType? o).isSome && (o.expr.isNone || !mode.header || (mode.lax && o.name.isNone))

/-- A composite literal. -/
def composite (self : Grammar) (o : Operand) : Reader Operand := do
  let type ← ofOption (compositeType? o)
  let body ← self .literalValue
  return valueOf (.node .compositeLiteral 0 [type.as .type, body.as .body])

/-- What follows an operand, if it goes on. A mere type goes on over new lines, because it is no
expression yet. -/
def following (self : Grammar) (mode : Mode) (o : Operand) : Reader (Option Operand) := do
  let isValue := o.expr.isSome
  if isValue && (← atEnd mode.lines) then return none
  if ← atMark "\x7b" then
    if takesBrace mode o then return some (← composite self o) else return none
  if ← atMark "(" then return some (← afterParen self o)
  if ← atMark "[" then return some (← afterBracket self o)
  if isValue && (← atMark ".") then
    if mode.guarded && (← atTypeQuestion) then return none
    return some (← afterDot self o)
  return none

/-! ## Operators -/

/-- The operators that may stand before an operand, longer ones first. -/
def unaryOperators : List String :=
  ["<-", "+", "-", "!", "^", "*", "&"]

/-- The operators between operands and how tightly they bind. -/
def binaryLevel? (op : String) : Option Nat :=
  if ["*", "/", "%", "<<", ">>", "&", "&^"].contains op then some 5
  else if ["+", "-", "|", "^"].contains op then some 4
  else if ["==", "!=", "<", "<=", ">", ">="].contains op then some 3
  else if op == "&&" then some 2
  else if op == "||" then some 1
  else none

/-- The unary operator a token starts with. -/
def unaryOperator? (t : Token) : Option String :=
  if t.kind == .mark then
    unaryOperators.find? fun op => op.toList.isPrefixOf t.text.toList
  else none

/-- The binary operator a token starts with. Where an arrow, a double plus or a double minus cannot
stand, only its first character is one. -/
def binaryOperator? (mode : Mode) (t : Token) : Option String :=
  if t.kind != .mark then none
  else
    match t.text with
    | "<-" => if mode.leading then none else some "<"
    | "++" => if mode.leading then none else some "+"
    | "--" => if mode.leading then none else some "-"
    | op => if (binaryLevel? op).isSome then some op else none

/-- The readings of an operand with an operator before it. -/
def unary (op : Reading) (o : Operand) : Operand :=
  { expr := o.expr.map fun e => .node .unaryExpression 0 [op.as .operator, e.as .operand]
    type := if op.tree.text == "*" then o.type.map fun t => .node .pointerType 0 [op, t] else none }

/-- An operand with what follows it and with operators before it. -/
def operand (self : Grammar) (mode : Mode) : Reader Operand := do
  match unaryOperator? (← peek) with
  | some op =>
    match ← ahead with
    | _ :: t :: _ =>
      if op == "<-" && t.isWord "chan" then
        iterate (following self mode) (typeOf (← channelType self false))
      else
        let op ← split op.length
        let found := unary op (← self (.expr mode 6))
        if found.expr.isNone && found.type.isNone then refuse
        return found
    | _ => refuse
  | none => iterate (following self mode) (← primary self mode)

/-- The parts of a union of types. -/
def unionParts (o : Operand) : Option (List Reading) :=
  match o.type, o.union with
  | some t, _ => some [t]
  | none, some u => some (u.tree.children.map (⟨·, 0⟩))
  | none, none => none

/-- The readings of two operands with an operator between them. -/
def binary (left : Operand) (op : Reading) (right : Operand) : Operand :=
  { expr := do
      let l ← left.expr
      let r ← right.expr
      return .node .binaryExpression 0 [l.as .left, op.as .operator, r.as .right]
    union := do
      if op.tree.text != "|" then none
      let l ← unionParts left
      let r ← right.type
      let whole := Reading.node .typeElem 0 (l ++ [op, r])
      let weight := (left.type <|> left.union).elim 0 (·.weight) + r.weight
      return { whole with weight } }

/-- Adds an operator and its right operand, if it binds tightly enough. -/
def binaryStep (self : Grammar) (mode : Mode) (level : Nat) (left : Operand) :
    Reader (Option Operand) := do
  if ← atEnd mode.lines then return none
  match binaryOperator? mode (← peek) with
  | none => return none
  | some op =>
    match binaryLevel? op with
    | none => return none
    | some l =>
      if l < level then return none
      let mark ← split op.length
      let right ← self (.expr mode (l + 1))
      let found := binary left mark right
      if found.expr.isNone && found.union.isNone then refuse
      return some found

/-- An expression whose operators bind at least as tightly as a level. -/
def expressionAt (self : Grammar) (mode : Mode) (level : Nat) : Reader Operand := do
  let first ← operand self mode
  if level ≤ 5 then iterate (binaryStep self mode level) first else return first

end GoSurvey.Go.Grammar
