import GoSurvey.Go.Grammar.Reading

/-!
# Types

A type name weighs less than any other type, so a piece of source that may be a type or a value is
taken for a value; type arguments outweigh that.
-/

namespace GoSurvey.Go.Grammar

open Reader

/-- The words that start a type and are no names there. -/
def typeWords : List String :=
  ["func", "struct", "map", "chan", "interface"]

/-- Whether a token can start a type other than one in parentheses. -/
def startsType (t : Token) : Bool :=
  t.kind == .word || ["*", "[", "<-", "~"].any t.isMark

/-- A type name that stands for a type. -/
def typeName (r : Reading) : Reading :=
  match r.tree.kind? with
  | some .typeIdentifier => { r with weight := r.weight - 1 }
  | _ => r

/-- Types with bars between them. -/
def typeElem (self : Grammar) (kind : Kind) (lines : Bool) : Reader Reading := do
  let first ← self (.type lines)
  let parts ← iterate (fun parts => do
    if ← atEnd lines then return none
    if ← atMark "|" then
      let bar ← mark "|"
      return some (parts ++ [bar, ← self (.type lines)])
    else return none) [first]
  return .node kind 0 parts

/-- Items with commas between them, of which the last may be followed by one. -/
def commaList (closing : String) (item : Reader Reading) : Reader (List Reading) := do
  let first ← item
  iterate (fun parts => do
    if ← atMark "," then
      let comma ← mark ","
      if ← atMark closing then return some (parts ++ [comma])
      return some (parts ++ [comma, ← item])
    else return none) [first]

/-- Type arguments in brackets. -/
def typeArguments (self : Grammar) : Reader Reading := do
  let opening ← mark "["
  let parts ← commaList "]" (typeElem self .typeElem false)
  return .node .typeArguments 2 (opening :: parts ++ [← mark "]"])

/-- A type with its arguments. -/
def instantiate (base args : Reading) : Reading :=
  .node .genericType 1 [base.as .type, args.as .typeArguments]

/-- A name from another package. -/
def qualified (package dot name : Reading) : Reading :=
  .node .qualifiedType 0 [package.as .package, dot, name.as .name]

/-- A name, possibly from another package, without type arguments. -/
def typeBase (lines : Bool) : Reader Reading := do
  let t ← peek
  let name ← word .typeIdentifier
  if ← atEnd lines then return name
  if ← atMark "." then
    let dot ← mark "."
    return qualified (.leaf .packageIdentifier t) dot (← word .typeIdentifier)
  return name

/-- A named type. -/
def namedType (self : Grammar) (lines : Bool) : Reader Reading := do
  let base ← typeBase lines
  if ← atEnd lines then return typeName base
  if ← atMark "[" then return instantiate base (← typeArguments self)
  return typeName base

/-- Whether results of a function follow. -/
def atResult (lines : Bool) : Reader Bool := do
  if ← atEnd lines then return false
  let t ← peek
  return t.isMark "(" || startsType t

/-- The results of a function: a type, or parameters in parentheses. -/
def result (self : Grammar) (lines : Bool) : Reader (List Reading) := do
  if ← atResult lines then
    let r ← if ← atMark "(" then self .parameters else self (.type lines)
    return [r.as .result]
  return []

/-- The parameters and the results of a function. -/
def signature (self : Grammar) (lines : Bool) : Reader (List Reading) := do
  let params ← self .parameters
  return params.as .parameters :: (← result self lines)

/-- A function type. -/
def functionType (self : Grammar) (lines : Bool) : Reader Reading := do
  let start ← keyword "func"
  return .node .functionType 0 (start :: (← signature self lines))

/-- A map type. -/
def mapType (self : Grammar) (lines : Bool) : Reader Reading := do
  let start ← keyword "map"
  let opening ← mark "["
  let key ← self (.type false)
  let closing ← mark "]"
  let value ← self (.type lines)
  return .node .mapType 0 [start, opening, key.as .key, closing, value.as .value]

/-- A channel type. -/
def channelType (self : Grammar) (lines : Bool) : Reader Reading := do
  let start ← if ← atMark "<-" then pure [← mark "<-"] else pure []
  let word ← keyword "chan"
  let arrow ← if start.isEmpty && (← atMark "<-") then pure [← mark "<-"] else pure []
  let value ← self (.type lines)
  return .node .channelType 0 (start ++ [word] ++ arrow ++ [value.as .value])

/-- A pointer type. -/
def pointerType (self : Grammar) (lines : Bool) : Reader Reading := do
  let star ← mark "*"
  return .node .pointerType 0 [star, ← self (.type lines)]

/-- All types with the same structure as a given one. -/
def negatedType (self : Grammar) (lines : Bool) : Reader Reading := do
  let tilde ← mark "~"
  return .node .negatedType 0 [tilde, ← self (.type lines)]

/-- A type in parentheses. -/
def parenthesizedType (self : Grammar) : Reader Reading := do
  let opening ← mark "("
  let inner ← self (.type false)
  return .node .parenthesizedType 0 [opening, inner, ← mark ")"]

/-- The expression reading of an operand. -/
def exprOf (o : Operand) : Reader Reading :=
  ofOption o.expr

/-- A whole expression. -/
def expression (self : Grammar) (mode : Mode) : Reader Reading := do
  exprOf (← self (.expr mode 1))

/-- A slice or array type. -/
def sequenceType (self : Grammar) (lines : Bool) : Reader Reading := do
  let opening ← mark "["
  if ← atMark "]" then
    let closing ← mark "]"
    let element ← self (.type lines)
    return .node .sliceType 0 [opening, closing, element.as .element]
  let length ← expression self {}
  let closing ← mark "]"
  let element ← self (.type lines)
  return .node .arrayType 0 [opening, length, closing, element.as .element]

/-! ## Structs and interfaces -/

/-- Names with commas between them. -/
def names (kind : Kind) : Reader (List Reading) := do
  let first ← word kind
  iterate (fun parts => do
    if ← atMark "," then
      let comma ← mark ","
      return some (parts ++ [comma, (← word kind).as .name])
    else return none) [first.as .name]

/-- Fields with names and a type. -/
def namedFields (self : Grammar) : Reader (List Reading) := do
  let ns ← names .fieldIdentifier
  if ns.length == 1 && (← atNewline) then refuse
  let type ← self (.type true)
  return ns ++ [type.as .type]

/-- A type that is a field by itself. -/
def embeddedField (self : Grammar) : Reader (List Reading) := do
  let star ← if ← atMark "*" then pure [← mark "*"] else pure []
  let base ← typeBase true
  let type ←
    if ← atNewline then pure (typeName base)
    else if ← atMark "[" then pure (instantiate base (← typeArguments self))
    else pure (typeName base)
  return star ++ [type.as .type]

/-- A text literal. -/
def stringLiteral : Reader Reading := do
  let t ← peek
  match t.kind with
  | .string => return .leaf .interpretedStringLiteral (← next)
  | .rawString => return .leaf .rawStringLiteral (← next)
  | _ => refuse

/-- Whether a field ends here. -/
def atFieldEnd : Reader Bool := do
  let t ← peek
  return t.newline.isSome || t.isMark ";" || t.isMark "\x7d" || t.kind == .nul

/-- A field and its tag. -/
def fieldDeclaration (self : Grammar) : Reader Reading := do
  let tagged (fields : Reader (List Reading)) : Reader (List Reading) := do
    let parts ← fields
    let tag ← if ← atFieldEnd then pure [] else pure [← stringLiteral]
    if ← atFieldEnd then return parts ++ tag else refuse
  let parts ← tagged (embeddedField self) <|> tagged (namedFields self)
  return .node .fieldDeclaration 0 parts

/-- A struct type. -/
def structType (self : Grammar) : Reader Reading := do
  let start ← keyword "struct"
  let opening ← mark "\x7b"
  let fields ← lines "\x7d" (fieldDeclaration self)
  let list := Reading.node .fieldDeclarationList 0 (opening :: fields ++ [← mark "\x7d"])
  return .node .structType 0 [start, list]

/-- A method of an interface. -/
def methodElem (self : Grammar) : Reader Reading := do
  let name ← word .fieldIdentifier
  return .node .methodElem 0 (name.as .name :: (← signature self true))

/-- An element of an interface. -/
def interfaceElem (self : Grammar) : Reader Reading := do
  match ← ahead with
  | t :: u :: _ =>
    if t.kind == .word && !typeWords.contains t.text && u.isMark "(" && u.newline.isNone then
      methodElem self
    else typeElem self .typeElem true
  | _ => refuse

/-- An interface type. -/
def interfaceType (self : Grammar) : Reader Reading := do
  let start ← keyword "interface"
  let opening ← mark "\x7b"
  let elems ← lines "\x7d" (interfaceElem self)
  return .node .interfaceType 0 (start :: opening :: elems ++ [← mark "\x7d"])

/-- Any type. -/
def anyType (self : Grammar) (lines : Bool) : Reader Reading := do
  let t ← peek
  if t.kind == .word then
    match t.text with
    | "func" => functionType self lines
    | "struct" => structType self
    | "map" => mapType self lines
    | "chan" => channelType self lines
    | "interface" => interfaceType self
    | _ => namedType self lines
  else if t.isMark "(" then parenthesizedType self
  else if t.isMark "*" then pointerType self lines
  else if t.isMark "[" then sequenceType self lines
  else if t.isMark "<-" then channelType self lines
  else if t.isMark "~" then negatedType self lines
  else refuse

/-! ## Parameters -/

/-- Whether a parameter ends here. -/
def atParameterEnd : Reader Bool := do
  let t ← peek
  return t.isMark "," || t.isMark ")"

/-- A word that may name a parameter. -/
def parameterName : Reader Reading := do
  let t ← peek
  if typeWords.contains t.text then refuse else return (← word .identifier).as .name

/-- A last parameter that takes any number of arguments. -/
def variadicParameter (self : Grammar) (name : List Reading) : Reader Reading := do
  let dots ← mark "..."
  let type ← self (.type false)
  return .node .variadicParameterDeclaration 0 (name ++ [dots, type.as .type])

/-- Names with commas between them, and their type. -/
def namedParameters (self : Grammar) : Reader Reading := do
  let first ← parameterName
  if ← atMark "..." then return ← variadicParameter self [first]
  let ns ← iterate (fun parts => do
    if ← atMark "," then
      let comma ← mark ","
      return some (parts ++ [comma, ← parameterName])
    else return none) [first]
  let type ← self (.type false)
  return .node .parameterDeclaration 0 (ns ++ [type.as .type])

/-- A parameter without a name. -/
def unnamedParameter (self : Grammar) : Reader Reading := do
  if ← atMark "..." then variadicParameter self []
  else return .node .parameterDeclaration 0 [(← self (.type false)).as .type]

/-- Named parameters of one type, or a type alone. -/
def parameter (self : Grammar) : Reader Reading := do
  let complete (p : Reader Reading) : Reader Reading := do
    let r ← p
    if ← atParameterEnd then return r else refuse
  complete (namedParameters self) <|> complete (unnamedParameter self)

/-- Parameters in parentheses. -/
def parameterList (self : Grammar) : Reader Reading := do
  let opening ← mark "("
  let parts ←
    if ← atMark ")" then pure []
    else if ← atMark "," then pure [← mark ","]
    else commaList ")" (parameter self)
  return .node .parameterList 0 (opening :: parts ++ [← mark ")"])

end GoSurvey.Go.Grammar
