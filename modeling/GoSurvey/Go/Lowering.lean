import GoSurvey.Code.File
import GoSurvey.Go.Tree

/-!
# From trees to code

Types, statements and declarations as the analysis sees them. A part is found by its label; a part
that is missing is shown by the kind of the node it is missing from.

Comments have no labels. They are kept where all parts of a node count, and left out otherwise.
-/

namespace GoSurvey.Go.Tree

/-- The texts of the parts with a label. -/
def textsAt (label : Label) (children : List Tree) : List String :=
  (children.filter (·.label == some label)).map (·.text)

/-- The text of the first part with a label. -/
def textAt? (label : Label) (children : List Tree) : Option String :=
  (textsAt label children).head?

/-- Whether a tree is a certain mark. -/
def isMark (text : String) : Tree → Bool
  | .mark _ t _ => t == text
  | _ => false

/-- Whether the first part that is no comment is a certain mark. -/
def startsWithMark (text : String) (children : List Tree) : Bool :=
  (children.find? (!·.isComment)).any (isMark text)

/-! ## Types -/

mutual
/-- A type, or a value where one stands for a type. -/
def toType : Tree → TypeExpr
  | .leaf _ kind text _ =>
    if kind.isName || kind == .typeIdentifier then .ident text
    else if kind.isLiteral then .literal text
    else .unsupported kind.name
  | .mark _ text _ => .unsupported text
  | .absent _ => .unsupported "MISSING"
  | .comment _ _ => .unsupported "comment"
  | .node _ kind _ children =>
    let missing := TypeExpr.unsupported kind.name
    match kind with
    | .pointerType => .pointer ((firstType children).getD missing)
    | .parenthesizedType | .parenthesizedExpression => (firstType children).getD missing
    | .sliceType | .arrayType | .implicitLengthArrayType =>
      .slice ((typeAt .element children).getD missing)
    | .mapType =>
      .map ((typeAt .key children).getD missing) ((typeAt .value children).getD missing)
    | .channelType => .chan ((typeAt .value children).getD missing)
    | .functionType => .func (bindingsAt .parameters children) (resultBindings children)
    | .interfaceType => .interface (elements children)
    | .structType => .struct (structFields children)
    | .qualifiedType =>
      match textAt? .package children, textAt? .name children with
      | some package, some name => .selector (.ident package) name
      | _, _ => missing
    | .selectorExpression =>
      match typeAt .operand children, textAt? .field children with
      | some base, some member => .selector base member
      | _, _ => missing
    | .genericType =>
      .generic ((typeAt .type children).getD missing) (typesAt .typeArguments children)
    | .typeElem =>
      if children.any (isMark "|") then missing else (firstType children).getD missing
    | _ => missing

/-- The first named part that is no comment. -/
def firstType : List Tree → Option TypeExpr
  | [] => none
  | t :: ts => if t.isNamed && !t.isComment then some t.toType else firstType ts

/-- The first part with a label. -/
def typeAt (label : Label) : List Tree → Option TypeExpr
  | [] => none
  | t :: ts => if t.label == some label then some t.toType else typeAt label ts

/-- All named parts. -/
def allTypes : List Tree → List TypeExpr
  | [] => []
  | t :: ts => if t.isNamed then t.toType :: allTypes ts else allTypes ts

/-- All named parts of the first part with a label. -/
def typesAt (label : Label) : List Tree → List TypeExpr
  | [] => []
  | .node l _ _ parts :: ts => if l == some label then allTypes parts else typesAt label ts
  | _ :: ts => typesAt label ts

/-- The parameters in a list of them. -/
def bindings : List Tree → List (Binding TypeExpr)
  | [] => []
  | .node _ kind _ parts :: ts =>
    match typeAt .type parts with
    | none => bindings ts
    | some t =>
      ⟨textsAt .name parts, if kind == .variadicParameterDeclaration then .variadic t else t⟩
        :: bindings ts
  | _ :: ts => bindings ts

/-- The parameters in the first part with a label. -/
def bindingsAt (label : Label) : List Tree → List (Binding TypeExpr)
  | [] => []
  | .node l _ _ parts :: ts => if l == some label then bindings parts else bindingsAt label ts
  | _ :: ts => bindingsAt label ts

/-- The results of a function: parameters in parentheses, or a type alone. -/
def resultBindings : List Tree → List (Binding TypeExpr)
  | [] => []
  | .node l kind span parts :: ts =>
    if l == some .result then
      if kind == .parameterList then bindings parts
      else [⟨[], toType (.node l kind span parts)⟩]
    else resultBindings ts
  | t :: ts => if t.label == some .result then [⟨[], t.toType⟩] else resultBindings ts

/-- The elements of an interface; a method counts as a function type under its name. -/
def elements : List Tree → List (Binding TypeExpr)
  | [] => []
  | .node l kind span parts :: ts =>
    if kind == .methodElem then
      match textAt? .name parts with
      | none => elements ts
      | some name =>
        ⟨[name], .func (bindingsAt .parameters parts) (resultBindings parts)⟩ :: elements ts
    else ⟨[], toType (.node l kind span parts)⟩ :: elements ts
  | t :: ts =>
    if t.isNamed && !t.isComment then ⟨[], t.toType⟩ :: elements ts else elements ts

/-- The fields of a struct. -/
def structFields : List Tree → List (Binding TypeExpr)
  | [] => []
  | .node _ kind _ parts :: ts =>
    if kind == .fieldDeclarationList then fields parts else structFields ts
  | _ :: ts => structFields ts

/-- The fields in a list of them. -/
def fields : List Tree → List (Binding TypeExpr)
  | [] => []
  | .node _ kind _ parts :: ts =>
    match (if kind == .fieldDeclaration then typeAt .type parts else none) with
    | none => fields ts
    | some t =>
      let names := textsAt .name parts
      let t := if names.isEmpty && startsWithMark "*" parts then .pointer t else t
      ⟨names, t⟩ :: fields ts
  | _ :: ts => fields ts
end

/-! ## Statements and expressions -/

/-- What stands where something is missing. -/
def missingNode : Node :=
  .other "MISSING" []

mutual
/-- A statement, an expression, or any other part of a body. -/
def toNode : Tree → Node
  | .leaf label kind text span =>
    if kind.isName then .ident text
    else if kind.isLiteral then .literal text
    else if kind.isType then .type (toType (.leaf label kind text span))
    else .other kind.name []
  | .mark _ text _ => .other text []
  | .absent _ => missingNode
  | .comment text _ => .comment text
  | .node label kind span children =>
    if kind.isType then .type (toType (.node label kind span children))
    else
      match kind with
      | .expressionStatement | .parenthesizedExpression =>
        match firstNode children with
        | some inner => inner
        | none => .other kind.name (nodes children)
      | .unaryExpression =>
        match nodeAt .operand children with
        | some operand => .unary ((textAt? .operator children).getD "") operand
        | none => .other kind.name (nodes children)
      | .binaryExpression =>
        match nodeAt .left children, nodeAt .right children with
        | some left, some right => .binary ((textAt? .operator children).getD "") left right
        | _, _ => .other kind.name (nodes children)
      | .callExpression =>
        match nodeAt .function children with
        | some function => .call function (nodesAt .arguments children)
        | none => .other kind.name (nodes children)
      | .selectorExpression =>
        match nodeAt .operand children, textAt? .field children with
        | some operand, some field => .selector operand field
        | _, _ => .other kind.name (nodes children)
      | .ifStatement =>
        .cond (nodeAt .initializer children) ((nodeAt .condition children).getD missingNode)
          ((blockAt .consequence children).getD (.mk span [])) (nodeAt .alternative children)
      | .forStatement => loop ((blockAt .body children).getD (.mk span [])) children
      | .expressionSwitchStatement | .typeSwitchStatement =>
        .switch (nodeAt .initializer children) (nodeAt .value children)
          (clauses .case children) (commentNodes children)
      | .selectStatement => .select (clauses .comm children) (commentNodes children)
      | .block => .block (.mk span (nodes children))
      | .returnStatement => .ret (spread children)
      | _ => .other kind.name (nodes children)

/-- The named parts. -/
def nodes : List Tree → List Node
  | [] => []
  | t :: ts => if t.isNamed then t.toNode :: nodes ts else nodes ts

/-- The named parts, with the items of lists in place of the lists. -/
def spread : List Tree → List Node
  | [] => []
  | .node l kind span parts :: ts =>
    if kind == .expressionList then nodes parts ++ spread ts
    else toNode (.node l kind span parts) :: spread ts
  | t :: ts => if t.isNamed then t.toNode :: spread ts else spread ts

/-- The first named part that is no comment. -/
def firstNode : List Tree → Option Node
  | [] => none
  | t :: ts => if t.isNamed && !t.isComment then some t.toNode else firstNode ts

/-- The first part with a label. -/
def nodeAt (label : Label) : List Tree → Option Node
  | [] => none
  | t :: ts => if t.label == some label then some t.toNode else nodeAt label ts

/-- The named parts of the first part with a label. -/
def nodesAt (label : Label) : List Tree → List Node
  | [] => []
  | .node l _ _ parts :: ts => if l == some label then nodes parts else nodesAt label ts
  | _ :: ts => nodesAt label ts

/-- The first part with a label, as a block. -/
def blockAt (label : Label) : List Tree → Option Block
  | [] => none
  | .node l _ span parts :: ts =>
    if l == some label then some (.mk span (nodes parts)) else blockAt label ts
  | _ :: ts => blockAt label ts

/-- A loop with a body, by what its head holds. -/
def loop (body : Block) : List Tree → Node
  | [] => .loop none none none body
  | .node l kind span parts :: ts =>
    match kind with
    | .block => loop body ts
    | .rangeClause => .range (nodeAt .left parts) ((nodeAt .right parts).getD missingNode) body
    | .forClause =>
      .loop (nodeAt .initializer parts) (nodeAt .condition parts) (nodeAt .update parts) body
    | _ => .loop none (some (toNode (.node l kind span parts))) none body
  | t :: ts =>
    if t.isNamed && !t.isComment then .loop none (some t.toNode) none body
    else loop body ts

/-- The comments between clauses. -/
def commentNodes : List Tree → List Node
  | [] => []
  | t :: ts => if t.isComment then .comment t.text :: commentNodes ts else commentNodes ts

/-- The clauses of a `switch` or `select`. -/
def clauses (kind : ClauseKind) : List Tree → List Clause
  | [] => []
  | .node _ k _ parts :: ts =>
    match k with
    | .expressionCase | .typeCase =>
      .mk .case false (heads parts) (bodies parts) :: clauses kind ts
    | .communicationCase => .mk .comm false (heads parts) (bodies parts) :: clauses kind ts
    | .defaultCase => .mk kind true (heads parts) (bodies parts) :: clauses kind ts
    | _ => clauses kind ts
  | _ :: ts => clauses kind ts

/-- What a clause is for: the parts with a label. -/
def heads : List Tree → List Node
  | [] => []
  | .node l kind span parts :: ts =>
    if l.isNone then heads ts
    else if kind == .expressionList then nodes parts ++ heads ts
    else toNode (.node l kind span parts) :: heads ts
  | t :: ts => if t.label.isNone then heads ts else t.toNode :: heads ts

/-- What a clause does: the named parts without a label. -/
def bodies : List Tree → List Node
  | [] => []
  | t :: ts => if t.isNamed && t.label.isNone then t.toNode :: bodies ts else bodies ts
end

/-! ## Declarations -/

/-- The first part with a label. -/
def childAt? (label : Label) (children : List Tree) : Option Tree :=
  children.find? (·.label == some label)

/-- A function or method. -/
def toFuncDecl? (t : Tree) : Option FuncDecl := do
  let name ← childAt? .name t.children
  return {
    name := name.text
    receiver := (bindingsAt .receiver t.children).head?.map (·.type)
    params := bindingsAt .parameters t.children
    results := resultBindings t.children
    body := blockAt .body t.children
    span := t.span }

/-- A new type or another name for one. -/
def toTypeSpec? (t : Tree) : Option TypeSpec := do
  if t.kind? == some .typeSpec || t.kind? == some .typeAlias then
    let name ← childAt? .name t.children
    let type ← childAt? .type t.children
    return { name := name.text, type := type.toType, span := t.span }
  else none

/-- The values in a list of expressions. -/
def valuesOf (t : Tree) : List TypeExpr :=
  if t.kind? == some .expressionList then
    (t.children.filter fun c => c.isNamed && !c.isComment).map toType
  else [t.toType]

/-- Constants or variables. -/
def toValueSpec (kind : ValueKind) (t : Tree) : ValueSpec where
  kind
  names := textsAt .name t.children
  type := (childAt? .type t.children).map toType
  values := ((childAt? .value t.children).map valuesOf).getD []
  span := t.span

/-- The specifications of a declaration of constants or variables. -/
def valueSpecs (kind : ValueKind) (t : Tree) : List ValueSpec :=
  t.children.flatMap fun c =>
    match c.kind? with
    | some .varSpec | some .constSpec => [c.toValueSpec kind]
    | some .varSpecList =>
      (c.children.filter fun d => d.kind? == some .varSpec).map (toValueSpec kind)
    | _ => []

/-- The declarations an item of a file makes, imports apart. -/
def toDecls (t : Tree) : List Decl :=
  match t.kind? with
  | some .functionDeclaration | some .methodDeclaration => t.toFuncDecl?.toList.map .func
  | some .typeDeclaration => (t.children.filterMap toTypeSpec?).map .type
  | some .varDeclaration => (t.valueSpecs .var).map .value
  | some .constDeclaration => (t.valueSpecs .const).map .value
  | _ => []

/-! ## Imports and the package -/

/-- A text without the quotes at both its ends. -/
def unquote (s : String) : String :=
  let isQuote := fun c => c == '"'
  String.ofList (((s.toList.dropWhile isQuote).reverse.dropWhile isQuote).reverse)

/-- An import whose path is a quoted text that is not empty. A dot or an underscore is no name. -/
def toImport? (t : Tree) : Option ImportSpec := do
  let path ← childAt? .path t.children
  if path.kind? != some .interpretedStringLiteral then none
  let text := unquote path.text
  if text.isEmpty then none
  let givenName := t.children.find? fun c =>
    c.label == some .name && c.kind? == some .packageIdentifier
  return { path := text, givenName := givenName.map (·.text), span := path.span }

/-- The import specifications of a declaration. -/
def importSpecs (t : Tree) : List Tree :=
  t.children.flatMap fun c =>
    match c.kind? with
    | some .importSpec => [c]
    | some .importSpecList => c.children.filter fun d => d.kind? == some .importSpec
    | _ => []

/-- Keeps the first import of every path. -/
def firstOfPath : List ImportSpec → List ImportSpec
  | [] => []
  | i :: is => i :: (firstOfPath is).filter (·.path != i.path)

/-- The imports of a file, one for each path, sorted by path. -/
def imports (root : Tree) : List ImportSpec :=
  let declarations := root.children.filter fun c => c.kind? == some .importDeclaration
  (firstOfPath ((declarations.flatMap importSpecs).filterMap toImport?)).mergeSort
    fun a b => (compare a.path b.path).isLE

/-- The name in the first package clause. -/
def package? (root : Tree) : Option String := do
  let clause ← root.children.find? fun c => c.kind? == some .packageClause
  let name ← clause.children.find? fun c => c.kind? == some .packageIdentifier
  return name.text

/-- The code in a file. -/
def toSourceFile (path : String) (root : Tree) : SourceFile where
  path
  package := (package? root).getD ""
  decls := root.imports.map .imported ++ root.children.flatMap toDecls
  hasErrors := root.isDamaged

end GoSurvey.Go.Tree
