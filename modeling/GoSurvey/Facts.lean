import GoSurvey.Code.File
import GoSurvey.Fingerprint.Canonical
import GoSurvey.Metric.Tally
import GoSurvey.Record
import GoSurvey.TypeText.Cache

/-!
# Facts of one file

The records of a source file. Imports, globals and types are collected first, so that a function
sees all of them wherever they are declared in the file. What a body refers to is read off the list
of its nodes in source order.
-/

namespace GoSurvey

/-- Everything extracted from one file. -/
structure FileFacts where
  path : String
  package : String
  functions : List FunctionRecord
  structs : List StructRecord
  interfaces : List InterfaceRecord
  globals : List GlobalRecord
  imports : List ImportRecord
  /-- The methods declared for each receiver, as pairs of a struct and a method name. -/
  methodsByStruct : List (String × String)
deriving Inhabited

/-! ## References of a body -/

/-- Adds a text at the end of a list unless it is there already. -/
def pushNew (xs : List String) (x : String) : List String :=
  if x ∈ xs then xs else xs ++ [x]

/-- The file-level names that bodies can refer to. -/
structure Scope where
  globals : List String
  imports : List ImportSpec

namespace Scope

/-- The paths of the imports that go by a name. -/
def pathsOf (s : Scope) (base : String) : List String :=
  (s.imports.filter fun i => i.localName == base).map (·.path)

end Scope

/-- A chain of selectors seen as a type expression. -/
def Node.asType : Node → TypeExpr
  | .ident name => .ident name
  | .literal text => .literal text
  | .selector e field => .selector e.asType field
  | .type t => t
  | .call _ _ => .unsupported "call_expression"
  | .other kind _ => .unsupported kind
  | _ => .unsupported "expression"

/-- What a body refers to, each name once and in the order of its first occurrence. -/
structure References where
  callees : List String
  globals : List String
  dependencies : List String
deriving DecidableEq, Repr, Inhabited

namespace References

/-- No references. -/
def empty : References :=
  ⟨[], [], []⟩

/-- The references of one more node. The callee of a call counts if it is a name or a selector; a
selector on a name counts for every import that goes by that name. -/
def visit (scope : Scope) (n : Node) (r : References) (c : TypeCache) : References × TypeCache :=
  match n with
  | .call (.ident name) _ => ({ r with callees := pushNew r.callees name }, c)
  | .call (.selector e field) _ =>
    let (text, c) := TypeCache.render (Node.selector e field).asType c
    ({ r with callees := pushNew r.callees text }, c)
  | .ident name =>
    (if name ∈ scope.globals then { r with globals := pushNew r.globals name } else r, c)
  | .selector (.ident base) _ =>
    ({ r with dependencies := (scope.pathsOf base).foldl pushNew r.dependencies }, c)
  | _ => (r, c)

/-- The references of nodes from left to right. -/
def visitAll (scope : Scope) : List Node → References → TypeCache → References × TypeCache
  | [], r, c => (r, c)
  | n :: ns, r, c =>
    let (r, c) := visit scope n r c
    visitAll scope ns r c

/-- The references of a body, if there is one. -/
def ofBody (scope : Scope) : Option Block → TypeCache → References × TypeCache
  | none, c => (empty, c)
  | some body, c => visitAll scope (Node.preorderBlock body) empty c

end References

/-! ## Declarations -/

/-- The struct behind the type of a receiver, beyond pointers and type arguments. -/
def TypeExpr.receiverName? : TypeExpr → Option String
  | .ident name => some name
  | .pointer t => t.receiverName?
  | .generic base _ => base.receiverName?
  | _ => none

namespace FileFacts

/-- The text of a type for every name bound to it, or once if there is no name. -/
def bindingTypes : List (Binding TypeExpr) → TypeCache → List String × TypeCache
  | [], c => ([], c)
  | ⟨names, t⟩ :: bs, c =>
    let (text, c) := TypeCache.render t c
    let (texts, c) := bindingTypes bs c
    (List.replicate (max names.length 1) text ++ texts, c)

/-- The text of an expression that may be missing. -/
def optionalText : Option TypeExpr → TypeCache → String × TypeCache
  | none, c => ("", c)
  | some t, c => TypeCache.render t c

/-- Names paired by position with the texts of their values. -/
def valueTexts : List String → List TypeExpr → TypeCache → List (String × String) × TypeCache
  | [], _, c => ([], c)
  | name :: names, values, c =>
    let (text, c) := optionalText values.head? c
    let (texts, c) := valueTexts names values.tail c
    ((name, text) :: texts, c)

/-- The records of one value declaration. -/
def globalsOf (file package : String) (spec : ValueSpec) (c : TypeCache) :
    List GlobalRecord × TypeCache :=
  let (type, c) := optionalText spec.type c
  let (texts, c) := valueTexts spec.names spec.values c
  (texts.map fun (name, value) => { name, type, value, file, package }, c)

/-- The records of value declarations from left to right. -/
def allGlobals (file package : String) : List ValueSpec → TypeCache → List GlobalRecord × TypeCache
  | [], c => ([], c)
  | spec :: specs, c =>
    let (gs, c) := globalsOf file package spec c
    let (rest, c) := allGlobals file package specs c
    (gs ++ rest, c)

/-- The struct types among type declarations. -/
def structsOf (file package : String) (specs : List TypeSpec) : List StructRecord :=
  specs.filterMap fun spec =>
    match spec.type with
    | .struct _ => some { name := spec.name, file, package }
    | _ => none

/-- The interface types among type declarations. -/
def interfacesOf (file package : String) (specs : List TypeSpec) : List InterfaceRecord :=
  specs.filterMap fun spec =>
    match spec.type with
    | .interface elems =>
      some { name := spec.name, file, package, methods := elems.flatMap (·.names) }
    | _ => none

/-- The name of a function with its package, and its receiver if it has one. -/
def qualify (package receiver name : String) : String :=
  if receiver = "" then package ++ "." ++ name else package ++ "." ++ receiver ++ "." ++ name

/-- Metrics and fingerprint of a function. A body that could not be read as a whole counts as
none. -/
def measureBody : Option Block → Metrics × Option String
  | none => (Metrics.zeroed, none)
  | some body =>
    let measured := measure body
    if measured.hasErrors then (Metrics.zeroed, none)
    else (measured.metrics, some (canonicalize body))

/-- The record of a function from what its body refers to and from the texts of its types. -/
def recordOf (file package : String) (decl : FuncDecl) (refs : References)
    (params returns : List String) : FunctionRecord :=
  let receiverStruct := ((decl.receiver.bind (·.receiverName?)).getD "")
  let (metrics, fingerprint) := measureBody decl.body
  FunctionRecord.syncMetrics
    { qualifiedName := qualify package receiverStruct decl.name
      callees := refs.callees
      file, package, params, returns
      isMethod := decl.receiver.isSome
      receiverStruct
      isRecursive := false
      isDuplicate := false
      cyclomaticComplexity := 0
      linesOfCode := 0
      referencedGlobals := refs.globals
      dependencies := refs.dependencies
      metrics
      name := decl.name
      line := decl.span.startLine
      fingerprint }

/-- The record of a function. Its body is read first, then its parameters and its results. -/
def functionOf (file package : String) (scope : Scope) (decl : FuncDecl) (c : TypeCache) :
    FunctionRecord × TypeCache :=
  let (refs, c) := References.ofBody scope decl.body c
  let (params, c) := bindingTypes decl.params c
  let (returns, c) := bindingTypes decl.results c
  (recordOf file package decl refs params returns, c)

/-- The records of functions from left to right. -/
def allFunctions (file package : String) (scope : Scope) :
    List FuncDecl → TypeCache → List FunctionRecord × TypeCache
  | [], c => ([], c)
  | decl :: decls, c =>
    let (f, c) := functionOf file package scope decl c
    let (fs, c) := allFunctions file package scope decls c
    (f :: fs, c)

/-- The facts of a source file, whose path is reported as `path`. -/
def extract (file : SourceFile) (path : String) (c : TypeCache) : FileFacts × TypeCache :=
  let (globals, c) := allGlobals path file.package file.values c
  let scope : Scope := ⟨globals.map (·.name), file.imports⟩
  let (functions, c) := allFunctions path file.package scope file.functions c
  ({ path
     package := file.package
     functions
     structs := structsOf path file.package file.types
     interfaces := interfacesOf path file.package file.types
     globals
     imports := file.imports.map fun i => { path := i.path, file := path, package := file.package }
     methodsByStruct := (functions.filter fun f => f.receiverStruct != "").map fun f =>
       (f.receiverStruct, f.name) }, c)

end FileFacts

end GoSurvey
