import GoSurvey.Code.Node

/-!
# Source files

A source file is a package name and a list of declarations in source order, imports first.
-/

namespace GoSurvey

/-- A function or method. It has no body if it is only announced. -/
structure FuncDecl where
  name : String
  receiver : Option TypeExpr
  params : List (Binding TypeExpr)
  results : List (Binding TypeExpr)
  body : Option Block
  span : Span
deriving Inhabited

/-- A named type. -/
structure TypeSpec where
  name : String
  type : TypeExpr
  span : Span
deriving Inhabited

/-- Whether values are variables or constants. -/
inductive ValueKind where
  | var
  | const
deriving DecidableEq, Repr, Inhabited

/-- Names declared together, with the values that go to them by position. -/
structure ValueSpec where
  kind : ValueKind
  names : List String
  type : Option TypeExpr
  values : List TypeExpr
  span : Span
deriving Inhabited

/-- An imported package. -/
structure ImportSpec where
  path : String
  givenName : Option String
  span : Span
deriving Inhabited

namespace ImportSpec

/-- The part of a path after its last slash. -/
def lastSegment (path : String) : String :=
  String.ofList (path.toList.reverse.takeWhile (· != '/')).reverse

/-- The name a package is referred to by inside the file: its alias, or else the last segment of
its path. -/
def localName (i : ImportSpec) : String :=
  i.givenName.getD (lastSegment i.path)

end ImportSpec

/-- A declaration at the top level of a file. -/
inductive Decl where
  | func (decl : FuncDecl)
  | type (spec : TypeSpec)
  | value (spec : ValueSpec)
  | imported (spec : ImportSpec)
deriving Inhabited

/-- One source file. -/
structure SourceFile where
  path : String
  package : String
  decls : List Decl
  hasErrors : Bool
deriving Inhabited

namespace SourceFile

/-- The imports of a file. -/
def imports (f : SourceFile) : List ImportSpec :=
  f.decls.filterMap fun
    | .imported spec => some spec
    | _ => none

/-- The functions of a file. -/
def functions (f : SourceFile) : List FuncDecl :=
  f.decls.filterMap fun
    | .func decl => some decl
    | _ => none

/-- The type declarations of a file. -/
def types (f : SourceFile) : List TypeSpec :=
  f.decls.filterMap fun
    | .type spec => some spec
    | _ => none

/-- The value declarations of a file. -/
def values (f : SourceFile) : List ValueSpec :=
  f.decls.filterMap fun
    | .value spec => some spec
    | _ => none

end SourceFile

end GoSurvey
