import GoSurvey.Code.TypeExpr

/-!
# The text of a type

Every type expression has one text. The names of bindings do not show in it, only their types do.
-/

namespace GoSurvey.TypeExpr

/-- The text of a function type from the texts of its parameters and results. -/
def funcText (params results : List String) : String :=
  let head := "func(" ++ String.intercalate ", " params ++ ")"
  if results.isEmpty then head else head ++ " (" ++ String.intercalate ", " results ++ ")"

/-- The text of an interface type from the texts of its elements. -/
def interfaceText (elems : List String) : String :=
  "interface\x7b" ++ String.intercalate "; " elems ++ "\x7d"

/-- The text of a struct type from the texts of its fields. -/
def structText (fields : List String) : String :=
  "struct\x7b" ++ String.intercalate "; " fields ++ "\x7d"

/-- The text of an instantiated type from the texts of its base and arguments. -/
def genericText (base : String) (args : List String) : String :=
  base ++ "[" ++ String.intercalate ", " args ++ "]"

mutual
/-- The text of an expression. -/
def render : TypeExpr → String
  | .ident name => name
  | .pointer t => "*" ++ t.render
  | .slice t => "[]" ++ t.render
  | .map key value => "map[" ++ key.render ++ "]" ++ value.render
  | .chan t => "chan " ++ t.render
  | .func params results => funcText (renderBindings params) (renderBindings results)
  | .interface elems => interfaceText (renderBindings elems)
  | .struct fields => structText (renderBindings fields)
  | .literal text => text
  | .selector base member => base.render ++ "." ++ member
  | .variadic t => "..." ++ t.render
  | .generic base args => genericText base.render (renderArgs args)
  | .unsupported kind => "<" ++ kind ++ ">"

/-- `render` over the types of bindings. -/
def renderBindings : List (Binding TypeExpr) → List String
  | [] => []
  | ⟨_, t⟩ :: bs => t.render :: renderBindings bs

/-- `render` over type arguments. -/
def renderArgs : List TypeExpr → List String
  | [] => []
  | t :: ts => t.render :: renderArgs ts
end

end GoSurvey.TypeExpr
