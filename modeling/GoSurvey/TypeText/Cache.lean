import GoSurvey.TypeText.Render

/-!
# A cache of renderings

The cache keeps the text of every expression it has rendered, sub-expressions included, until it is
full; it then answers the rest afresh. Nothing in it is ever changed or removed.
-/

namespace GoSurvey

/-- Texts of expressions, at most `capacity` of them. -/
structure TypeCache where
  capacity : Nat
  entries : List (TypeExpr × String)

namespace TypeCache

/-- How many texts are kept unless something else is asked for. -/
def defaultCapacity : Nat := 10000

/-- A cache without entries. -/
def empty (capacity : Nat) : TypeCache :=
  ⟨capacity, []⟩

/-- The number of stored texts. -/
def size (c : TypeCache) : Nat :=
  c.entries.length

/-- The stored text of an expression. -/
def find? (c : TypeCache) (t : TypeExpr) : Option String :=
  c.entries.lookup t

/-- Stores a text unless the expression has one already or the cache is full. The result is the
text to go by. -/
def store (c : TypeCache) (t : TypeExpr) (text : String) : String × TypeCache :=
  match c.find? t with
  | some stored => (stored, c)
  | none => (text, if c.size < c.capacity then { c with entries := (t, text) :: c.entries } else c)

/-- Looks an expression up, and computes and stores its text if that fails. -/
def remember (c : TypeCache) (t : TypeExpr) (compute : TypeCache → String × TypeCache) :
    String × TypeCache :=
  match c.find? t with
  | some stored => (stored, c)
  | none =>
    let (text, c) := compute c
    c.store t text

mutual
/-- The text of an expression by way of the cache. The arguments of an instantiated type are
rendered before its base. -/
def render : TypeExpr → TypeCache → String × TypeCache
  | .ident name, c => c.remember (.ident name) fun c => (name, c)
  | .pointer t, c => c.remember (.pointer t) fun c =>
    let (s, c) := render t c
    ("*" ++ s, c)
  | .slice t, c => c.remember (.slice t) fun c =>
    let (s, c) := render t c
    ("[]" ++ s, c)
  | .map key value, c => c.remember (.map key value) fun c =>
    let (k, c) := render key c
    let (v, c) := render value c
    ("map[" ++ k ++ "]" ++ v, c)
  | .chan t, c => c.remember (.chan t) fun c =>
    let (s, c) := render t c
    ("chan " ++ s, c)
  | .func params results, c => c.remember (.func params results) fun c =>
    let (ps, c) := renderBindings params c
    let (rs, c) := renderBindings results c
    (TypeExpr.funcText ps rs, c)
  | .interface elems, c => c.remember (.interface elems) fun c =>
    let (es, c) := renderBindings elems c
    (TypeExpr.interfaceText es, c)
  | .struct fields, c => c.remember (.struct fields) fun c =>
    let (fs, c) := renderBindings fields c
    (TypeExpr.structText fs, c)
  | .literal text, c => c.remember (.literal text) fun c => (text, c)
  | .selector base member, c => c.remember (.selector base member) fun c =>
    let (s, c) := render base c
    (s ++ "." ++ member, c)
  | .variadic t, c => c.remember (.variadic t) fun c =>
    let (s, c) := render t c
    ("..." ++ s, c)
  | .generic base args, c => c.remember (.generic base args) fun c =>
    let (as, c) := renderArgs args c
    let (b, c) := render base c
    (TypeExpr.genericText b as, c)
  | .unsupported kind, c => c.remember (.unsupported kind) fun c => ("<" ++ kind ++ ">", c)

/-- `render` over the types of bindings, from left to right. -/
def renderBindings : List (Binding TypeExpr) → TypeCache → List String × TypeCache
  | [], c => ([], c)
  | ⟨_, t⟩ :: bs, c =>
    let (s, c) := render t c
    let (ss, c) := renderBindings bs c
    (s :: ss, c)

/-- `render` over type arguments, from left to right. -/
def renderArgs : List TypeExpr → TypeCache → List String × TypeCache
  | [], c => ([], c)
  | t :: ts, c =>
    let (s, c) := render t c
    let (ss, c) := renderArgs ts c
    (s :: ss, c)
end

end TypeCache

end GoSurvey
