/-!
# Type expressions

Types, and the few value expressions that are written like types. Two expressions are the same only
if they agree in every part, the names in their bindings included: this equality is what the
cache of renderings goes by.
-/

namespace GoSurvey

/-- Names bound to one type: parameters, results, struct fields or interface elements. There are
no names for an unnamed parameter or an embedded element. -/
structure Binding (α : Type) where
  names : List String
  type : α
deriving DecidableEq, Repr, Inhabited

/-- A type, or a value that is written like one. -/
inductive TypeExpr where
  | ident (name : String)
  | pointer (target : TypeExpr)
  | slice (elem : TypeExpr)
  | map (key value : TypeExpr)
  | chan (elem : TypeExpr)
  | func (params results : List (Binding TypeExpr))
  | interface (elems : List (Binding TypeExpr))
  | struct (fields : List (Binding TypeExpr))
  | literal (text : String)
  | selector (base : TypeExpr) (member : String)
  | variadic (elem : TypeExpr)
  | generic (base : TypeExpr) (args : List TypeExpr)
  | unsupported (kind : String)
deriving Repr, Inhabited

namespace TypeExpr

/-- A short tag for the form of an expression. An expression without a form of its own is tagged
by the kind it was read from. -/
def kindName : TypeExpr → String
  | .ident _ => "ident"
  | .pointer _ => "pointer"
  | .slice _ => "slice"
  | .map _ _ => "map"
  | .chan _ => "chan"
  | .func _ _ => "func"
  | .interface _ => "interface"
  | .struct _ => "struct"
  | .literal _ => "literal"
  | .selector _ _ => "selector"
  | .variadic _ => "variadic"
  | .generic _ _ => "generic"
  | .unsupported kind => kind

/-! ## Names -/

mutual
/-- The identifiers of an expression in the order they are written. -/
def names : TypeExpr → List String
  | .ident name => [name]
  | .pointer t | .slice t | .chan t | .variadic t => t.names
  | .map key value => key.names ++ value.names
  | .func params results => bindingNames params ++ bindingNames results
  | .interface bs | .struct bs => bindingNames bs
  | .selector base member => base.names ++ [member]
  | .generic base args => base.names ++ argNames args
  | .literal _ | .unsupported _ => []

/-- `names` over the types of bindings. -/
def bindingNames : List (Binding TypeExpr) → List String
  | [] => []
  | ⟨_, t⟩ :: bs => t.names ++ bindingNames bs

/-- `names` over type arguments. -/
def argNames : List TypeExpr → List String
  | [] => []
  | t :: ts => t.names ++ argNames ts
end

/-! ## Equality -/

mutual
/-- Whether two expressions agree in every part. -/
def same : TypeExpr → TypeExpr → Bool
  | .ident a, .ident b => a == b
  | .pointer a, .pointer b => same a b
  | .slice a, .slice b => same a b
  | .map k v, .map k' v' => same k k' && same v v'
  | .chan a, .chan b => same a b
  | .func ps rs, .func ps' rs' => sameBindings ps ps' && sameBindings rs rs'
  | .interface bs, .interface bs' => sameBindings bs bs'
  | .struct bs, .struct bs' => sameBindings bs bs'
  | .literal a, .literal b => a == b
  | .selector a m, .selector b m' => same a b && m == m'
  | .variadic a, .variadic b => same a b
  | .generic a as, .generic b bs => same a b && sameArgs as bs
  | .unsupported a, .unsupported b => a == b
  | _, _ => false

/-- `same` over bindings, names included. -/
def sameBindings : List (Binding TypeExpr) → List (Binding TypeExpr) → Bool
  | [], [] => true
  | ⟨ns, t⟩ :: as, ⟨ms, u⟩ :: bs => ns == ms && same t u && sameBindings as bs
  | _, _ => false

/-- `same` over type arguments. -/
def sameArgs : List TypeExpr → List TypeExpr → Bool
  | [], [] => true
  | a :: as, b :: bs => same a b && sameArgs as bs
  | _, _ => false
end

mutual
/-- `same` decides equality. -/
theorem same_iff : ∀ a b : TypeExpr, same a b = true ↔ a = b
  | .ident _, b | .literal _, b | .unsupported _, b => by cases b <;> simp [same]
  | .pointer a, b | .slice a, b | .chan a, b | .variadic a, b | .selector a _, b => by
    cases b <;> simp [same, same_iff a]
  | .map k v, b => by cases b <;> simp [same, same_iff k, same_iff v]
  | .func ps rs, b => by cases b <;> simp [same, sameBindings_iff ps, sameBindings_iff rs]
  | .interface bs, b | .struct bs, b => by cases b <;> simp [same, sameBindings_iff bs]
  | .generic a as, b => by cases b <;> simp [same, same_iff a, sameArgs_iff as]

/-- `sameBindings` decides equality. -/
theorem sameBindings_iff : ∀ as bs : List (Binding TypeExpr), sameBindings as bs = true ↔ as = bs
  | [], bs => by cases bs <;> simp [sameBindings]
  | ⟨ns, t⟩ :: as, bs => by
    rcases bs with _ | ⟨⟨ms, u⟩, bs⟩ <;> simp [sameBindings, same_iff t, sameBindings_iff as]

/-- `sameArgs` decides equality. -/
theorem sameArgs_iff : ∀ as bs : List TypeExpr, sameArgs as bs = true ↔ as = bs
  | [], bs => by cases bs <;> simp [sameArgs]
  | a :: as, bs => by
    rcases bs with _ | ⟨b, bs⟩ <;> simp [sameArgs, same_iff a, sameArgs_iff as]
end

instance : DecidableEq TypeExpr := fun a b => decidable_of_iff _ (same_iff a b)

end TypeExpr

end GoSurvey
