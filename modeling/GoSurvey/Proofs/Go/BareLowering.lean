import GoSurvey.Proofs.Code.Bare
import GoSurvey.Proofs.Go.BareTree

/-!
# Lowering without comments

Lowering keeps comments where all parts of a node count, and passes over them everywhere else. So
the bare form of a tree is lowered to the bare form of what the tree is lowered to: for types
(`Tree.toType_bare`), and for statements and expressions (`Tree.toNode_bare`).

The arguments of a generic type are the one list of types in which all parts count. Each comment in
such a list becomes an argument.
-/

namespace GoSurvey

/-- Two options that a function does not tell apart. -/
theorem map_eq_map_cases {α β : Type} {f : α → β} {o o' : Option α} (h : o.map f = o'.map f) :
    o = none ∧ o' = none ∨ ∃ a a', o = some a ∧ o' = some a' ∧ f a = f a' := by
  cases o with
  | none => exact .inl ⟨rfl, Option.map_eq_none_iff.1 h.symm⟩
  | some a =>
    obtain ⟨a', ha', heq⟩ := Option.map_eq_some_iff.1 h.symm
    exact .inr ⟨a, a', rfl, ha', heq.symm⟩

namespace TypeExpr

/-- Whether a type is what a comment among type arguments becomes. -/
def isComment : TypeExpr → Bool
  | .unsupported kind => kind == "comment"
  | _ => false

section
variable (keep : Bool)

mutual
/-- A type without comments among type arguments, unless they are kept. -/
def bare : TypeExpr → TypeExpr
  | .ident name => .ident name
  | .pointer t => .pointer t.bare
  | .slice t => .slice t.bare
  | .map key value => .map key.bare value.bare
  | .chan t => .chan t.bare
  | .func params results => .func (bareBindings params) (bareBindings results)
  | .interface bs => .interface (bareBindings bs)
  | .struct bs => .struct (bareBindings bs)
  | .literal text => .literal text
  | .selector base member => .selector base.bare member
  | .variadic t => .variadic t.bare
  | .generic base args => .generic base.bare (bareArgs args)
  | .unsupported kind => .unsupported kind

/-- `bare` over the types of bindings. -/
def bareBindings : List (Binding TypeExpr) → List (Binding TypeExpr)
  | [] => []
  | ⟨names, t⟩ :: bs => ⟨names, t.bare⟩ :: bareBindings bs

/-- `bare` over type arguments. -/
def bareArgs : List TypeExpr → List TypeExpr
  | [] => []
  | t :: ts => if t.isComment && !keep then bareArgs ts else t.bare :: bareArgs ts
end

end

attribute [local simp] bare bareBindings bareArgs

mutual
/-- If comments are kept, a type is bare. -/
theorem bare_true : ∀ t : TypeExpr, t.bare true = t
  | .ident _ | .literal _ | .unsupported _ => rfl
  | .pointer t | .slice t | .chan t | .variadic t | .selector t _ => by simp [bare_true t]
  | .map key value => by simp [bare_true key, bare_true value]
  | .func params results => by simp [bareBindings_true params, bareBindings_true results]
  | .interface bs | .struct bs => by simp [bareBindings_true bs]
  | .generic base args => by simp [bare_true base, bareArgs_true args]

/-- `bare_true` over the types of bindings. -/
theorem bareBindings_true : ∀ bs : List (Binding TypeExpr), bareBindings true bs = bs
  | [] => rfl
  | ⟨_, t⟩ :: bs => by simp [bare_true t, bareBindings_true bs]

/-- `bare_true` over type arguments. -/
theorem bareArgs_true : ∀ ts : List TypeExpr, bareArgs true ts = ts
  | [] => rfl
  | t :: ts => by simp [bare_true t, bareArgs_true ts]
end

/-- A type and its bare form are comments alike. -/
@[simp]
theorem isComment_bare (keep : Bool) (t : TypeExpr) : (t.bare keep).isComment = t.isComment := by
  cases t <;> rfl

mutual
/-- A bare type is bare. -/
theorem bare_bare (keep : Bool) : ∀ t : TypeExpr, (t.bare keep).bare keep = t.bare keep
  | .ident _ | .literal _ | .unsupported _ => rfl
  | .pointer t | .slice t | .chan t | .variadic t | .selector t _ => by simp [bare_bare keep t]
  | .map key value => by simp [bare_bare keep key, bare_bare keep value]
  | .func params results => by
    simp [bareBindings_bare keep params, bareBindings_bare keep results]
  | .interface bs | .struct bs => by simp [bareBindings_bare keep bs]
  | .generic base args => by simp [bare_bare keep base, bareArgs_bare keep args]

/-- `bare_bare` over the types of bindings. -/
theorem bareBindings_bare (keep : Bool) : ∀ bs : List (Binding TypeExpr),
    bareBindings keep (bareBindings keep bs) = bareBindings keep bs
  | [] => rfl
  | ⟨_, t⟩ :: bs => by simp [bare_bare keep t, bareBindings_bare keep bs]

/-- `bare_bare` over type arguments. -/
theorem bareArgs_bare (keep : Bool) : ∀ ts : List TypeExpr,
    bareArgs keep (bareArgs keep ts) = bareArgs keep ts
  | [] => rfl
  | t :: ts => by
    by_cases ht : t.isComment && !keep
    · simp only [bareArgs, if_pos ht, bareArgs_bare keep ts]
    · simp only [bareArgs, if_neg ht, isComment_bare, bare_bare keep t, bareArgs_bare keep ts]
end

attribute [local simp] names bindingNames argNames in
mutual
/-- There are no names in comments. -/
theorem names_bare (keep : Bool) : ∀ t : TypeExpr, (t.bare keep).names = t.names
  | .ident _ | .literal _ | .unsupported _ => rfl
  | .pointer t | .slice t | .chan t | .variadic t | .selector t _ => by simp [names_bare keep t]
  | .map key value => by simp [names_bare keep key, names_bare keep value]
  | .func params results => by
    simp [bindingNames_bare keep params, bindingNames_bare keep results]
  | .interface bs | .struct bs => by simp [bindingNames_bare keep bs]
  | .generic base args => by simp [names_bare keep base, argNames_bare keep args]

/-- `names_bare` over the types of bindings. -/
theorem bindingNames_bare (keep : Bool) : ∀ bs : List (Binding TypeExpr),
    bindingNames (bareBindings keep bs) = bindingNames bs
  | [] => rfl
  | ⟨_, t⟩ :: bs => by simp [names_bare keep t, bindingNames_bare keep bs]

/-- `names_bare` over type arguments. -/
theorem argNames_bare (keep : Bool) : ∀ ts : List TypeExpr,
    argNames (bareArgs keep ts) = argNames ts
  | [] => rfl
  | t :: ts => by
    have hnames : t.isComment = true → t.names = [] := by
      cases t <;> simp [isComment]
    by_cases ht : t.isComment && !keep
    · have hcomment := hnames (Bool.and_eq_true_iff.1 ht).1
      simp only [bareArgs, if_pos ht, argNames, hcomment, argNames_bare keep ts, List.nil_append]
    · simp only [bareArgs, if_neg ht, argNames, names_bare keep t, argNames_bare keep ts]
end

end TypeExpr

/-- Code without places, and without comments among type arguments unless they are kept. -/
def View.text (keep : Bool) : View where
  span _ := .nowhere
  type := TypeExpr.bare keep
  names_type := TypeExpr.names_bare keep

namespace Go.Tree

variable {keep : Bool}

attribute [local simp] bare bareAll

/-! ## Parts -/

/-- A comment has no label. -/
theorem label_of_isComment {t : Tree} (h : t.isComment = true) : t.label = none := by
  obtain ⟨_, _, rfl⟩ := exists_of_isComment h
  rfl

/-- The texts of the parts with a label are those of the bare parts. -/
@[simp]
theorem textsAt_bareAll (label : Label) (stay isGeneric : Bool) (ts : List Tree) :
    textsAt label (bareAll keep stay isGeneric ts) = textsAt label ts := by
  induction ts with
  | nil => rfl
  | cons t ts ih =>
    cases ht : t.isComment <;> cases stay <;> by_cases hl : t.label = some label <;>
      simp_all [textsAt, label_of_isComment]

@[simp]
theorem textAt?_bareAll (label : Label) (stay isGeneric : Bool) (ts : List Tree) :
    textAt? label (bareAll keep stay isGeneric ts) = textAt? label ts := by
  rw [textAt?, textsAt_bareAll, textAt?]

@[simp]
theorem isMark_bare (text : String) (stay : Bool) (t : Tree) :
    (t.bare keep stay).isMark text = t.isMark text := by
  cases t <;> rfl

/-- A comment is no mark. -/
theorem isMark_of_isComment (text : String) {t : Tree} (h : t.isComment = true) :
    t.isMark text = false := by
  obtain ⟨_, _, rfl⟩ := exists_of_isComment h
  rfl

@[simp]
theorem startsWithMark_bareAll (text : String) (stay isGeneric : Bool) (ts : List Tree) :
    startsWithMark text (bareAll keep stay isGeneric ts) = startsWithMark text ts := by
  induction ts with
  | nil => rfl
  | cons t ts ih => cases ht : t.isComment <;> cases stay <;> simp_all [startsWithMark]

@[simp]
theorem any_isMark_bareAll (text : String) (stay isGeneric : Bool) (ts : List Tree) :
    (bareAll keep stay isGeneric ts).any (isMark text) = ts.any (isMark text) := by
  induction ts with
  | nil => rfl
  | cons t ts ih =>
    cases ht : t.isComment <;> cases stay <;> simp_all [isMark_of_isComment]

/-! ## Types -/

/-- Comments have a kind to themselves. -/
theorem name_ne_comment (kind : Kind) : (kind.name == "comment") = false := by
  cases kind <;> rfl

mutual
/-- Only a comment is seen as a comment. -/
theorem isComment_toType : ∀ t : Tree, t.isNamed = true → t.toType.isComment = t.isComment
  | .leaf _ kind text _, _ => by
    rw [toType]
    split
    · rfl
    split
    · rfl
    · exact name_ne_comment kind
  | .comment _ _, _ => rfl
  | .node _ kind _ children, _ => by
    have hmissing : (TypeExpr.unsupported kind.name).isComment = false := name_ne_comment kind
    have hfirst := isComment_firstType children hmissing
    unfold toType
    dsimp only
    split <;> first | rfl | exact hmissing | exact hfirst | skip
    all_goals split <;> first | rfl | exact hmissing | exact hfirst

/-- The first type is no comment. -/
theorem isComment_firstType : ∀ (ts : List Tree) {missing : TypeExpr}, missing.isComment = false →
    ((firstType ts).getD missing).isComment = false
  | [], _, h => h
  | t :: ts, _, h => by
    rw [firstType]
    split
    next ht =>
      rw [Bool.and_eq_true, Bool.not_eq_true'] at ht
      rw [Option.getD_some, isComment_toType t ht.1, ht.2]
    next => exact isComment_firstType ts h
end

/-- A node and a list of further parts. -/
theorem bareAll_node (stay isGeneric : Bool) (l : Option Label) (kind : Kind) (span : Span)
    (parts ts : List Tree) :
    bareAll keep stay isGeneric (.node l kind span parts :: ts) =
      .node l kind .nowhere
        (bareAll keep (isGeneric && l == some .typeArguments) (keep && kind == .genericType) parts)
        :: bareAll keep stay isGeneric ts := rfl

mutual
/-- The type of a bare tree. -/
theorem toType_bare : ∀ (stay : Bool) (t : Tree), (t.bare keep stay).toType = t.toType.bare keep
  | _, .leaf _ kind _ _ => by
    rw [bare, toType, toType]
    split
    · rfl
    split <;> rfl
  | _, .mark _ _ _ | _, .absent _ | _, .comment _ _ => rfl
  | stay, .node _ kind _ children => by
    have hfirst := fun g => firstType_bare stay g children
    have hat := fun label g => typeAt_bare label stay g children
    have hparams := fun g => bindingsAt_bare .parameters stay g children
    have hresults := fun g => resultBindings_bare stay g children
    have helements := fun g => elements_bare stay g children
    have hfields := fun g => structFields_bare stay g children
    have hargs := typesAt_bare stay children
    have hgetD (o : Option TypeExpr) :
        (o.map (TypeExpr.bare keep)).getD (.unsupported kind.name) =
          (o.getD (.unsupported kind.name)).bare keep := by
      cases o <;> rfl
    rw [bare]
    unfold toType
    dsimp only
    split
    all_goals simp only [hfirst, hat, hgetD, TypeExpr.bare, hparams, hresults, helements, hfields,
      textAt?_bareAll, any_isMark_bareAll]
    -- A qualified name, a selector, a generic type and a constraint are left.
    · cases textAt? .package children <;> cases textAt? .name children <;> rfl
    · cases typeAt .operand children <;> cases textAt? .field children <;> rfl
    · rw [BEq.rfl, Bool.and_true, hargs]
    · split <;> rfl

/-- The first type among bare trees. -/
theorem firstType_bare : ∀ (stay isGeneric : Bool) (ts : List Tree),
    firstType (bareAll keep stay isGeneric ts) = (firstType ts).map (TypeExpr.bare keep)
  | _, _, [] => rfl
  | stay, isGeneric, t :: ts => by
    cases ht : t.isComment <;> cases stay <;> cases hn : t.isNamed <;>
      simp [firstType, ht, hn, toType_bare _ t, firstType_bare _ isGeneric ts]

/-- The type under a label among bare trees. -/
theorem typeAt_bare (label : Label) : ∀ (stay isGeneric : Bool) (ts : List Tree),
    typeAt label (bareAll keep stay isGeneric ts) = (typeAt label ts).map (TypeExpr.bare keep)
  | _, _, [] => rfl
  | stay, isGeneric, t :: ts => by
    cases ht : t.isComment <;> cases stay <;> by_cases hl : t.label = some label <;>
      simp_all [typeAt, label_of_isComment, toType_bare _ t, typeAt_bare label _ isGeneric ts]

/-- All types among bare trees, if the comments stay that are kept. -/
theorem allTypes_bare : ∀ (isGeneric : Bool) (ts : List Tree),
    allTypes (bareAll keep keep isGeneric ts) = TypeExpr.bareArgs keep (allTypes ts)
  | _, [] => rfl
  | isGeneric, t :: ts => by
    cases hn : t.isNamed with
    | false =>
      have ht : t.isComment = false := by cases t <;> first | rfl | cases hn
      simp [allTypes, hn, ht, allTypes_bare isGeneric ts]
    | true =>
      rw [allTypes, if_pos hn, TypeExpr.bareArgs, isComment_toType t hn, bareAll]
      split
      · exact allTypes_bare isGeneric ts
      · rw [allTypes, isNamed_bare, if_pos hn, toType_bare _ t, allTypes_bare isGeneric ts]

/-- The arguments of a bare generic type. -/
theorem typesAt_bare (stay : Bool) : ∀ ts : List Tree,
    typesAt .typeArguments (bareAll keep stay keep ts) =
      TypeExpr.bareArgs keep (typesAt .typeArguments ts)
  | [] => rfl
  | .node l kind _ parts :: ts => by
    by_cases hl : l = some .typeArguments
    · simp [typesAt, isComment, hl, label, allTypes_bare _ parts]
    · simp [typesAt, isComment, hl, typesAt_bare stay ts]
  | .leaf _ _ _ _ :: ts | .mark _ _ _ :: ts | .absent _ :: ts => by
    simp [typesAt, isComment, typesAt_bare stay ts]
  | .comment _ _ :: ts => by
    cases stay <;> simp [typesAt, isComment, typesAt_bare _ ts]

/-- Parameters among bare trees. -/
theorem bindings_bare : ∀ (stay isGeneric : Bool) (ts : List Tree),
    bindings (bareAll keep stay isGeneric ts) = TypeExpr.bareBindings keep (bindings ts)
  | _, _, [] => rfl
  | stay, isGeneric, .node l kind _ parts :: ts => by
    have hat := fun stay g => typeAt_bare .type stay g parts
    rw [bareAll_node, bindings, bindings, hat]
    cases typeAt .type parts with
    | none => exact bindings_bare stay isGeneric ts
    | some t =>
      by_cases hkind : kind == .variadicParameterDeclaration <;>
        simp [hkind, TypeExpr.bare, TypeExpr.bareBindings, bindings_bare stay isGeneric ts]
  | stay, isGeneric, .leaf _ _ _ _ :: ts | stay, isGeneric, .mark _ _ _ :: ts
  | stay, isGeneric, .absent _ :: ts => by
    simp [bindings, isComment, bindings_bare stay isGeneric ts]
  | stay, isGeneric, .comment _ _ :: ts => by
    cases stay <;> simp [bindings, isComment, bindings_bare _ isGeneric ts]

/-- Parameters under a label among bare trees. -/
theorem bindingsAt_bare (label : Label) : ∀ (stay isGeneric : Bool) (ts : List Tree),
    bindingsAt label (bareAll keep stay isGeneric ts) =
      TypeExpr.bareBindings keep (bindingsAt label ts)
  | _, _, [] => rfl
  | stay, isGeneric, .node l kind _ parts :: ts => by
    by_cases hl : l = some label <;>
      simp [bindingsAt, isComment, hl, bindings_bare _ _ parts,
        bindingsAt_bare label stay isGeneric ts]
  | stay, isGeneric, .leaf _ _ _ _ :: ts | stay, isGeneric, .mark _ _ _ :: ts
  | stay, isGeneric, .absent _ :: ts => by
    simp [bindingsAt, isComment, bindingsAt_bare label stay isGeneric ts]
  | stay, isGeneric, .comment _ _ :: ts => by
    cases stay <;> simp [bindingsAt, isComment, bindingsAt_bare label _ isGeneric ts]

/-- Results among bare trees. -/
theorem resultBindings_bare : ∀ (stay isGeneric : Bool) (ts : List Tree),
    resultBindings (bareAll keep stay isGeneric ts) =
      TypeExpr.bareBindings keep (resultBindings ts)
  | _, _, [] => rfl
  | stay, isGeneric, .node l kind span parts :: ts => by
    have htype := toType_bare (isGeneric && l == some .typeArguments) (.node l kind span parts)
    have hrest := resultBindings_bare stay isGeneric ts
    rw [bare] at htype
    rw [bareAll_node, resultBindings, resultBindings]
    split
    · split
      · exact bindings_bare _ _ parts
      · exact congrArg (fun t => [Binding.mk [] t]) htype
    · exact hrest
  | stay, isGeneric, .leaf l kind text span :: ts => by
    have htype := toType_bare stay (.leaf l kind text span)
    rw [bare] at htype
    by_cases hl : l = some .result
    · subst hl
      simp [resultBindings, isComment, label, htype, TypeExpr.bareBindings]
    · simp [resultBindings, isComment, label, hl, resultBindings_bare stay isGeneric ts]
  | stay, isGeneric, .mark l _ _ :: ts => by
    by_cases hl : l = some .result <;>
      simp [resultBindings, isComment, label, hl, toType, TypeExpr.bare, TypeExpr.bareBindings,
        resultBindings_bare stay isGeneric ts]
  | stay, isGeneric, .absent _ :: ts => by
    simp [resultBindings, isComment, label, resultBindings_bare stay isGeneric ts]
  | stay, isGeneric, .comment _ _ :: ts => by
    cases stay <;> simp [resultBindings, isComment, label, resultBindings_bare _ isGeneric ts]

/-- The elements of a bare interface. -/
theorem elements_bare : ∀ (stay isGeneric : Bool) (ts : List Tree),
    elements (bareAll keep stay isGeneric ts) = TypeExpr.bareBindings keep (elements ts)
  | _, _, [] => rfl
  | stay, isGeneric, .node l kind span parts :: ts => by
    have htype := toType_bare (isGeneric && l == some .typeArguments) (.node l kind span parts)
    have hrest := elements_bare stay isGeneric ts
    have hparams := fun stay g => bindingsAt_bare .parameters stay g parts
    have hresults := fun stay g => resultBindings_bare stay g parts
    rw [bare] at htype
    rw [bareAll_node, elements, elements]
    split
    · rw [textAt?_bareAll]
      cases textAt? .name parts with
      | none => exact hrest
      | some name => simp [TypeExpr.bareBindings, TypeExpr.bare, hparams, hresults, hrest]
    · rw [htype, hrest, TypeExpr.bareBindings]
  | stay, isGeneric, .leaf l kind text span :: ts => by
    have htype := toType_bare stay (.leaf l kind text span)
    rw [bare] at htype
    simp [elements, isComment, isNamed, htype, TypeExpr.bareBindings,
      elements_bare stay isGeneric ts]
  | stay, isGeneric, .mark _ _ _ :: ts | stay, isGeneric, .absent _ :: ts => by
    simp [elements, isComment, isNamed, elements_bare stay isGeneric ts]
  | stay, isGeneric, .comment _ _ :: ts => by
    cases stay <;> simp [elements, isComment, elements_bare _ isGeneric ts]

theorem structFields_bare : ∀ (stay isGeneric : Bool) (ts : List Tree),
    structFields (bareAll keep stay isGeneric ts) = TypeExpr.bareBindings keep (structFields ts)
  | _, _, [] => rfl
  | stay, isGeneric, .node l kind _ parts :: ts => by
    by_cases hkind : kind == .fieldDeclarationList <;>
      simp [structFields, isComment, hkind, fields_bare _ _ parts,
        structFields_bare stay isGeneric ts]
  | stay, isGeneric, .leaf _ _ _ _ :: ts | stay, isGeneric, .mark _ _ _ :: ts
  | stay, isGeneric, .absent _ :: ts => by
    simp [structFields, isComment, structFields_bare stay isGeneric ts]
  | stay, isGeneric, .comment _ _ :: ts => by
    cases stay <;> simp [structFields, isComment, structFields_bare _ isGeneric ts]

theorem fields_bare : ∀ (stay isGeneric : Bool) (ts : List Tree),
    fields (bareAll keep stay isGeneric ts) = TypeExpr.bareBindings keep (fields ts)
  | _, _, [] => rfl
  | stay, isGeneric, .node l kind _ parts :: ts => by
    have hat := fun stay g => typeAt_bare .type stay g parts
    have hrest := fields_bare stay isGeneric ts
    rw [bareAll_node, fields, fields, hat]
    by_cases hkind : kind == .fieldDeclaration
    · simp only [hkind, if_true]
      cases typeAt .type parts with
      | none => exact hrest
      | some t =>
        by_cases hpointer : (textsAt .name parts).isEmpty && startsWithMark "*" parts <;>
          simp [hpointer, TypeExpr.bareBindings, TypeExpr.bare, hrest]
    · simpa [hkind] using hrest
  | stay, isGeneric, .leaf _ _ _ _ :: ts | stay, isGeneric, .mark _ _ _ :: ts
  | stay, isGeneric, .absent _ :: ts => by
    simp [fields, isComment, fields_bare stay isGeneric ts]
  | stay, isGeneric, .comment _ _ :: ts => by
    cases stay <;> simp [fields, isComment, fields_bare _ isGeneric ts]
end

/-! ## Statements and expressions -/

/-- A loop is no comment. -/
theorem isComment_loop (body : Block) : ∀ ts : List Tree, (loop body ts).isComment = false
  | [] => rfl
  | .node _ kind _ _ :: ts => by
    unfold loop
    split <;> first | rfl | exact isComment_loop body ts
  | .leaf _ _ _ _ :: _ => rfl
  | .mark _ _ _ :: ts | .absent _ :: ts | .comment _ _ :: ts => isComment_loop body ts

mutual
/-- Only a comment is lowered to a comment. -/
theorem isComment_toNode : ∀ t : Tree, t.toNode.isComment = t.isComment
  | .leaf _ _ _ _ => by
    rw [toNode]
    repeat' split
    all_goals rfl
  | .mark _ _ _ | .absent _ | .comment _ _ => rfl
  | .node _ kind span children => by
    have hfirst := isComment_firstNode children
    show _ = false
    unfold toNode
    split
    · rfl
    split
    case h_1 | h_2 =>
      split
      next inner h => exact hfirst inner h
      next => rfl
    case h_8 => exact isComment_loop _ children
    all_goals first | rfl | (split <;> rfl)

/-- The first node is no comment. -/
theorem isComment_firstNode : ∀ (ts : List Tree) (n : Node), firstNode ts = some n →
    n.isComment = false
  | t :: ts, n, h => by
    rw [firstNode] at h
    split at h
    next ht =>
      rw [Bool.and_eq_true, Bool.not_eq_true'] at ht
      rw [← Option.some.inj h, isComment_toNode t, ht.2]
    next => exact isComment_firstNode ts n h
end

/-- A part that is no comment in a list of nodes. -/
theorem bareAll_toNode {t : Tree} (ht : t.isComment = false) (ns : List Node) :
    Node.bareAll (.text keep) (t.toNode :: ns) =
      t.toNode.bare (.text keep) :: Node.bareAll (.text keep) ns := by
  rw [Node.bareAll, isComment_toNode, ht, if_neg Bool.false_ne_true]

/-- Comments between clauses are left out. -/
theorem bareAll_commentNodes (v : View) (ts : List Tree) :
    Node.bareAll v (commentNodes ts) = [] := by
  induction ts with
  | nil => rfl
  | cons t ts ih =>
    cases ht : t.isComment <;> simp [commentNodes, ht, Node.bareAll_comment, ih]

/-- Two optional nodes of the same bare form. -/
theorem bareOpt_eq_cases {v : View} {n n' : Option Node}
    (h : Node.bareOpt v n = Node.bareOpt v n') :
    n = none ∧ n' = none ∨ ∃ m m', n = some m ∧ n' = some m' ∧ m.bare v = m'.bare v := by
  have hmap (n : Option Node) : Node.bareOpt v n = n.map (Node.bare v) := by
    cases n <;> rfl
  rw [hmap, hmap] at h
  exact map_eq_map_cases h

/-- A part that is missing has no comments. -/
theorem getD_missingNode_bare (v : View) (n : Option Node) :
    (n.getD missingNode).bare v = (Node.bareOpt v n).getD missingNode := by
  cases n <;> rfl

/-- Blocks of the same bare form where there may be none. -/
theorem getD_blockAt_bare {b b' : Option Block} (span : Span)
    (h : b.map (Node.bareBlock (.text keep)) = b'.map (Node.bareBlock (.text keep))) :
    Node.bareBlock (.text keep) (b.getD (.mk .nowhere [])) =
      Node.bareBlock (.text keep) (b'.getD (.mk span [])) := by
  rcases map_eq_map_cases h with ⟨rfl, rfl⟩ | ⟨b, b', rfl, rfl, hb⟩
  · rfl
  · exact hb

/-- A comment counts as named. -/
theorem isNamed_of_isComment {t : Tree} (h : t.isComment = true) : t.isNamed = true := by
  obtain ⟨_, _, rfl⟩ := exists_of_isComment h
  rfl

attribute [local simp] Node.bareOpt Node.bareAll Node.bareBlock Node.bareClauses isComment_toNode

mutual
/-- The code of a bare tree. -/
theorem toNode_bare : ∀ (stay : Bool) (t : Tree),
    (t.bare keep stay).toNode.bare (.text keep) = t.toNode.bare (.text keep)
  | stay, .leaf _ _ _ _ => by
    rw [bare, toNode, toNode]
    repeat' split
    all_goals rfl
  | _, .mark _ _ _ | _, .absent _ | _, .comment _ _ => rfl
  | stay, .node l kind span children => by
    have htype : ((Tree.node l kind span children).bare keep stay).toType = _ :=
      toType_bare stay _
    rw [bare] at htype ⊢
    generalize (keep && kind == .genericType) = g at htype ⊢
    have hnodes := nodes_bare stay g children
    have hat := fun label => nodeAt_bare label stay g children
    have hblock := fun label => getD_blockAt_bare span (blockAt_bare label stay g children)
    unfold toNode
    split
    · rw [Node.bare, Node.bare, htype]
      exact congrArg Node.type (TypeExpr.bare_bare keep _)
    split
    case h_1 | h_2 =>
      rcases bareOpt_eq_cases (firstNode_bare stay g children) with ⟨h, h'⟩ | ⟨m, m', h, h', hm⟩
      · simp only [h, h', Node.bare, hnodes]
      · simpa only [h, h'] using hm
    case h_3 =>
      rcases bareOpt_eq_cases (hat .operand) with ⟨h, h'⟩ | ⟨m, m', h, h', hm⟩
      · simp only [h, h', Node.bare, hnodes]
      · simp only [h, h', Node.bare, hm, textAt?_bareAll]
    case h_4 =>
      rcases bareOpt_eq_cases (hat .left) with ⟨h, h'⟩ | ⟨m, m', h, h', hm⟩
      · simp only [h, h', Node.bare, hnodes]
      · rcases bareOpt_eq_cases (hat .right) with ⟨h₁, h₁'⟩ | ⟨m₁, m₁', h₁, h₁', hm₁⟩
        · simp only [h, h', h₁, h₁', Node.bare, hnodes]
        · simp only [h, h', h₁, h₁', Node.bare, hm, hm₁, textAt?_bareAll]
    case h_5 =>
      rcases bareOpt_eq_cases (hat .function) with ⟨h, h'⟩ | ⟨m, m', h, h', hm⟩
      · simp only [h, h', Node.bare, hnodes]
      · simp only [h, h', Node.bare, hm, nodesAt_bare .arguments stay g children]
    case h_6 =>
      rw [textAt?_bareAll]
      rcases bareOpt_eq_cases (hat .operand) with ⟨h, h'⟩ | ⟨m, m', h, h', hm⟩
      · simp only [h, h', Node.bare, hnodes]
      · cases textAt? .field children <;> simp only [h, h', Node.bare, hm, hnodes]
    case h_7 => simp only [Node.bare, hat, hblock, getD_missingNode_bare]
    case h_8 => exact loop_bare stay g (hblock .body) children
    case h_9 | h_10 | h_11 =>
      simp only [Node.bare, hat, clauses_bare _ stay g children, bareAll_commentNodes]
    case h_12 => exact congrArg (fun ns => Node.block (.mk .nowhere ns)) hnodes
    case h_13 => simp only [Node.bare, spread_bare stay g children]
    case h_14 => simp only [Node.bare, hnodes]

/-- The named parts among bare trees. -/
theorem nodes_bare : ∀ (stay isGeneric : Bool) (ts : List Tree),
    Node.bareAll (.text keep) (nodes (bareAll keep stay isGeneric ts)) =
      Node.bareAll (.text keep) (nodes ts)
  | _, _, [] => rfl
  | stay, isGeneric, t :: ts => by
    cases ht : t.isComment <;> cases stay <;> cases hn : t.isNamed <;>
      simp_all [nodes, isNamed_of_isComment, toNode_bare _ t, nodes_bare _ isGeneric ts]

/-- The parts of lists among bare trees. -/
theorem spread_bare : ∀ (stay isGeneric : Bool) (ts : List Tree),
    Node.bareAll (.text keep) (spread (bareAll keep stay isGeneric ts)) =
      Node.bareAll (.text keep) (spread ts)
  | _, _, [] => rfl
  | stay, isGeneric, .node l kind span parts :: ts => by
    have hnode := toNode_bare (isGeneric && l == some .typeArguments) (.node l kind span parts)
    have hrest := spread_bare stay isGeneric ts
    rw [bare] at hnode
    rw [bareAll_node, spread, spread]
    split
    · rw [Node.bareAll_append, Node.bareAll_append, nodes_bare _ _ parts, hrest]
    · rw [bareAll_toNode rfl, bareAll_toNode rfl, hnode, hrest]
  | stay, isGeneric, .leaf l kind text span :: ts => by
    have hnode := toNode_bare stay (.leaf l kind text span)
    rw [bare] at hnode
    simp [spread, isComment, isNamed, hnode, spread_bare stay isGeneric ts]
  | stay, isGeneric, .mark _ _ _ :: ts | stay, isGeneric, .absent _ :: ts => by
    simp [spread, isComment, isNamed, spread_bare stay isGeneric ts]
  | stay, isGeneric, .comment _ _ :: ts => by
    cases stay <;> simp [spread, isComment, isNamed, spread_bare _ isGeneric ts]

/-- The first node among bare trees. -/
theorem firstNode_bare : ∀ (stay isGeneric : Bool) (ts : List Tree),
    Node.bareOpt (.text keep) (firstNode (bareAll keep stay isGeneric ts)) =
      Node.bareOpt (.text keep) (firstNode ts)
  | _, _, [] => rfl
  | stay, isGeneric, t :: ts => by
    cases ht : t.isComment <;> cases stay <;> cases hn : t.isNamed <;>
      simp [firstNode, ht, hn, toNode_bare _ t, firstNode_bare _ isGeneric ts]

/-- The node under a label among bare trees. -/
theorem nodeAt_bare (label : Label) : ∀ (stay isGeneric : Bool) (ts : List Tree),
    Node.bareOpt (.text keep) (nodeAt label (bareAll keep stay isGeneric ts)) =
      Node.bareOpt (.text keep) (nodeAt label ts)
  | _, _, [] => rfl
  | stay, isGeneric, t :: ts => by
    cases ht : t.isComment <;> cases stay <;> by_cases hl : t.label = some label <;>
      simp_all [nodeAt, label_of_isComment, toNode_bare _ t, nodeAt_bare label _ isGeneric ts]

/-- The nodes under a label among bare trees. -/
theorem nodesAt_bare (label : Label) : ∀ (stay isGeneric : Bool) (ts : List Tree),
    Node.bareAll (.text keep) (nodesAt label (bareAll keep stay isGeneric ts)) =
      Node.bareAll (.text keep) (nodesAt label ts)
  | _, _, [] => rfl
  | stay, isGeneric, .node l kind _ parts :: ts => by
    rw [bareAll_node, nodesAt, nodesAt]
    split
    · exact nodes_bare _ _ parts
    · exact nodesAt_bare label stay isGeneric ts
  | stay, isGeneric, .leaf _ _ _ _ :: ts | stay, isGeneric, .mark _ _ _ :: ts
  | stay, isGeneric, .absent _ :: ts | stay, isGeneric, .comment _ _ :: ts => by
    cases stay <;> simp [nodesAt, isComment, nodesAt_bare label _ isGeneric ts]

/-- The block under a label among bare trees. -/
theorem blockAt_bare (label : Label) : ∀ (stay isGeneric : Bool) (ts : List Tree),
    (blockAt label (bareAll keep stay isGeneric ts)).map (Node.bareBlock (.text keep)) =
      (blockAt label ts).map (Node.bareBlock (.text keep))
  | _, _, [] => rfl
  | stay, isGeneric, .node l kind _ parts :: ts => by
    rw [bareAll_node, blockAt, blockAt]
    split
    · exact congrArg (fun ns => some (Block.mk .nowhere ns)) (nodes_bare _ _ parts)
    · exact blockAt_bare label stay isGeneric ts
  | stay, isGeneric, .leaf _ _ _ _ :: ts | stay, isGeneric, .mark _ _ _ :: ts
  | stay, isGeneric, .absent _ :: ts | stay, isGeneric, .comment _ _ :: ts => by
    cases stay <;> simp [blockAt, isComment, blockAt_bare label _ isGeneric ts]

/-- A loop over bare trees. -/
theorem loop_bare (stay isGeneric : Bool) {body body' : Block}
    (hbody : Node.bareBlock (.text keep) body = Node.bareBlock (.text keep) body') :
    ∀ ts : List Tree, (loop body (bareAll keep stay isGeneric ts)).bare (.text keep) =
      (loop body' ts).bare (.text keep)
  | [] => by simp only [bareAll, loop, Node.bare, Node.bareOpt, hbody]
  | .node l kind span parts :: ts => by
    have hnode := toNode_bare (isGeneric && l == some .typeArguments) (.node l kind span parts)
    have hrest := loop_bare stay isGeneric hbody ts
    rw [bare] at hnode
    rw [bareAll_node]
    generalize (isGeneric && l == some .typeArguments) = stay' at hnode ⊢
    generalize (keep && kind == .genericType) = g at hnode ⊢
    have hat := fun label => nodeAt_bare label stay' g parts
    unfold loop
    split
    · exact hrest
    · simp only [Node.bare, hat, getD_missingNode_bare, hbody]
    · simp only [Node.bare, hat, hbody]
    · simp only [Node.bare, Node.bareOpt, hnode, hbody]
  | .leaf l kind text span :: ts => by
    have hnode := toNode_bare stay (.leaf l kind text span)
    rw [bare] at hnode
    simp [loop, isComment, isNamed, Node.bare, hnode, hbody]
  | .mark _ _ _ :: ts | .absent _ :: ts => by
    simp [loop, isComment, isNamed, loop_bare stay isGeneric hbody ts]
  | .comment _ _ :: ts => by
    have hrest := loop_bare stay isGeneric hbody ts
    cases stay <;> simpa [loop, isComment, isNamed] using hrest

/-- Clauses among bare trees. -/
theorem clauses_bare (kind : ClauseKind) : ∀ (stay isGeneric : Bool) (ts : List Tree),
    Node.bareClauses (.text keep) (clauses kind (bareAll keep stay isGeneric ts)) =
      Node.bareClauses (.text keep) (clauses kind ts)
  | _, _, [] => rfl
  | stay, isGeneric, .node l k span parts :: ts => by
    have hrest := clauses_bare kind stay isGeneric ts
    rw [bareAll_node]
    generalize (isGeneric && l == some .typeArguments) = stay'
    generalize (keep && k == .genericType) = g
    unfold clauses
    split <;>
      simp only [Node.bareClauses, heads_bare stay' g parts, bodies_bare stay' g parts, hrest]
  | stay, isGeneric, .leaf _ _ _ _ :: ts | stay, isGeneric, .mark _ _ _ :: ts
  | stay, isGeneric, .absent _ :: ts | stay, isGeneric, .comment _ _ :: ts => by
    cases stay <;> simp [clauses, isComment, clauses_bare kind _ isGeneric ts]

/-- What bare clauses are for. -/
theorem heads_bare : ∀ (stay isGeneric : Bool) (ts : List Tree),
    Node.bareAll (.text keep) (heads (bareAll keep stay isGeneric ts)) =
      Node.bareAll (.text keep) (heads ts)
  | _, _, [] => rfl
  | stay, isGeneric, .node l kind span parts :: ts => by
    have hnode := toNode_bare (isGeneric && l == some .typeArguments) (.node l kind span parts)
    have hrest := heads_bare stay isGeneric ts
    rw [bare] at hnode
    rw [bareAll_node, heads, heads]
    split
    · exact hrest
    split
    · rw [Node.bareAll_append, Node.bareAll_append, nodes_bare _ _ parts, hrest]
    · rw [bareAll_toNode rfl, bareAll_toNode rfl, hnode, hrest]
  | stay, isGeneric, .leaf l kind text span :: ts => by
    have hnode := toNode_bare stay (.leaf l kind text span)
    rw [bare] at hnode
    cases l <;> simp [heads, isComment, label, hnode, heads_bare stay isGeneric ts]
  | stay, isGeneric, .mark l _ _ :: ts => by
    cases l <;> simp [heads, isComment, label, toNode, Node.bare, heads_bare stay isGeneric ts]
  | stay, isGeneric, .absent _ :: ts | stay, isGeneric, .comment _ _ :: ts => by
    cases stay <;> simp [heads, isComment, label, heads_bare _ isGeneric ts]

/-- What bare clauses do. -/
theorem bodies_bare : ∀ (stay isGeneric : Bool) (ts : List Tree),
    Node.bareAll (.text keep) (bodies (bareAll keep stay isGeneric ts)) =
      Node.bareAll (.text keep) (bodies ts)
  | _, _, [] => rfl
  | stay, isGeneric, t :: ts => by
    cases ht : t.isComment <;> cases stay <;> cases hn : t.isNamed <;> cases hl : t.label <;>
      simp_all [bodies, isNamed_of_isComment, label_of_isComment, toNode_bare _ t,
        bodies_bare _ isGeneric ts]
end

end Go.Tree

end GoSurvey
