import GoSurvey.Proofs.Go.BareLowering

/-!
# Declarations without comments

The declarations of a file in their bare form, without places and comments. A bare tree has the
declarations of the tree in this form (`Tree.decls_bare`), and the same package
(`Tree.package?_bare`).
-/

namespace GoSurvey

section
variable (keep : Bool)

/-- A function in its bare form. -/
def FuncDecl.bare (d : FuncDecl) : FuncDecl where
  name := d.name
  receiver := d.receiver.map (TypeExpr.bare keep)
  params := TypeExpr.bareBindings keep d.params
  results := TypeExpr.bareBindings keep d.results
  body := d.body.map (Node.bareBlock (.text keep))
  span := .nowhere

/-- A named type in its bare form. -/
def TypeSpec.bare (s : TypeSpec) : TypeSpec where
  name := s.name
  type := s.type.bare keep
  span := .nowhere

/-- Values in their bare form. -/
def ValueSpec.bare (s : ValueSpec) : ValueSpec where
  kind := s.kind
  names := s.names
  type := s.type.map (TypeExpr.bare keep)
  values := s.values.map (TypeExpr.bare keep)
  span := .nowhere

/-- An import without its place. -/
def ImportSpec.bare (s : ImportSpec) : ImportSpec where
  path := s.path
  givenName := s.givenName
  span := .nowhere

/-- A declaration in its bare form. -/
def Decl.bare : Decl → Decl
  | .func decl => .func (decl.bare keep)
  | .type spec => .type (spec.bare keep)
  | .value spec => .value (spec.bare keep)
  | .imported spec => .imported spec.bare

/-- A file with its declarations in their bare form. -/
def SourceFile.bare (f : SourceFile) : SourceFile :=
  { f with decls := f.decls.map (Decl.bare keep) }

namespace SourceFile

/-- The declarations of one sort in a bare file. -/
theorem filterMap_bare {α : Type} {pick : Decl → Option α} {g : α → α}
    (h : ∀ d : Decl, pick (d.bare keep) = (pick d).map g) (f : SourceFile) :
    (f.bare keep).decls.filterMap pick = (f.decls.filterMap pick).map g := by
  rw [bare, List.filterMap_map, List.map_filterMap]
  exact congrArg (List.filterMap · f.decls) (funext h)

theorem functions_bare (f : SourceFile) :
    (f.bare keep).functions = f.functions.map (FuncDecl.bare keep) :=
  filterMap_bare keep (fun d => by cases d <;> rfl) f

theorem types_bare (f : SourceFile) : (f.bare keep).types = f.types.map (TypeSpec.bare keep) :=
  filterMap_bare keep (fun d => by cases d <;> rfl) f

theorem values_bare (f : SourceFile) :
    (f.bare keep).values = f.values.map (ValueSpec.bare keep) :=
  filterMap_bare keep (fun d => by cases d <;> rfl) f

theorem imports_bare (f : SourceFile) : (f.bare keep).imports = f.imports.map ImportSpec.bare :=
  filterMap_bare keep (fun d => by cases d <;> rfl) f

end SourceFile

end

namespace Go.Tree

variable {keep : Bool}

/-! ## Parts -/

/-- The parts of a bare tree are bare. -/
theorem children_bare (keep stay : Bool) (t : Tree) :
    ∃ isGeneric, (t.bare keep stay).children = bareAll keep stay isGeneric t.children := by
  cases t with
  | node l kind span children => exact ⟨_, rfl⟩
  | _ => exact ⟨false, rfl⟩

section
variable {β : Type}

/-- Something is made of every part that is no comment. -/
theorem flatMap_bareAll {f f' : Tree → List β}
    (hcomment : ∀ t : Tree, t.isComment = true → f t = [])
    (hf : ∀ stay t, f (bare keep stay t) = f' t) (stay isGeneric : Bool) (ts : List Tree) :
    (bareAll keep stay isGeneric ts).flatMap f = ts.flatMap f' := by
  induction ts with
  | nil => rfl
  | cons t ts ih =>
    rw [bareAll, List.flatMap_cons, ← ih]
    split
    next ht =>
      have hnone : f' t = [] := by
        rw [← hf false t]
        exact hcomment _ ((isComment_bare false t).trans (Bool.and_eq_true_iff.1 ht).1)
      rw [hnone, List.nil_append]
    next => rw [List.flatMap_cons, hf]

/-- Something is made of every part of a kind. -/
theorem flatMap_filter_bareAll {f f' : Tree → List β} (kind : Kind)
    (hf : ∀ stay t, f (bare keep stay t) = f' t) (stay isGeneric : Bool) (ts : List Tree) :
    ((bareAll keep stay isGeneric ts).filter fun t => t.kind? == some kind).flatMap f =
      (ts.filter fun t => t.kind? == some kind).flatMap f' := by
  have hfilter (f : Tree → List β) (ts : List Tree) :
      (ts.filter fun t => t.kind? == some kind).flatMap f =
        ts.flatMap fun t => if t.kind? == some kind then f t else [] := by
    induction ts with
    | nil => rfl
    | cons t ts ih => by_cases ht : t.kind? = some kind <;> simp [ht, ih]
  rw [hfilter, hfilter]
  refine flatMap_bareAll ?_ ?_ stay isGeneric ts
  · intro t ht
    obtain ⟨_, _, rfl⟩ := exists_of_isComment ht
    rfl
  · intro stay t
    rw [kind?_bare, hf]

end

/-- The first part of a certain sort, which no comment is. -/
theorem find?_bareAll {p : Tree → Bool} (hcomment : ∀ t : Tree, t.isComment = true → p t = false)
    (hp : ∀ stay t, p (bare keep stay t) = p t) (stay isGeneric : Bool) (ts : List Tree) :
    ∃ stay', (bareAll keep stay isGeneric ts).find? p = (ts.find? p).map (bare keep stay') := by
  induction ts with
  | nil => exact ⟨false, rfl⟩
  | cons t ts ih =>
    obtain ⟨stay', ih⟩ := ih
    rw [bareAll]
    split
    next ht =>
      refine ⟨stay', ?_⟩
      rw [List.find?_cons, hcomment t (Bool.and_eq_true_iff.1 ht).1, ih]
    next =>
      rw [List.find?_cons, List.find?_cons, hp]
      cases p t with
      | true => exact ⟨_, rfl⟩
      | false => exact ⟨stay', ih⟩

/-- The part under a label. -/
theorem childAt?_bareAll (keep : Bool) (label : Label) (stay isGeneric : Bool) (ts : List Tree) :
    ∃ stay', childAt? label (bareAll keep stay isGeneric ts) =
      (childAt? label ts).map (bare keep stay') := by
  refine find?_bareAll ?_ ?_ stay isGeneric ts
  · intro t ht
    rw [label_of_isComment ht]
    rfl
  · intro stay t
    rw [label_bare]

/-! ## Declarations -/

/-- The first type of bare bindings. -/
theorem head?_bareBindings (bs : List (Binding TypeExpr)) :
    (TypeExpr.bareBindings keep bs).head?.map (·.type) =
      (bs.head?.map (·.type)).map (TypeExpr.bare keep) := by
  rcases bs with _ | ⟨⟨names, t⟩, bs⟩ <;> rfl

/-- The function of a bare tree. -/
theorem toFuncDecl?_bare (stay : Bool) (t : Tree) :
    (t.bare keep stay).toFuncDecl?.map (FuncDecl.bare keep) =
      t.toFuncDecl?.map (FuncDecl.bare keep) := by
  obtain ⟨g, hchildren⟩ := children_bare keep stay t
  obtain ⟨stay', hname⟩ := childAt?_bareAll keep .name stay g t.children
  have hbody : (blockAt .body (bareAll keep stay g t.children)).map _ = _ :=
    blockAt_bare .body stay g t.children
  rw [toFuncDecl?, toFuncDecl?, hchildren, hname]
  cases childAt? .name t.children with
  | none => rfl
  | some name =>
    simp [FuncDecl.bare, bindingsAt_bare, resultBindings_bare, head?_bareBindings,
      TypeExpr.bareBindings_bare, TypeExpr.bare_bare, Function.comp_def, hbody]

/-- The type of a bare tree. -/
theorem toTypeSpec?_bare (stay : Bool) (t : Tree) :
    (t.bare keep stay).toTypeSpec?.map (TypeSpec.bare keep) =
      t.toTypeSpec?.map (TypeSpec.bare keep) := by
  obtain ⟨g, hchildren⟩ := children_bare keep stay t
  obtain ⟨_, hname⟩ := childAt?_bareAll keep .name stay g t.children
  obtain ⟨_, htype⟩ := childAt?_bareAll keep .type stay g t.children
  rw [toTypeSpec?, toTypeSpec?, kind?_bare, hchildren, hname, htype]
  split
  · cases childAt? .name t.children <;> cases childAt? .type t.children <;>
      simp [TypeSpec.bare, toType_bare, TypeExpr.bare_bare]
  · rfl

/-- The values in a bare list of expressions. -/
theorem valuesOf_bare (stay : Bool) (t : Tree) :
    valuesOf (t.bare keep stay) = (valuesOf t).map (TypeExpr.bare keep) := by
  have hall (stay g : Bool) (ts : List Tree) :
      ((bareAll keep stay g ts).filter fun c => c.isNamed && !c.isComment).map toType =
        ((ts.filter fun c => c.isNamed && !c.isComment).map toType).map (TypeExpr.bare keep) := by
    induction ts with
    | nil => rfl
    | cons t ts ih =>
      cases ht : t.isComment <;> cases stay <;> cases hn : t.isNamed <;>
        simp_all [bareAll, toType_bare]
  obtain ⟨g, hchildren⟩ := children_bare keep stay t
  rw [valuesOf, valuesOf, kind?_bare, hchildren]
  split
  · exact hall stay g t.children
  · rw [toType_bare, List.map_singleton]

/-- The values that a bare tree declares. -/
theorem toValueSpec_bare (kind : ValueKind) (stay : Bool) (t : Tree) :
    ((t.bare keep stay).toValueSpec kind).bare keep = (t.toValueSpec kind).bare keep := by
  obtain ⟨g, hchildren⟩ := children_bare keep stay t
  obtain ⟨_, htype⟩ := childAt?_bareAll keep .type stay g t.children
  obtain ⟨_, hvalue⟩ := childAt?_bareAll keep .value stay g t.children
  rw [toValueSpec, toValueSpec, hchildren, hvalue, htype]
  cases childAt? .type t.children <;> cases childAt? .value t.children <;>
    simp [ValueSpec.bare, toType_bare, TypeExpr.bare_bare, valuesOf_bare, Function.comp_def]

/-- The specifications of a bare declaration of values. -/
theorem valueSpecs_bare (kind : ValueKind) (stay : Bool) (t : Tree) :
    ((t.bare keep stay).valueSpecs kind).map (ValueSpec.bare keep) =
      (t.valueSpecs kind).map (ValueSpec.bare keep) := by
  obtain ⟨g, hchildren⟩ := children_bare keep stay t
  rw [valueSpecs, valueSpecs, hchildren, List.map_flatMap, List.map_flatMap]
  refine flatMap_bareAll ?_ ?_ stay g t.children
  · intro c hc
    obtain ⟨_, _, rfl⟩ := exists_of_isComment hc
    rfl
  · intro stay c
    obtain ⟨g, hchildren⟩ := children_bare keep stay c
    simp only [kind?_bare, hchildren]
    split
    · exact congrArg ([·]) (toValueSpec_bare kind stay c)
    · exact congrArg ([·]) (toValueSpec_bare kind stay c)
    · rw [List.map_map, List.map_map, List.map_eq_flatMap, List.map_eq_flatMap]
      refine flatMap_filter_bareAll .varSpec (fun stay d => ?_) stay g c.children
      exact congrArg ([·]) (toValueSpec_bare kind stay d)
    · rfl

/-- The declarations of a bare item. -/
theorem toDecls_bare (stay : Bool) (t : Tree) :
    (t.bare keep stay).toDecls.map (Decl.bare keep) = t.toDecls.map (Decl.bare keep) := by
  have hfunc : ((t.bare keep stay).toFuncDecl?.toList.map Decl.func).map (Decl.bare keep) =
      (t.toFuncDecl?.toList.map Decl.func).map (Decl.bare keep) := by
    have hdecl : (t.bare keep stay).toFuncDecl?.map _ = _ := toFuncDecl?_bare stay t
    have hlist := congrArg (fun o => o.toList.map Decl.func) hdecl
    simpa [Option.toList_map, Function.comp_def, Decl.bare] using hlist
  have hvalue (kind : ValueKind) :
      (((t.bare keep stay).valueSpecs kind).map Decl.value).map (Decl.bare keep) =
        ((t.valueSpecs kind).map Decl.value).map (Decl.bare keep) := by
    have hspecs : ((t.bare keep stay).valueSpecs kind).map _ = _ := valueSpecs_bare kind stay t
    have hlist := congrArg (List.map Decl.value) hspecs
    simpa [Function.comp_def, Decl.bare] using hlist
  rw [toDecls, toDecls, kind?_bare]
  split
  · exact hfunc
  · exact hfunc
  · obtain ⟨g, hchildren⟩ := children_bare keep stay t
    rw [hchildren, List.map_map, List.map_map, List.map_filterMap, List.map_filterMap,
      List.filterMap_eq_flatMap_toList, List.filterMap_eq_flatMap_toList]
    refine flatMap_bareAll ?_ ?_ stay g t.children
    · intro c hc
      obtain ⟨_, _, rfl⟩ := exists_of_isComment hc
      rfl
    · intro stay c
      have hspec : (c.bare keep stay).toTypeSpec?.map _ = _ := toTypeSpec?_bare stay c
      have hlist := congrArg (fun o => (o.map Decl.type).toList) hspec
      simpa [Function.comp_def, Decl.bare] using hlist
  · exact hvalue .var
  · exact hvalue .const
  · rfl

/-! ## Imports and the package -/

/-- The import of a bare tree. -/
theorem toImport?_bare (stay : Bool) (t : Tree) :
    (t.bare keep stay).toImport?.map ImportSpec.bare = t.toImport?.map ImportSpec.bare := by
  obtain ⟨g, hchildren⟩ := children_bare keep stay t
  obtain ⟨_, hpath⟩ := childAt?_bareAll keep .path stay g t.children
  have hname : ∃ stay', (bareAll keep stay g t.children).find? (fun c =>
      c.label == some .name && c.kind? == some .packageIdentifier) =
      (t.children.find? fun c =>
        c.label == some .name && c.kind? == some .packageIdentifier).map (bare keep stay') := by
    refine find?_bareAll ?_ ?_ stay g t.children
    · intro c hc
      obtain ⟨_, _, rfl⟩ := exists_of_isComment hc
      rfl
    · intro stay c
      rw [label_bare, kind?_bare]
  obtain ⟨_, hname⟩ := hname
  rw [toImport?, toImport?, hchildren, hpath, hname]
  cases childAt? .path t.children with
  | none => simp only [Option.map_none, Option.bind_eq_bind, Option.bind_none]
  | some path =>
    by_cases hkind : path.kind? = some .interpretedStringLiteral <;>
      by_cases htext : unquote path.text = "" <;>
      simp [hkind, htext, ImportSpec.bare, Function.comp_def]

/-- The first imports of all paths do not depend on places. -/
theorem firstOfPath_bare (is : List ImportSpec) :
    firstOfPath (is.map ImportSpec.bare) = (firstOfPath is).map ImportSpec.bare := by
  induction is with
  | nil => rfl
  | cons i is ih =>
    rw [List.map_cons, firstOfPath, firstOfPath, ih, List.map_cons, List.filter_map]
    rfl

/-- The import specifications of a bare declaration. -/
theorem importSpecs_bare (stay : Bool) (t : Tree) :
    (t.bare keep stay).importSpecs.filterMap (fun c => c.toImport?.map ImportSpec.bare) =
      t.importSpecs.filterMap fun c => c.toImport?.map ImportSpec.bare := by
  obtain ⟨g, hchildren⟩ := children_bare keep stay t
  rw [importSpecs, importSpecs, hchildren, List.filterMap_flatMap, List.filterMap_flatMap]
  refine flatMap_bareAll ?_ ?_ stay g t.children
  · intro c hc
    obtain ⟨_, _, rfl⟩ := exists_of_isComment hc
    rfl
  · intro stay c
    obtain ⟨g, hchildren⟩ := children_bare keep stay c
    simp only [kind?_bare, hchildren]
    split
    · simp only [List.filterMap_cons, toImport?_bare]
    · rw [List.filterMap_eq_flatMap_toList, List.filterMap_eq_flatMap_toList]
      exact flatMap_filter_bareAll .importSpec (fun stay d => by rw [toImport?_bare]) stay g
        c.children
    · rfl

/-- The imports of a bare file. -/
theorem imports_bare (stay : Bool) (root : Tree) :
    (root.bare keep stay).imports.map ImportSpec.bare = root.imports.map ImportSpec.bare := by
  obtain ⟨g, hchildren⟩ := children_bare keep stay root
  have hsorted (is : List ImportSpec) :
      (is.mergeSort fun a b => (compare a.path b.path).isLE).map ImportSpec.bare =
        (is.map ImportSpec.bare).mergeSort fun a b => (compare a.path b.path).isLE :=
    List.map_mergeSort fun _ _ _ _ => rfl
  rw [imports, imports, hsorted, hsorted, ← firstOfPath_bare, ← firstOfPath_bare,
    List.map_filterMap, List.map_filterMap, List.filterMap_flatMap, List.filterMap_flatMap,
    hchildren, flatMap_filter_bareAll .importDeclaration importSpecs_bare]

/-- The package of a bare file. -/
theorem package?_bare (stay : Bool) (root : Tree) :
    package? (root.bare keep stay) = package? root := by
  have hfind (kind : Kind) (stay g : Bool) (ts : List Tree) :
      ∃ stay', (bareAll keep stay g ts).find? (fun c => c.kind? == some kind) =
        (ts.find? fun c => c.kind? == some kind).map (bare keep stay') := by
    refine find?_bareAll ?_ ?_ stay g ts
    · intro c hc
      obtain ⟨_, _, rfl⟩ := exists_of_isComment hc
      rfl
    · intro stay c
      rw [kind?_bare]
  obtain ⟨g, hchildren⟩ := children_bare keep stay root
  obtain ⟨stay', hclause⟩ := hfind .packageClause stay g root.children
  rw [package?, package?, hchildren, hclause]
  cases root.children.find? fun c => c.kind? == some .packageClause with
  | none => rfl
  | some clause =>
    obtain ⟨g, hchildren⟩ := children_bare keep stay' clause
    obtain ⟨_, hname⟩ := hfind .packageIdentifier stay' g clause.children
    simp only [Option.map_some, Option.bind_eq_bind, Option.bind_some, hchildren, hname]
    cases clause.children.find? fun c => c.kind? == some .packageIdentifier with
    | none => rfl
    | some name => simp

/-- The declarations of a bare file. -/
theorem decls_bare (path : String) (stay : Bool) (root : Tree) :
    ((root.bare keep stay).toSourceFile path).decls.map (Decl.bare keep) =
      (root.toSourceFile path).decls.map (Decl.bare keep) := by
  obtain ⟨g, hchildren⟩ := children_bare keep stay root
  have himports : ((root.bare keep stay).imports.map Decl.imported).map (Decl.bare keep) =
      (root.imports.map Decl.imported).map (Decl.bare keep) := by
    have hlist : ((root.bare keep stay).imports.map ImportSpec.bare).map Decl.imported = _ :=
      congrArg (List.map Decl.imported) (imports_bare stay root)
    simpa [Function.comp_def, Decl.bare] using hlist
  simp only [toSourceFile, List.map_append, himports, List.map_flatMap, hchildren]
  refine congrArg (_ ++ ·) (flatMap_bareAll ?_ toDecls_bare stay g root.children)
  intro c hc
  obtain ⟨_, _, rfl⟩ := exists_of_isComment hc
  rfl

end Go.Tree

end GoSurvey
