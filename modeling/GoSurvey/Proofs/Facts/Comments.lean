import GoSurvey.Proofs.Go.BareFile
import GoSurvey.Proofs.Survey.Measured

/-!
# Facts and comments

What a file yields is read off the bare form of its declarations, in which there are no places and
no comments. If comments among type arguments are left out as well, this is said of all names
(`FileFacts.extract_bare`); if they are kept, of the texts of types too
(`FileFacts.extract_bare_true`).

So a comment that is put in for a space has no say in what is extracted (`Go.Source.extract_noted`),
unless it stands among the arguments of a generic type. There it counts as an argument, where all
other lists of types are read without their comments.
-/

namespace GoSurvey

/-! ## Bodies -/

namespace Node

/-- What is gathered from the nodes of a body, comments apart, is gathered from its bare form. -/
theorem foldl_preorderBlock_bare {σ : Type} {f : Node → σ → σ} {v : View}
    (hcomment : ∀ text s, f (.comment text) s = s) (hbare : ∀ n, f (n.bare v) = f n) {b : Block}
    (hplain : (preorderBlock b).all hasPlainComments = true) (s : σ) :
    (preorderBlock b).foldl (fun s n => f n s) s =
      ((solid (codeBlock (bareBlock v b))).map f).foldl (fun s g => g s) s := by
  let step (n : Node) : Option (σ → σ) := if n.isComment then none else some (f n)
  have hsolid (ns : List Node) : (solid ns).map f = ns.filterMap step := by
    induction ns with
    | nil => rfl
    | cons n ns ih => cases hn : n.isComment <;> simp [step, hn, ih]
  have hfold (ns : List Node) :
      ns.foldl (fun s n => f n s) s = (ns.filterMap step).foldl (fun s g => g s) s := by
    induction ns generalizing s with
    | nil => rfl
    | cons n ns ih =>
      cases hn : n.isComment with
      | false => simp [step, hn, ih]
      | true =>
        cases n <;> cases hn
        simp [step, isComment, hcomment, ih]
  rw [map_codeBlock_bare hbare, hsolid, filterMap_codeBlock (fun _ => rfl) hplain, hfold]

/-- A node that stands for a type does so in its bare form. -/
theorem asType_bare (keep : Bool) : ∀ n : Node,
    (n.bare (.text keep)).asType = n.asType.bare keep
  | .selector e field => by simp [bare, asType, TypeExpr.bare, asType_bare keep e]
  | .ident _ | .literal _ | .type _ | .call _ _ | .other _ _ | .unary _ _ | .binary _ _ _
  | .cond _ _ _ _ | .loop _ _ _ _ | .range _ _ _ | .switch _ _ _ _ | .select _ _ | .block _
  | .ret _ | .comment _ => by simp [bare, asType, TypeExpr.bare, View.text]

end Node

namespace References

/-- The globals and dependencies among the references of one more node. -/
def visitNames (scope : Scope) (n : Node) (names : List String × List String) :
    List String × List String :=
  match n with
  | .ident name => (if name ∈ scope.globals then pushNew names.1 name else names.1, names.2)
  | .selector (.ident base) _ => (names.1, (scope.pathsOf base).foldl pushNew names.2)
  | _ => names

/-- The globals and dependencies of a node do not depend on the cache. -/
theorem names_visit (scope : Scope) (n : Node) (r : References) (c : TypeCache) :
    ((visit scope n r c).1.globals, (visit scope n r c).1.dependencies) =
      visitNames scope n (r.globals, r.dependencies) := by
  cases n with
  | call f args => cases f <;> rfl
  | selector e field => cases e <;> rfl
  | ident name =>
    simp only [visit, visitNames]
    split <;> rfl
  | _ => rfl

/-- The globals and dependencies of nodes. -/
theorem names_visitAll (scope : Scope) (ns : List Node) (r : References) (c : TypeCache) :
    ((visitAll scope ns r c).1.globals, (visitAll scope ns r c).1.dependencies) =
      ns.foldl (fun names n => visitNames scope n names) (r.globals, r.dependencies) := by
  induction ns generalizing r c with
  | nil => rfl
  | cons n ns ih => rw [visitAll, ih, names_visit, List.foldl_cons]

/-- The globals and dependencies of a node are those of its bare form. -/
theorem visitNames_bare (scope : Scope) (v : View) (n : Node) :
    visitNames scope (n.bare v) = visitNames scope n := by
  cases n with
  | selector e field => cases e <;> rfl
  | _ => rfl

/-- If comments are kept, a node has the references of its bare form. -/
theorem visit_bare (scope : Scope) (n : Node) :
    visit scope (n.bare (.text true)) = visit scope n := by
  cases n with
  | call f args =>
    cases f with
    | selector e field =>
      have htype := Node.asType_bare true (.selector e field)
      rw [TypeExpr.bare_true, Node.bare] at htype
      funext r c
      simp only [Node.bare, visit, htype]
    | _ => rfl
  | selector e field => cases e <;> rfl
  | _ => rfl

/-- Nodes are visited from left to right. -/
theorem visitAll_eq_foldl (scope : Scope) (ns : List Node) (r : References) (c : TypeCache) :
    visitAll scope ns r c = ns.foldl (fun s n => visit scope n s.1 s.2) (r, c) := by
  induction ns generalizing r c with
  | nil => rfl
  | cons n ns ih => exact ih (visit scope n r c).1 (visit scope n r c).2

end References

/-! ## Scopes -/

namespace Scope

/-- A scope whose imports have no places. -/
def bare (s : Scope) : Scope :=
  { s with imports := s.imports.map ImportSpec.bare }

/-- Places have no say in what a name refers to. -/
theorem pathsOf_bare (s : Scope) (base : String) : s.bare.pathsOf base = s.pathsOf base := by
  rw [pathsOf, pathsOf, bare, List.filter_map, List.map_map]
  rfl

end Scope

namespace References

/-- A body has its references wherever the imports stand. -/
theorem ofBody_scope_bare (scope : Scope) : ofBody scope.bare = ofBody scope := by
  have hvisit : visit scope.bare = visit scope := by
    funext n r c
    cases n with
    | call f args => cases f <;> rfl
    | selector e field => cases e <;> simp only [visit, Scope.pathsOf_bare]
    | _ => rfl
  funext body c
  cases body with
  | none => rfl
  | some body => rw [ofBody, ofBody, visitAll_eq_foldl, visitAll_eq_foldl, hvisit]

section
variable {scope scope' : Scope} (hscope : scope.bare = scope'.bare) {body body' : Option Block}
  (hplain : ∀ b, body = some b → (Node.preorderBlock b).all Node.hasPlainComments = true)
  (hplain' : ∀ b, body' = some b → (Node.preorderBlock b).all Node.hasPlainComments = true)
include hscope hplain hplain'

/-- Globals and dependencies are read off the bare form of a body. -/
theorem names_ofBody_bare {keep : Bool}
    (h : body.map (Node.bareBlock (.text keep)) = body'.map (Node.bareBlock (.text keep)))
    (c c' : TypeCache) :
    ((ofBody scope body c).1.globals, (ofBody scope body c).1.dependencies) =
      ((ofBody scope' body' c').1.globals, (ofBody scope' body' c').1.dependencies) := by
  rw [← ofBody_scope_bare scope, ← ofBody_scope_bare scope', hscope]
  rcases map_eq_map_cases h with ⟨rfl, rfl⟩ | ⟨b, b', rfl, rfl, hb⟩
  · rfl
  · have hfold {b : Block} (hb : (Node.preorderBlock b).all Node.hasPlainComments = true) :=
      Node.foldl_preorderBlock_bare (fun _ _ => rfl) (visitNames_bare scope'.bare (.text keep)) hb
    rw [ofBody, ofBody, names_visitAll, names_visitAll, hfold (hplain b rfl),
      hfold (hplain' b' rfl), hb]

/-- If comments are kept, all references are read off the bare form of a body. -/
theorem ofBody_bare
    (h : body.map (Node.bareBlock (.text true)) = body'.map (Node.bareBlock (.text true)))
    (c : TypeCache) : ofBody scope body c = ofBody scope' body' c := by
  rw [← ofBody_scope_bare scope, ← ofBody_scope_bare scope', hscope]
  rcases map_eq_map_cases h with ⟨rfl, rfl⟩ | ⟨b, b', rfl, rfl, hb⟩
  · rfl
  · let step (n : Node) (s : References × TypeCache) := visit scope'.bare n s.1 s.2
    have hstep (n : Node) : step (n.bare (.text true)) = step n := by
      simp only [step, visit_bare]
    have hfold {b : Block} (hb : (Node.preorderBlock b).all Node.hasPlainComments = true) :=
      Node.foldl_preorderBlock_bare (f := step) (fun _ _ => rfl) hstep hb (empty, c)
    rw [ofBody, ofBody, visitAll_eq_foldl, visitAll_eq_foldl]
    exact (hfold (hplain b rfl)).trans (hb ▸ (hfold (hplain' b' rfl)).symm)

end

end References

/-! ## Functions -/

namespace TypeExpr

/-- Comments have no say in the struct behind the type of a receiver. -/
@[simp]
theorem receiverName?_bare (keep : Bool) : ∀ t : TypeExpr,
    (t.bare keep).receiverName? = t.receiverName?
  | .pointer t => receiverName?_bare keep t
  | .generic base _ => receiverName?_bare keep base
  | .ident _ | .slice _ | .map _ _ | .chan _ | .func _ _ | .interface _ | .struct _ | .literal _
  | .selector _ _ | .variadic _ | .unsupported _ => rfl

end TypeExpr

namespace FunctionRecord

/-- What a record says of a function by its names: how it is called, what it refers to, and its
canonical text. -/
def outline (f : FunctionRecord) : String × List String × List String × Option String :=
  (f.qualifiedName, f.referencedGlobals, f.dependencies, f.fingerprint)

/-- What a record says of a function by the texts of types: those of its parameters and results, and
the functions that it calls. -/
def typeTexts (f : FunctionRecord) : List String × List String × List String :=
  (f.params, f.returns, f.callees)

end FunctionRecord

namespace FuncDecl

/-- Whether only comments stand between the clauses in the body of a function. -/
def HasPlainBody (d : FuncDecl) : Prop :=
  ∀ body, d.body = some body → (Node.preorderBlock body).all Node.hasPlainComments = true

/-- Comments have no say in the canonical text of a function. -/
theorem fingerprint_bare (keep : Bool) (d : FuncDecl) :
    (FileFacts.measureBody (d.bare keep).body).2 = (FileFacts.measureBody d.body).2 := by
  rw [measureBody_eq, measureBody_eq, readableBody?, readableBody?, bare]
  cases d.body with
  | none => rfl
  | some body =>
    simp only [Option.map_some, Option.filter_some, Node.isDamagedBlock_bare]
    split
    · exact congrArg some (Node.canonicalize_bare body)
    · rfl

end FuncDecl

namespace FileFacts

section
variable {scope scope' : Scope} (hscope : scope.bare = scope'.bare) {file package : String}
include hscope

/-- The names in the record of a function are read off its bare form. -/
theorem outline_functionOf {keep : Bool} {d d' : FuncDecl} (hplain : d.HasPlainBody)
    (hplain' : d'.HasPlainBody) (h : d.bare keep = d'.bare keep) (c c' : TypeCache) :
    (functionOf file package scope d c).1.outline =
      (functionOf file package scope' d' c').1.outline := by
  have hname : d.name = d'.name := congrArg (·.name) h
  have hreceiver : (d.receiver.bind (·.receiverName?)).getD "" =
      (d'.receiver.bind (·.receiverName?)).getD "" := by
    have hmap := congrArg (fun d => (d.receiver.bind (·.receiverName?)).getD "") h
    simpa [FuncDecl.bare, Option.bind_map, Function.comp_def] using hmap
  have hnames := References.names_ofBody_bare hscope hplain hplain' (congrArg (·.body) h) c c'
  have hfingerprint := d.fingerprint_bare keep
  rw [h, FuncDecl.fingerprint_bare] at hfingerprint
  rw [Prod.mk.injEq] at hnames
  show (qualify package ((d.receiver.bind (·.receiverName?)).getD "") d.name,
    (References.ofBody scope d.body c).1.globals,
    (References.ofBody scope d.body c).1.dependencies, (measureBody d.body).2) = _
  rw [hname, hreceiver, hnames.1, hnames.2, ← hfingerprint]
  rfl

/-- If comments are kept, so are the texts of types. -/
theorem typeTexts_functionOf {d d' : FuncDecl} (hplain : d.HasPlainBody)
    (hplain' : d'.HasPlainBody) (h : d.bare true = d'.bare true) (c : TypeCache) :
    (functionOf file package scope d c).1.typeTexts =
        (functionOf file package scope' d' c).1.typeTexts ∧
      (functionOf file package scope d c).2 = (functionOf file package scope' d' c).2 := by
  have hparams := congrArg (·.params) h
  have hresults := congrArg (·.results) h
  simp only [FuncDecl.bare, TypeExpr.bareBindings_true] at hparams hresults
  have hrefs := References.ofBody_bare hscope hplain hplain' (congrArg (·.body) h) c
  simp only [functionOf, hrefs, hparams, hresults]
  exact ⟨rfl, trivial⟩

omit hscope in
/-- The first of some functions and the others. -/
theorem allFunctions_cons (d : FuncDecl) (ds : List FuncDecl) (c : TypeCache) :
    (allFunctions file package scope (d :: ds) c).1 =
      (functionOf file package scope d c).1 ::
        (allFunctions file package scope ds (functionOf file package scope d c).2).1 := rfl

/-- The names in the records of functions are read off their bare forms. -/
theorem outline_allFunctions {keep : Bool} : ∀ {ds ds' : List FuncDecl},
    (∀ d ∈ ds, d.HasPlainBody) → (∀ d ∈ ds', d.HasPlainBody) →
    ds.map (FuncDecl.bare keep) = ds'.map (FuncDecl.bare keep) → ∀ c c' : TypeCache,
    (allFunctions file package scope ds c).1.map (·.outline) =
      (allFunctions file package scope' ds' c').1.map (·.outline)
  | [], [], _, _, _, _, _ => rfl
  | d :: ds, d' :: ds', hplain, hplain', h, c, c' => by
    rw [List.forall_mem_cons] at hplain hplain'
    rw [List.map_cons, List.map_cons, List.cons.injEq] at h
    exact congrArg₂ List.cons (outline_functionOf hscope hplain.1 hplain'.1 h.1 c c')
      (outline_allFunctions hplain.2 hplain'.2 h.2 _ _)

/-- If comments are kept, so are the texts of types in the records of functions. -/
theorem typeTexts_allFunctions : ∀ {ds ds' : List FuncDecl},
    (∀ d ∈ ds, d.HasPlainBody) → (∀ d ∈ ds', d.HasPlainBody) →
    ds.map (FuncDecl.bare true) = ds'.map (FuncDecl.bare true) → ∀ c : TypeCache,
    (allFunctions file package scope ds c).1.map (·.typeTexts) =
      (allFunctions file package scope' ds' c).1.map (·.typeTexts)
  | [], [], _, _, _, _ => rfl
  | d :: ds, d' :: ds', hplain, hplain', h, c => by
    rw [List.forall_mem_cons] at hplain hplain'
    rw [List.map_cons, List.map_cons, List.cons.injEq] at h
    have hfirst : (functionOf file package scope d c).1.typeTexts = _ ∧ _ :=
      typeTexts_functionOf hscope hplain.1 hplain'.1 h.1 c
    have hrest := typeTexts_allFunctions hplain.2 hplain'.2 h.2
      (functionOf file package scope' d' c).2
    rw [allFunctions_cons, allFunctions_cons, List.map_cons, List.map_cons, hfirst.1, hfirst.2,
      hrest]

end

/-! ## Other declarations -/

section
variable (file package : String)

/-- Comments have no say in which types are structs. -/
theorem structsOf_bare (keep : Bool) (specs : List TypeSpec) :
    structsOf file package (specs.map (TypeSpec.bare keep)) = structsOf file package specs := by
  rw [structsOf, structsOf, List.filterMap_map]
  refine congrArg (List.filterMap · specs) (funext fun spec => ?_)
  rcases spec with ⟨name, type, span⟩
  cases type <;> rfl

/-- Comments have no say in the names of bindings. -/
theorem flatMap_names_bare (keep : Bool) (bs : List (Binding TypeExpr)) :
    (TypeExpr.bareBindings keep bs).flatMap (·.names) = bs.flatMap (·.names) := by
  induction bs with
  | nil => rfl
  | cons b bs ih => exact congrArg (b.names ++ ·) ih

/-- Comments have no say in which types are interfaces. -/
theorem interfacesOf_bare (keep : Bool) (specs : List TypeSpec) :
    interfacesOf file package (specs.map (TypeSpec.bare keep)) =
      interfacesOf file package specs := by
  rw [interfacesOf, interfacesOf, List.filterMap_map]
  refine congrArg (List.filterMap · specs) (funext fun spec => ?_)
  rcases spec with ⟨name, type, span⟩
  cases type with
  | interface elems =>
    simp only [Function.comp_apply, TypeSpec.bare, TypeExpr.bare, flatMap_names_bare]
  | _ => rfl

/-- The names of values are those that are declared. -/
theorem names_valueTexts (names : List String) (values : List TypeExpr) (c : TypeCache) :
    (valueTexts names values c).1.map (·.1) = names := by
  induction names generalizing values c with
  | nil => rfl
  | cons name names ih => exact congrArg (name :: ·) (ih values.tail _)

/-- The names of globals are those that are declared. -/
theorem names_allGlobals (specs : List ValueSpec) (c : TypeCache) :
    (allGlobals file package specs c).1.map (·.name) = specs.flatMap (·.names) := by
  induction specs generalizing c with
  | nil => rfl
  | cons spec specs ih =>
    show (_ ++ (allGlobals file package specs (globalsOf file package spec c).2).1).map _ = _
    rw [List.map_append, ih, List.flatMap_cons]
    refine congrArg (· ++ _) ?_
    show List.map _ (List.map _ (valueTexts spec.names spec.values _).1) = _
    rw [List.map_map]
    exact names_valueTexts spec.names spec.values _

/-- Values have the same records in their bare form if comments are kept. -/
theorem allGlobals_bare (specs : List ValueSpec) (c : TypeCache) :
    allGlobals file package (specs.map (ValueSpec.bare true)) c =
      allGlobals file package specs c := by
  have hid : TypeExpr.bare true = id := funext TypeExpr.bare_true
  have hspec (spec : ValueSpec) :
      globalsOf file package (spec.bare true) = globalsOf file package spec := by
    funext c
    simp only [globalsOf, ValueSpec.bare, hid, Option.map_id, List.map_id, id]
  induction specs generalizing c with
  | nil => rfl
  | cons spec specs ih => simp only [List.map_cons, allGlobals, hspec, ih]

end

/-! ## Files -/

section
variable {f f' : SourceFile} (hplain : ∀ d ∈ f.functions, d.HasPlainBody)
  (hplain' : ∀ d ∈ f'.functions, d.HasPlainBody) (path : String) (c : TypeCache)
include hplain hplain'

/-- What a file yields apart from the texts of types is read off its bare form. -/
theorem extract_bare {keep : Bool} (h : f.bare keep = f'.bare keep) :
    let facts := (extract f path c).1
    let facts' := (extract f' path c).1
    facts.structs = facts'.structs ∧ facts.interfaces = facts'.interfaces ∧
      facts.imports = facts'.imports ∧
      facts.globals.map (·.name) = facts'.globals.map (·.name) ∧
      facts.functions.map (·.outline) = facts'.functions.map (·.outline) := by
  have hpackage : f.package = f'.package := congrArg (·.package) h
  have htypes := congrArg (·.types) h
  have hvalues := congrArg (fun f => f.values.flatMap (·.names)) h
  have himports := congrArg (·.imports) h
  have hfunctions := congrArg (·.functions) h
  simp only [SourceFile.types_bare, SourceFile.values_bare, SourceFile.imports_bare,
    SourceFile.functions_bare, List.flatMap_map, ValueSpec.bare]
    at htypes hvalues himports hfunctions
  have hglobals : (allGlobals path f.package f.values c).1.map (·.name) =
      (allGlobals path f'.package f'.values c).1.map (·.name) := by
    rw [names_allGlobals, names_allGlobals, hvalues]
  refine ⟨?_, ?_, ?_, hglobals, ?_⟩
  · show structsOf path f.package f.types = structsOf path f'.package f'.types
    rw [hpackage, ← structsOf_bare _ _ keep f.types, htypes, structsOf_bare]
  · show interfacesOf path f.package f.types = interfacesOf path f'.package f'.types
    rw [hpackage, ← interfacesOf_bare _ _ keep f.types, htypes, interfacesOf_bare]
  · have hrecords := congrArg (List.map fun i : ImportSpec =>
      ({ path := i.path, file := path, package := f.package } : ImportRecord)) himports
    rw [List.map_map, List.map_map] at hrecords
    show f.imports.map _ = f'.imports.map _
    rw [← hpackage]
    exact hrecords
  · show (allFunctions path f.package ⟨_, f.imports⟩ f.functions _).1.map _ =
      (allFunctions path f'.package ⟨_, f'.imports⟩ f'.functions _).1.map _
    rw [hpackage]
    refine outline_allFunctions ?_ hplain hplain' hfunctions _ _
    simp only [Scope.bare, names_allGlobals, hvalues, himports]

/-- If comments are kept, the texts of types are read off the bare form of a file as well. -/
theorem extract_bare_true (h : f.bare true = f'.bare true) :
    let facts := (extract f path c).1
    let facts' := (extract f' path c).1
    facts.globals = facts'.globals ∧
      facts.functions.map (·.typeTexts) = facts'.functions.map (·.typeTexts) := by
  have hpackage : f.package = f'.package := congrArg (·.package) h
  have hvalues := congrArg (·.values) h
  have himports := congrArg (·.imports) h
  have hfunctions := congrArg (·.functions) h
  simp only [SourceFile.values_bare, SourceFile.imports_bare, SourceFile.functions_bare]
    at hvalues himports hfunctions
  have hglobals :
      allGlobals path f.package f.values c = allGlobals path f'.package f'.values c := by
    rw [← allGlobals_bare, hvalues, allGlobals_bare, hpackage]
  refine ⟨congrArg Prod.fst hglobals, ?_⟩
  show (allFunctions path f.package ⟨_, f.imports⟩ f.functions _).1.map _ =
    (allFunctions path f'.package ⟨_, f'.imports⟩ f'.functions _).1.map _
  rw [hglobals, hpackage]
  refine typeTexts_allFunctions ?_ hplain hplain' hfunctions _
  simp only [Scope.bare, himports]

end

end FileFacts

/-! ## Putting a comment in -/

namespace Go.Source

open Lexer

section
variable {pre post : List UInt8} (herrors : (read (pre ++ 0x20 :: post)).hasErrors = false)
  (hgap : Gap pre (lex (pre ++ 0x20 :: post)).1 (lex (pre ++ 0x20 :: post)).2)
include herrors hgap

/-- A comment that is put in for a space changes the bare form of a file only if it is kept. -/
theorem toSourceFile_noteBytes {keep : Bool}
    (hkeeps : (read (pre ++ (noteBytes ++ post))).tree.keeps keep (pre.length + 1) false = false)
    (path : String) :
    ((read (pre ++ (noteBytes ++ post))).toSourceFile path).bare keep =
      ((read (pre ++ 0x20 :: post)).toSourceFile path).bare keep := by
  have htree := bare_noteBytes herrors hgap hkeeps
  have hbare (s : Source) : (s.toSourceFile path).bare keep =
      { path, package := ((s.tree.bare keep false).package?).getD ""
        decls := ((s.tree.bare keep false).toSourceFile path).decls.map (Decl.bare keep)
        hasErrors := s.hasErrors } := by
    rw [Tree.decls_bare, Tree.package?_bare]
    rfl
  rw [hbare, hbare, htree, hasErrors_noteBytes herrors hgap, herrors]

end

/-- Only comments stand between clauses in what is read from a source. -/
theorem hasPlainBody {s : Source} {path : String} {d : FuncDecl}
    (hd : d ∈ (s.toSourceFile path).functions) : d.HasPlainBody :=
  fun _ hbody => plain_body hd hbody

/-- **Comments have no say in what is extracted, type arguments apart.** Let a source have no syntax
errors, and let a space in it stand outside of literals and comments, and where no comment is open.
If a comment is put in for the space, the source still has no syntax errors. It yields the same
structs, interfaces and imports, globals of the same names, and functions of the same qualified
names, referenced globals, dependencies and fingerprints. Unless the comment stands among the
arguments of a generic type, it also yields the same globals, and functions of the same parameters,
results and callees. -/
theorem extract_noted {pre post : List UInt8}
    (herrors : (read (pre ++ 0x20 :: post)).hasErrors = false)
    (hgap : Gap pre (lex (pre ++ 0x20 :: post)).1 (lex (pre ++ 0x20 :: post)).2)
    (path reported : String) (c : TypeCache) :
    let source := read (pre ++ 0x20 :: post)
    let noted := read (pre ++ (" /* c */ ".toUTF8.toList ++ post))
    let facts := (FileFacts.extract (source.toSourceFile path) reported c).1
    let facts' := (FileFacts.extract (noted.toSourceFile path) reported c).1
    noted.hasErrors = false ∧
      (facts'.structs = facts.structs ∧ facts'.interfaces = facts.interfaces ∧
        facts'.imports = facts.imports ∧
        facts'.globals.map (·.name) = facts.globals.map (·.name) ∧
        facts'.functions.map (·.outline) = facts.functions.map (·.outline)) ∧
      (noted.tree.amongArguments (pre.length + 1) = false →
        facts'.globals = facts.globals ∧
          facts'.functions.map (·.typeTexts) = facts.functions.map (·.typeTexts)) := by
  refine ⟨hasErrors_noteBytes herrors hgap, ?_, fun hkeeps => ?_⟩
  · have hbare := toSourceFile_noteBytes herrors hgap (Tree.keeps_false _ _) path
    exact FileFacts.extract_bare (fun _ => hasPlainBody) (fun _ => hasPlainBody) reported c hbare
  · have hbare := toSourceFile_noteBytes herrors hgap hkeeps path
    exact FileFacts.extract_bare_true (fun _ => hasPlainBody) (fun _ => hasPlainBody) reported c
      hbare

/-- A comment among the arguments of a call. -/
theorem extract_noted_call :
    let pre := "package p; var v int; func f(x L[int]) \x7b os.Exit(".toUTF8.toList
    let post := "v) \x7d".toUTF8.toList
    let source := read (pre ++ 0x20 :: post)
    let noted := read (pre ++ (" /* c */ ".toUTF8.toList ++ post))
    let facts := (FileFacts.extract (source.toSourceFile "a.go") "a.go" (.empty 8)).1
    let facts' := (FileFacts.extract (noted.toSourceFile "a.go") "a.go" (.empty 8)).1
    source.hasErrors = false ∧
      Gap pre (lex (pre ++ 0x20 :: post)).1 (lex (pre ++ 0x20 :: post)).2 ∧
      noted.hasErrors = false ∧ facts'.globals = facts.globals ∧
      facts'.functions.map (·.outline) = facts.functions.map (·.outline) ∧
      facts'.functions.map (·.typeTexts) = [(["L[int]"], [], ["os.Exit"])] := by
  intro pre post source noted facts facts'
  have hinput : source.hasErrors = false ∧
      Gap pre (lex (pre ++ 0x20 :: post)).1 (lex (pre ++ 0x20 :: post)).2 ∧
      noted.tree.amongArguments (pre.length + 1) = false ∧
      facts.functions.map (·.typeTexts) = [(["L[int]"], [], ["os.Exit"])] := by
    decide +kernel
  obtain ⟨herrors, hgap, hamong, htexts⟩ := hinput
  obtain ⟨hnoted, ⟨-, -, -, -, houtline⟩, hkept⟩ :=
    extract_noted herrors hgap "a.go" "a.go" (.empty 8)
  obtain ⟨hglobals, htypes⟩ := hkept hamong
  exact ⟨herrors, hgap, hnoted, hglobals, houtline, htypes.trans htexts⟩

/-- A comment among the arguments of a generic type becomes one of them. -/
theorem extract_noted_type_argument :
    let pre := "package p; func f(x L[".toUTF8.toList
    let post := "int]) \x7b\x7d".toUTF8.toList
    let source := read (pre ++ 0x20 :: post)
    let noted := read (pre ++ (" /* c */ ".toUTF8.toList ++ post))
    let facts := (FileFacts.extract (source.toSourceFile "a.go") "a.go" (.empty 8)).1
    let facts' := (FileFacts.extract (noted.toSourceFile "a.go") "a.go" (.empty 8)).1
    source.hasErrors = false ∧
      Gap pre (lex (pre ++ 0x20 :: post)).1 (lex (pre ++ 0x20 :: post)).2 ∧
      noted.tree.amongArguments (pre.length + 1) = true ∧
      facts.functions.map (·.params) = [["L[int]"]] ∧
      facts'.functions.map (·.params) = [["L[<comment>, int]"]] := by
  decide +kernel

end Go.Source

end GoSurvey
