import GoSurvey.Proofs.Facts
import GoSurvey.Proofs.FirstSeen

/-!
# What a body refers to

The references of a body are gathered node by node. One node adds at most one callee, one global and
the imports that go by one name (`References.visit_eq`), so the references of a list of nodes are
read off the list, each once and in the order of its first occurrence (`References.visitAll_eq`).
The list holds every node of the body: a node is followed by its children and what is below them,
whatever the node is (`Node.preorder_eq`).
-/

namespace GoSurvey

/-! ## All nodes of a body -/

namespace Node

/-- The nodes right below a node, in source order. -/
def children : Node → List Node
  | .ident _ | .literal _ | .type _ | .comment _ => []
  | .unary _ e | .selector e _ => [e]
  | .binary _ l r => [l, r]
  | .call f args => f :: args
  | .cond init test body alt => init.toList ++ test :: body.stmts ++ alt.toList
  | .loop init test post body => init.toList ++ test.toList ++ post.toList ++ body.stmts
  | .range left target body => left.toList ++ target :: body.stmts
  | .switch init tag clauses comments =>
    init.toList ++ tag.toList ++ clauses.flatMap (fun c => c.exprs ++ c.body) ++ comments
  | .select clauses comments => clauses.flatMap (fun c => c.exprs ++ c.body) ++ comments
  | .block b => b.stmts
  | .ret values => values
  | .other _ children => children

theorem preorderOpt_eq_flatMap (n : Option Node) : preorderOpt n = n.toList.flatMap preorder := by
  cases n with
  | none => rfl
  | some n => exact (List.flatMap_singleton preorder n).symm

theorem preorderAll_eq_flatMap (ns : List Node) : preorderAll ns = ns.flatMap preorder := by
  induction ns with
  | nil => rfl
  | cons n ns ih => rw [preorderAll, List.flatMap_cons, ih]

theorem preorderBlock_eq_flatMap (b : Block) : preorderBlock b = b.stmts.flatMap preorder := by
  cases b
  exact preorderAll_eq_flatMap _

theorem preorderClauses_eq_flatMap (cs : List Clause) :
    preorderClauses cs = (cs.flatMap fun c => c.exprs ++ c.body).flatMap preorder := by
  induction cs with
  | nil => rfl
  | cons c cs ih =>
    cases c
    simp only [preorderClauses, preorderAll_eq_flatMap, ih, List.flatMap_cons,
      List.flatMap_append, Clause.exprs, Clause.body]

/-- A node is followed by its children, each with what is below it. -/
theorem preorder_eq (n : Node) : n.preorder = n :: n.children.flatMap preorder := by
  cases n <;> simp [preorder, children, preorderOpt_eq_flatMap, preorderAll_eq_flatMap,
    preorderBlock_eq_flatMap, preorderClauses_eq_flatMap]

/-! ## What a node refers to -/

/-- The callee of a call, if it is a name or a selector. -/
def callee? : Node → Option String
  | .call (.ident name) _ => some name
  | .call (.selector e field) _ => some (Node.selector e field).asType.render
  | _ => none

/-- The name that a node is. -/
def name? : Node → Option String
  | .ident name => some name
  | _ => none

/-- The name that a selector selects from. -/
def base? : Node → Option String
  | .selector (.ident base) _ => some base
  | _ => none

/-- A call of anything else than a name or a selector has no callee. -/
theorem callee?_call_eq_none {function : Node} {args : List Node}
    (hname : ∀ name, function ≠ .ident name) (hselector : ∀ e field, function ≠ .selector e field) :
    (Node.call function args).callee? = none := by
  cases function with
  | ident name => exact absurd rfl (hname name)
  | selector e field => exact absurd rfl (hselector e field)
  | _ => rfl

end Node

/-! ## Gathering -/

/-- A text is added to those seen so far unless it is one of them. -/
theorem pushNew_eraseDups (xs : List String) (x : String) :
    pushNew xs.eraseDups x = (xs ++ [x]).eraseDups := by
  by_cases h : x ∈ xs
  · rw [eraseDups_concat_of_mem h, pushNew, if_pos (List.mem_eraseDups.2 h)]
  · rw [eraseDups_concat_of_notMem h, pushNew, if_neg (mt List.mem_eraseDups.1 h)]

/-- Texts that are added one after the other are there once, in the order they were first seen. -/
theorem foldl_pushNew (xs : List String) : xs.foldl pushNew [] = xs.eraseDups :=
  foldl_eraseDups pushNew_eraseDups [] xs

/-- A steady computation keeps a cache faithful. -/
theorem TypeCache.Steady.faithful {α : Type} {m : TypeCache → α × TypeCache} (hm : Steady m)
    {c : TypeCache} (hc : c.Faithful) : (m c).2.Faithful := by
  obtain ⟨a, ts, hm⟩ := hm
  rw [hm c hc]
  exact hc.renderAll ts

namespace References

/-- The references of nodes, each once and in the order of its first occurrence. -/
def ofNodes (scope : Scope) (nodes : List Node) : References where
  callees := (nodes.filterMap Node.callee?).eraseDups
  globals := ((nodes.filterMap Node.name?).filter (· ∈ scope.globals)).eraseDups
  dependencies := ((nodes.filterMap Node.base?).flatMap scope.pathsOf).eraseDups

section
variable (scope : Scope) {c : TypeCache} (hc : c.Faithful)
include hc

/-- What one node adds to the references. -/
theorem visit_eq (n : Node) (r : References) :
    (visit scope n r c).1 =
      ⟨n.callee?.toList.foldl pushNew r.callees,
        (n.name?.toList.filter (· ∈ scope.globals)).foldl pushNew r.globals,
        (n.base?.toList.flatMap scope.pathsOf).foldl pushNew r.dependencies⟩ := by
  cases n with
  | ident name =>
    by_cases h : name ∈ scope.globals <;>
      simp [visit, h, Node.callee?, Node.name?, Node.base?]
  | call f args =>
    cases f with
    | selector e field =>
      have htext := (TypeCache.render_returns (Node.selector e field).asType hc).1
      simp only [visit, htext]
      rfl
    | _ => rfl
  | selector e field =>
    cases e with
    | ident base => simp [visit, Node.callee?, Node.name?, Node.base?]
    | _ => rfl
  | _ => rfl

/-- What nodes add to the references, one after the other. -/
theorem visitAll_eq (ns : List Node) (r : References) :
    (visitAll scope ns r c).1 =
      ⟨(ns.filterMap Node.callee?).foldl pushNew r.callees,
        ((ns.filterMap Node.name?).filter (· ∈ scope.globals)).foldl pushNew r.globals,
        ((ns.filterMap Node.base?).flatMap scope.pathsOf).foldl pushNew r.dependencies⟩ := by
  simp only [List.filterMap_eq_flatMap_toList]
  induction ns generalizing r c with
  | nil => rfl
  | cons n ns ih =>
    rw [visitAll, ih ((visit_steady scope n r).faithful hc), visit_eq scope hc]
    simp only [List.flatMap_cons, List.filter_append, List.flatMap_append, List.foldl_append]

/-- The references of a body are those of its nodes. -/
theorem ofBody_eq (body : Block) :
    (ofBody scope (some body) c).1 = ofNodes scope (body.stmts.flatMap Node.preorder) := by
  rw [ofBody, visitAll_eq scope hc, Node.preorderBlock_eq_flatMap]
  simp only [empty, foldl_pushNew, ofNodes]

end

end References

/-- What a function refers to. -/
def FunctionRecord.references (f : FunctionRecord) : References :=
  ⟨f.callees, f.referencedGlobals, f.dependencies⟩

namespace FileFacts

/-- One after the other, functions have the references of their bodies. -/
theorem references_allFunctions (file package : String) (scope : Scope) (decls : List FuncDecl)
    {c : TypeCache} (hc : c.Faithful) :
    List.Forall₂ (fun decl f => ∀ body ∈ decl.body,
        f.references = .ofNodes scope (body.stmts.flatMap Node.preorder))
      decls (allFunctions file package scope decls c).1 := by
  induction decls generalizing c with
  | nil => exact .nil
  | cons decl decls ih =>
    refine .cons (fun body hbody => ?_)
      (ih ((functionOf_steady file package scope decl).faithful hc))
    change (References.ofBody scope decl.body c).1 = _
    rw [Option.mem_def.1 hbody, References.ofBody_eq scope hc]

/-- The functions of a file have the references of their bodies, to the globals and the imports of
the file. -/
theorem references_extract (file : SourceFile) (path : String) {c : TypeCache} (hc : c.Faithful) :
    let facts := (extract file path c).1
    List.Forall₂ (fun decl f => ∀ body ∈ decl.body,
        f.references = .ofNodes ⟨facts.globals.map (·.name), file.imports⟩
          (body.stmts.flatMap Node.preorder))
      file.functions facts.functions :=
  references_allFunctions path file.package _ file.functions
    ((allGlobals_steady path file.package file.values).faithful hc)

/-- **The references of a function are read off the nodes of its body.** Let any expressions have
been rendered with a cache of any capacity before a file is extracted. The nodes of a body are
its statements, each followed by its children and what is below them. From left to right, and each
once, the callees of a function are the names and the texts of selectors that are called; its
globals are the names that are names of globals of the file; and its dependencies are the paths of
the imports that go by a name that is selected from. A call of anything else adds no callee, but
what is below it counts like all other nodes. -/
theorem extract_references (file : SourceFile) (path : String) (capacity : Nat)
    (earlier : List TypeExpr) :
    let facts := (extract file path ((TypeCache.empty capacity).renderAll earlier)).1
    List.Forall₂ (fun decl f => ∀ body ∈ decl.body,
        let nodes := body.stmts.flatMap Node.preorder
        f.callees = (nodes.filterMap Node.callee?).eraseDups ∧
          f.referencedGlobals =
            ((nodes.filterMap Node.name?).filter (· ∈ facts.globals.map (·.name))).eraseDups ∧
          f.dependencies = ((nodes.filterMap Node.base?).flatMap fun base =>
            (file.imports.filter (·.localName = base)).map (·.path)).eraseDups)
      file.functions facts.functions ∧
    (∀ n : Node, n.preorder = n :: n.children.flatMap Node.preorder) ∧
    ∀ function args, (∀ name, function ≠ .ident name) →
      (∀ e field, function ≠ .selector e field) → (Node.call function args).callee? = none := by
  intro facts
  have hc := (TypeCache.faithful_empty capacity).renderAll earlier
  refine ⟨?_, Node.preorder_eq, fun _ _ => Node.callee?_call_eq_none⟩
  refine (references_extract file path hc).imp fun decl f hrefs => ?_
  intro body hbody
  exact References.mk.inj (hrefs body hbody)

/-- A call of the result of a call, with a selector among its arguments. -/
theorem extract_references_nested :
    let inner : Node := .call (.selector (.ident "log") "New") [.ident "limit"]
    let body : Block := .mk default [.call inner [.call (.ident "run") [.ident "limit"], inner]]
    let decl : FuncDecl := ⟨"f", none, [], [], some body, default⟩
    let file : SourceFile := ⟨"a.go", "p", [.imported ⟨"lib/logging", some "log", default⟩,
      .value ⟨.var, ["limit"], none, [.literal "3"], default⟩, .func decl], false⟩
    let facts := (extract file "a.go" ((TypeCache.empty 1).renderAll [.ident "int"])).1
    body ∈ decl.body ∧ ∃ f, facts.functions = [f] ∧ f.callees = ["log.New", "run"] ∧
      f.referencedGlobals = ["limit"] ∧ f.dependencies = ["lib/logging"] := by
  intro inner body decl file facts
  have hrefs := (extract_references file "a.go" 1 [.ident "int"]).1
  obtain ⟨f, rest, hf, hnil, hfunctions⟩ := List.forall₂_cons_left_iff.1 hrefs
  cases hnil
  obtain ⟨hcallees, hglobals, hdependencies⟩ := hf body rfl
  exact ⟨rfl, f, hfunctions, hcallees.trans (by decide), hglobals.trans (by decide),
    hdependencies.trans (by decide)⟩

end FileFacts

end GoSurvey
