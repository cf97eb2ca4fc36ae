import GoSurvey.Go.Source
import GoSurvey.Proofs.Facts.References

/-!
# Imports and dependencies

A function depends on an import if its body selects from the name of the import. Of all imports of
a path a file keeps the first one that is written with double quotes (`Go.Tree.mem_imports_iff`), so
a path is a dependency exactly if the body selects from the name that this import gives to it
(`Go.Source.mem_dependencies_extract`).

Other names of the same path are lost, and so are paths in back quotes. An alias is sure to lead to
its path if no earlier specification gives another name to the path
(`Go.Source.extract_dependency_alias`), and need not do so otherwise
(`Go.Source.extract_dependency_lost`).
-/

namespace GoSurvey

/-! ## Names that are selected from -/

namespace Node

theorem base?_eq_some_iff {n : Node} {base : String} :
    n.base? = some base ↔ ∃ field, n = .selector (.ident base) field := by
  constructor
  · intro h
    unfold base? at h
    split at h
    · cases h
      exact ⟨_, rfl⟩
    · cases h
  · rintro ⟨field, rfl⟩
    rfl

theorem mem_filterMap_base? {nodes : List Node} {base : String} :
    base ∈ nodes.filterMap base? ↔ ∃ field, .selector (.ident base) field ∈ nodes := by
  simp only [List.mem_filterMap, base?_eq_some_iff]
  constructor
  · rintro ⟨n, hn, field, rfl⟩
    exact ⟨field, hn⟩
  · rintro ⟨field, hn⟩
    exact ⟨_, hn, field, rfl⟩

end Node

/-- The dependencies of nodes are the imports whose names they select from. -/
theorem References.mem_dependencies_ofNodes {scope : Scope} {nodes : List Node} {path : String} :
    path ∈ (ofNodes scope nodes).dependencies ↔
      ∃ i ∈ scope.imports, i.path = path ∧
        ∃ field, .selector (.ident i.localName) field ∈ nodes := by
  simp only [ofNodes, List.mem_eraseDups, List.mem_flatMap, Scope.pathsOf, List.mem_map,
    List.mem_filter, beq_iff_eq]
  constructor
  · rintro ⟨base, hbase, i, ⟨hi, rfl⟩, rfl⟩
    exact ⟨i, hi, rfl, Node.mem_filterMap_base?.1 hbase⟩
  · rintro ⟨i, hi, rfl, hselects⟩
    exact ⟨i.localName, Node.mem_filterMap_base?.2 hselects, i, ⟨hi, rfl⟩, rfl⟩

/-! ## The imports of a file -/

theorem SourceFile.mem_imports {f : SourceFile} {i : ImportSpec} :
    i ∈ f.imports ↔ .imported i ∈ f.decls := by
  rw [imports, List.mem_filterMap]
  constructor
  · rintro ⟨d, hd, heq⟩
    split at heq
    · cases heq
      exact hd
    · cases heq
  · intro hd
    exact ⟨_, hd, rfl⟩

namespace Go.Tree

/-- The import specifications of a file, in source order. -/
def allImportSpecs (root : Tree) : List Tree :=
  (root.children.filter fun c => c.kind? == some .importDeclaration).flatMap importSpecs

/-- The first import of a path. -/
def firstImport? (root : Tree) (path : String) : Option ImportSpec :=
  (root.allImportSpecs.filterMap toImport?).find? (·.path == path)

/-- The first imports of all paths. -/
theorem mem_firstOfPath {is : List ImportSpec} {i : ImportSpec} :
    i ∈ firstOfPath is ↔ is.find? (·.path == i.path) = some i := by
  induction is with
  | nil => simp [firstOfPath]
  | cons j is ih =>
    rw [firstOfPath, List.mem_cons, List.mem_filter, ih, bne_iff_ne]
    by_cases hpath : j.path = i.path
    · rw [List.find?_cons_of_pos (by simpa using hpath), Option.some_inj]
      constructor
      · rintro (rfl | ⟨-, hne⟩)
        · rfl
        · exact absurd hpath.symm hne
      · rintro rfl
        exact .inl rfl
    · rw [List.find?_cons_of_neg (by simpa using hpath)]
      constructor
      · rintro (rfl | ⟨hfind, -⟩)
        · exact absurd rfl hpath
        · exact hfind
      · intro hfind
        exact .inr ⟨hfind, Ne.symm hpath⟩

/-- A file keeps the first import of every path. -/
theorem mem_imports_iff {root : Tree} {i : ImportSpec} :
    i ∈ root.imports ↔ root.firstImport? i.path = some i := by
  rw [imports, List.mem_mergeSort, mem_firstOfPath]
  rfl

/-- Items of a file that are no imports declare none. -/
theorem imported_notMem_toDecls (i : ImportSpec) (t : Tree) : .imported i ∉ t.toDecls := by
  unfold toDecls
  split <;> simp

/-- The imports of a file are those of its code. -/
theorem mem_imports_toSourceFile {path : String} {root : Tree} {i : ImportSpec} :
    i ∈ (root.toSourceFile path).imports ↔ root.firstImport? i.path = some i := by
  rw [SourceFile.mem_imports, ← mem_imports_iff, toSourceFile, List.mem_append, List.mem_map]
  constructor
  · rintro (⟨j, hj, heq⟩ | hitem)
    · exact Decl.imported.inj heq ▸ hj
    · obtain ⟨t, -, ht⟩ := List.mem_flatMap.1 hitem
      exact absurd ht (imported_notMem_toDecls i t)
  · intro hi
    exact .inl ⟨i, hi, rfl⟩

/-! ## Aliases -/

/-- A specification that gives a name of its own to a path, which is written as a literal of a
certain kind. -/
structure Binds (given : String) (kind : Kind) (literal : String) (spec : Tree) : Prop where
  name : ∃ name ∈ childAt? .name spec.children,
    name.kind? = some .packageIdentifier ∧ name.text = given
  path : ∃ path ∈ childAt? .path spec.children, path.kind? = some kind ∧ path.text = literal

instance (given : String) (kind : Kind) (literal : String) (spec : Tree) :
    Decidable (spec.Binds given kind literal) :=
  decidable_of_iff (_ ∧ _) ⟨fun h => ⟨h.1, h.2⟩, fun h => ⟨h.name, h.path⟩⟩

/-- A path without a quote at its ends is what remains if it is put in quotes and they are taken
off. -/
theorem unquote_quoted {path : String} (hne : path ≠ "") (hhead : path.toList.head? ≠ some '"')
    (hlast : path.toList.getLast? ≠ some '"') : unquote ("\"" ++ path ++ "\"") = path := by
  have hdrop : ∀ cs : List Char, cs.head? ≠ some '"' → cs.dropWhile (· == '"') = cs := by
    intro cs hcs
    cases cs with
    | nil => rfl
    | cons c cs => exact List.dropWhile_cons_of_neg (by simpa using hcs)
  have hfront : (path.toList ++ ['"']).head? ≠ some '"' := by
    rwa [List.head?_append_of_ne_nil _ (by simpa using hne)]
  have hback : path.toList.reverse.head? ≠ some '"' := by rwa [List.head?_reverse]
  have htext : ("\"" ++ path ++ "\"").toList = '"' :: (path.toList ++ ['"']) := by simp
  rw [unquote, htext, List.dropWhile_cons_of_pos (by rfl), hdrop _ hfront, List.reverse_append,
    List.reverse_singleton, List.singleton_append, List.dropWhile_cons_of_pos (by rfl),
    hdrop _ hback, List.reverse_reverse, String.ofList_toList]

/-- What is kept of a specification with a path in double quotes. -/
theorem Binds.toImport? {spec : Tree} {given path : String}
    (h : spec.Binds given .interpretedStringLiteral ("\"" ++ path ++ "\"")) (hne : path ≠ "")
    (hhead : path.toList.head? ≠ some '"') (hlast : path.toList.getLast? ≠ some '"') :
    ∃ span, spec.toImport? = some ⟨path, some given, span⟩ := by
  obtain ⟨⟨name, hname, hnameKind, rfl⟩, literal, hliteral, hkind, htext⟩ := h
  have hfind : spec.children.find? (fun c =>
      c.label == some .name && c.kind? == some .packageIdentifier) = some name := by
    obtain ⟨hlabel, before, after, heq, hbefore⟩ := List.find?_eq_some_iff_append.1 hname
    refine List.find?_eq_some_iff_append.2 ⟨?_, before, after, heq, fun c hc => ?_⟩
    · rw [hlabel, hnameKind]
      rfl
    · have hother := hbefore c hc
      rw [Bool.not_eq_true'] at hother
      rw [hother]
      rfl
  have hunquote := unquote_quoted hne hhead hlast
  rw [← htext] at hunquote
  refine ⟨literal.span, ?_⟩
  simp [Tree.toImport?, Option.mem_def.1 hliteral, hkind, hunquote, hne, hfind]

/-- If no earlier specification gives another name to a path, the first import of the path goes by
the name that is given to it. -/
theorem Binds.firstImport? {root spec : Tree} {k : Nat} (hspec : spec ∈ root.allImportSpecs[k]?)
    {given path : String}
    (h : spec.Binds given .interpretedStringLiteral ("\"" ++ path ++ "\"")) (hne : path ≠ "")
    (hhead : path.toList.head? ≠ some '"') (hlast : path.toList.getLast? ≠ some '"')
    (hearlier : ∀ other ∈ root.allImportSpecs.take k, ∀ i ∈ other.toImport?,
      i.path = path → i.localName = given) :
    ∃ i, root.firstImport? path = some i ∧ i.localName = given := by
  obtain ⟨span, himport⟩ := h.toImport? hne hhead hlast
  obtain ⟨hk, rfl⟩ := List.getElem?_eq_some_iff.1 hspec
  have hsplit : root.allImportSpecs.filterMap Tree.toImport? =
      (root.allImportSpecs.take k).filterMap Tree.toImport? ++ ⟨path, some given, span⟩ ::
        (root.allImportSpecs.drop (k + 1)).filterMap Tree.toImport? := by
    conv_lhs => rw [← List.take_append_drop k root.allImportSpecs, List.drop_eq_getElem_cons hk,
      List.filterMap_append, List.filterMap_cons_some himport]
  rw [Tree.firstImport?, hsplit, List.find?_append]
  cases hfind : ((root.allImportSpecs.take k).filterMap Tree.toImport?).find? (·.path == path) with
  | none => exact ⟨⟨path, some given, span⟩, by simp, rfl⟩
  | some i =>
    obtain ⟨other, hother, hi⟩ := List.mem_filterMap.1 (List.mem_of_find?_eq_some hfind)
    have hpath : i.path = path := by simpa using List.find?_some hfind
    exact ⟨i, rfl, hearlier other hother i hi hpath⟩

end Go.Tree

/-! ## Dependencies of the functions of a source -/

namespace Go.Source

/-- A function of a source depends on a path exactly if its body selects from the name that the
first of the imports of the path goes by. -/
theorem mem_dependencies_extract (source : Source) (path reported : String) {c : TypeCache}
    (hc : c.Faithful) :
    List.Forall₂ (fun decl f => ∀ body ∈ decl.body, ∀ imported,
        imported ∈ f.dependencies ↔ ∃ i, source.tree.firstImport? imported = some i ∧
          ∃ field, .selector (.ident i.localName) field ∈ body.stmts.flatMap Node.preorder)
      (source.toSourceFile path).functions
      (FileFacts.extract (source.toSourceFile path) reported c).1.functions := by
  refine (FileFacts.references_extract (source.toSourceFile path) reported hc).imp
    fun decl f hrefs => ?_
  intro body hbody imported
  have hdependencies : f.dependencies = (References.ofNodes _ _).dependencies :=
    congrArg References.dependencies (hrefs body hbody)
  have himports : ∀ i, i ∈ (source.toSourceFile path).imports ↔
      source.tree.firstImport? i.path = some i :=
    fun i => @Tree.mem_imports_toSourceFile path source.tree i
  rw [hdependencies, References.mem_dependencies_ofNodes]
  constructor
  · rintro ⟨i, hi, rfl, hselects⟩
    exact ⟨i, (himports i).1 hi, hselects⟩
  · rintro ⟨i, hfirst, hselects⟩
    have hpath : i.path = imported := by simpa using List.find?_some hfirst
    subst hpath
    exact ⟨i, (himports i).2 hfirst, rfl, hselects⟩

/-- **An alias leads to its path if the path has no other name before.** Let an import
specification of a source bind an alias to a path in double quotes, which is not empty and has no
quote at its ends, and let no earlier specification give another name to the path. Then every
function whose body selects from the alias depends on the path, whatever else the source imports
and whatever was rendered before. -/
theorem extract_dependency_alias (bytes : List UInt8) (path reported : String) (capacity : Nat)
    (earlier : List TypeExpr) {k : Nat} {spec : Tree}
    (hspec : spec ∈ (read bytes).tree.allImportSpecs[k]?) {given imported : String}
    (hbinds : spec.Binds given .interpretedStringLiteral ("\"" ++ imported ++ "\""))
    (hne : imported ≠ "") (hhead : imported.toList.head? ≠ some '"')
    (hlast : imported.toList.getLast? ≠ some '"')
    (hearlier : ∀ other ∈ (read bytes).tree.allImportSpecs.take k, ∀ i ∈ other.toImport?,
      i.path = imported → i.localName = given) :
    let file := (read bytes).toSourceFile path
    let facts := (FileFacts.extract file reported ((TypeCache.empty capacity).renderAll earlier)).1
    List.Forall₂ (fun decl f => ∀ body ∈ decl.body,
        (∃ field, .selector (.ident given) field ∈ body.stmts.flatMap Node.preorder) →
          imported ∈ f.dependencies)
      file.functions facts.functions := by
  intro file facts
  have hc := (TypeCache.faithful_empty capacity).renderAll earlier
  obtain ⟨i, hfirst, rfl⟩ := hbinds.firstImport? hspec hne hhead hlast hearlier
  refine (mem_dependencies_extract (read bytes) path reported hc).imp fun decl f hiff => ?_
  intro body hbody hselects
  exact (hiff body hbody imported).2 ⟨i, hfirst, hselects⟩

/-- If it is known which names the only function of a source selects from, by its items other than
imports, then so it is of the code in the source. -/
theorem functions_toSourceFile {source : Source} {path : String} {bases : List String}
    (h : ({ source.toSourceFile path with decls := source.tree.children.flatMap Tree.toDecls } :
      SourceFile).functions.map (fun decl => decl.body.map fun body =>
        (body.stmts.flatMap Node.preorder).filterMap Node.base?) = [some bases]) :
    ∃ decl body, (source.toSourceFile path).functions = [decl] ∧ body ∈ decl.body ∧
      ∀ base, base ∈ bases ↔
        ∃ field, .selector (.ident base) field ∈ body.stmts.flatMap Node.preorder := by
  have hfunctions : (source.toSourceFile path).functions =
      ({ source.toSourceFile path with decls := source.tree.children.flatMap Tree.toDecls } :
        SourceFile).functions := by
    simp [SourceFile.functions, toSourceFile, Tree.toSourceFile, List.filterMap_append]
  obtain ⟨decl, hdecl, hmap⟩ := List.map_eq_singleton_iff.1 h
  obtain ⟨body, hbody, rfl⟩ := Option.map_eq_some_iff.1 hmap
  exact ⟨decl, body, hfunctions.trans hdecl, hbody, fun _ => Node.mem_filterMap_base?⟩

/-- An alias that is given twice, and another name for the same path after it. -/
theorem extract_dependency_alias_repeated :
    let bytes := ("package p; import (a \"x/y\"; a \"x/y\"; b \"x/y\"); " ++
      "func f() \x7b a.G() \x7d").toUTF8.toList
    let specs := (read bytes).tree.allImportSpecs
    let file := (read bytes).toSourceFile "a.go"
    let facts := (FileFacts.extract file "a.go" ((TypeCache.empty 8).renderAll [])).1
    (read bytes).hasErrors = false ∧
      (∃ spec ∈ specs[1]?, spec.Binds "a" .interpretedStringLiteral ("\"" ++ "x/y" ++ "\"")) ∧
      (∀ other ∈ specs.take 1, ∀ i ∈ other.toImport?, i.path = "x/y" → i.localName = "a") ∧
      ∃ decl f, file.functions = [decl] ∧ facts.functions = [f] ∧ (∃ body ∈ decl.body,
        ∃ field, .selector (.ident "a") field ∈ body.stmts.flatMap Node.preorder) ∧
          "x/y" ∈ f.dependencies := by
  intro bytes specs file facts
  have hinput : (read bytes).hasErrors = false ∧
      (∃ spec ∈ specs[1]?, spec.Binds "a" .interpretedStringLiteral ("\"" ++ "x/y" ++ "\"")) ∧
      (∀ other ∈ specs.take 1, ∀ i ∈ other.toImport?, i.path = "x/y" → i.localName = "a") ∧
      ({ file with decls := (read bytes).tree.children.flatMap Tree.toDecls } :
        SourceFile).functions.map (fun decl => decl.body.map fun body =>
          (body.stmts.flatMap Node.preorder).filterMap Node.base?) = [some ["a"]] := by
    decide +kernel
  clear_value bytes
  obtain ⟨herrors, ⟨spec, hspec, hbinds⟩, hearlier, hbases⟩ := hinput
  obtain ⟨decl, body, hfunctions, hbody, hbases⟩ := functions_toSourceFile hbases
  have hselects := (hbases "a").1 (by decide)
  have hfacts := extract_dependency_alias bytes "a.go" "a.go" 8 [] hspec hbinds (by decide)
    (by decide) (by decide) hearlier
  change List.Forall₂ _ ((read bytes).toSourceFile "a.go").functions _ at hfacts
  rw [hfunctions] at hfacts
  obtain ⟨f, rest, hf, hnil, heq⟩ := List.forall₂_cons_left_iff.1 hfacts
  cases hnil
  exact ⟨herrors, ⟨spec, hspec, hbinds⟩, hearlier, decl, f, hfunctions, heq,
    ⟨body, hbody, hselects⟩, hf body hbody hselects⟩

/-- A second alias of a path and an alias of a path in back quotes are lost: a function that selects
from both depends on neither path. -/
theorem extract_dependency_lost :
    let bytes := ("package p; import (a \"x\"; b \"x\"; c `y`); " ++
      "func f() \x7b b.G(); c.H() \x7d").toUTF8.toList
    let specs := (read bytes).tree.allImportSpecs
    let file := (read bytes).toSourceFile "a.go"
    let facts := (FileFacts.extract file "a.go" ((TypeCache.empty 8).renderAll [])).1
    (read bytes).hasErrors = false ∧
      (∃ spec ∈ specs, spec.Binds "b" .interpretedStringLiteral "\"x\"") ∧
      (∃ spec ∈ specs, spec.Binds "c" .rawStringLiteral "`y`") ∧
      ∃ decl f, file.functions = [decl] ∧ facts.functions = [f] ∧ (∃ body ∈ decl.body,
        (∃ field, .selector (.ident "b") field ∈ body.stmts.flatMap Node.preorder) ∧
        ∃ field, .selector (.ident "c") field ∈ body.stmts.flatMap Node.preorder) ∧
          f.dependencies = [] := by
  intro bytes specs file facts
  have hinput : ((read bytes).hasErrors = false ∧
      (∃ spec ∈ specs, spec.Binds "b" .interpretedStringLiteral "\"x\"") ∧
      ∃ spec ∈ specs, spec.Binds "c" .rawStringLiteral "`y`") ∧
      ((∀ i ∈ specs.filterMap Tree.toImport?, i.path = "x") ∧
        ∀ i ∈ (read bytes).tree.firstImport? "x", i.localName = "a") ∧
      ({ file with decls := (read bytes).tree.children.flatMap Tree.toDecls } :
        SourceFile).functions.map (fun decl => decl.body.map fun body =>
          (body.stmts.flatMap Node.preorder).filterMap Node.base?) = [some ["b", "c"]] := by
    decide +kernel
  clear_value bytes
  obtain ⟨⟨herrors, hb, hc⟩, ⟨hpaths, hfirst⟩, hbases⟩ := hinput
  obtain ⟨decl, body, hfunctions, hbody, hbases⟩ := functions_toSourceFile hbases
  have hfacts := mem_dependencies_extract (read bytes) "a.go" "a.go"
    ((TypeCache.faithful_empty 8).renderAll [])
  rw [hfunctions] at hfacts
  obtain ⟨f, rest, hf, hnil, heq⟩ := List.forall₂_cons_left_iff.1 hfacts
  cases hnil
  refine ⟨herrors, hb, hc, decl, f, hfunctions, heq, ⟨body, hbody, (hbases "b").1 (by decide),
    (hbases "c").1 (by decide)⟩, List.eq_nil_iff_forall_not_mem.2 fun imported himported => ?_⟩
  -- The only import that is kept is that of `x`, and it goes by the name `a`.
  obtain ⟨i, hi, hselects⟩ := (hf body hbody imported).1 himported
  have hx : imported = "x" := by
    have hpath : i.path = imported := by simpa using List.find?_some hi
    rw [← hpath]
    exact hpaths i (List.mem_of_find?_eq_some hi)
  rw [hfirst i (hx ▸ hi)] at hselects
  exact absurd ((hbases "a").2 hselects) (by decide)

end Go.Source

end GoSurvey
