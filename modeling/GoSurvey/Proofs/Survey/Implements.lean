import GoSurvey.Proofs.Survey.Methods

/-!
# Which structs a report matches with which interfaces

Structs, interfaces and methods come from different files. A method counts for the struct that its
receiver denotes beyond pointers and type arguments (`TypeExpr.Denotes`), and for the package of its
file, whichever file of the package that is (`DeclaresMethod`). `merge_implements_iff` says which
pairs of a report are found by this alone, without the method sets in between.
-/

namespace GoSurvey

/-! ## Receivers -/

/-- Beyond pointers and type arguments, a type is a name. -/
inductive TypeExpr.Denotes (name : String) : TypeExpr → Prop
  | ident : Denotes name (.ident name)
  | pointer {t : TypeExpr} : Denotes name t → Denotes name (.pointer t)
  | generic {base : TypeExpr} {args : List TypeExpr} :
      Denotes name base → Denotes name (.generic base args)

/-- The struct behind a receiver is what it denotes. -/
theorem TypeExpr.receiverName?_eq_some_iff {name : String} {t : TypeExpr} :
    t.receiverName? = some name ↔ t.Denotes name := by
  constructor
  · intro h
    fun_induction receiverName? t with
    | case1 other =>
      cases h
      exact .ident
    | case2 t ih => exact .pointer (ih h)
    | case3 base args ih => exact .generic (ih h)
    | case4 => cases h
  · intro h
    induction h with
    | ident => rfl
    | pointer _ ih => exact ih
    | generic _ ih => exact ih

instance (name : String) (t : TypeExpr) : Decidable (t.Denotes name) :=
  decidable_of_iff _ TypeExpr.receiverName?_eq_some_iff

/-- A struct that has a name is the struct of a method if the receiver denotes it. -/
theorem FuncDecl.receiverStruct_eq_iff {decl : FuncDecl} {structName : String}
    (hname : structName ≠ "") :
    decl.receiverStruct = structName ↔ ∃ t ∈ decl.receiver, t.Denotes structName := by
  simp only [← TypeExpr.receiverName?_eq_some_iff]
  constructor
  · intro h
    rw [receiverStruct] at h
    cases hbind : decl.receiver.bind (·.receiverName?) with
    | none =>
      rw [hbind] at h
      exact absurd h.symm hname
    | some name =>
      rw [hbind] at h
      exact Option.bind_eq_some_iff.1 (h ▸ hbind)
  · rintro ⟨t, ht, hstruct⟩
    rw [receiverStruct, Option.bind_eq_some_iff.2 ⟨t, ht, hstruct⟩]
    rfl

/-! ## Methods of a file -/

namespace FileFacts

/-- Extraction keeps the names of functions and the structs they are declared for. -/
theorem map_receiverStruct_name_allFunctions (file package : String) (scope : Scope)
    (decls : List FuncDecl) (c : TypeCache) :
    (allFunctions file package scope decls c).1.map (fun f => (f.receiverStruct, f.name)) =
      decls.map fun decl => (decl.receiverStruct, decl.name) := by
  induction decls generalizing c with
  | nil => rfl
  | cons decl decls ih => exact congrArg ((decl.receiverStruct, decl.name) :: ·) (ih _)

/-- The methods that a file declares, each for its struct and the package of the file. -/
theorem mem_methodSets_extract {file : SourceFile} {path : String} {c : TypeCache}
    {set : MethodSet} :
    set ∈ (extract file path c).1.methodSets ↔
      ∃ decl ∈ file.functions, decl.receiverStruct ≠ "" ∧
        set = ⟨file.package, decl.receiverStruct, [decl.name]⟩ := by
  have hmethods : (extract file path c).1.methodsByStruct =
      (file.functions.map fun decl => (decl.receiverStruct, decl.name)).filter (·.1 != "") := by
    rw [← map_receiverStruct_name_allFunctions, List.filter_map]
    rfl
  rw [methodSets, hmethods]
  simp only [List.mem_map, List.mem_filter, bne_iff_ne]
  constructor
  · rintro ⟨_, ⟨⟨decl, hdecl, rfl⟩, hne⟩, rfl⟩
    exact ⟨decl, hdecl, hne, rfl⟩
  · rintro ⟨decl, hdecl, hne, rfl⟩
    exact ⟨_, ⟨⟨decl, hdecl, rfl⟩, hne⟩, rfl⟩

end FileFacts

/-- Some file of a package declares a method whose receiver denotes a struct. -/
def DeclaresMethod (files : List Examined) (package structName method : String) : Prop :=
  ∃ e ∈ files, ∃ file ∈ e.code, file.package = package ∧
    ∃ decl ∈ file.functions, decl.name = method ∧ ∃ t ∈ decl.receiver, t.Denotes structName

instance (files : List Examined) (package structName method : String) :
    Decidable (DeclaresMethod files package structName method) :=
  inferInstanceAs (Decidable (∃ e ∈ files, ∃ file ∈ e.code, file.package = package ∧ _))

section
variable {files : List Examined}

/-- All facts are extracted from the code of some file. -/
theorem Examined.mem_facts {facts : FileFacts} :
    facts ∈ (files.map (·.outcome)).filterMap (·.facts) ↔
      ∃ e ∈ files, ∃ file ∈ e.code, facts = (FileFacts.extract file e.path e.cache).1 := by
  simp [outcome, facts?, eq_comm]

/-- The method sets of some files tell which methods are declared for a struct that has a name. -/
theorem exists_methodSet_iff {package structName method : String} (hname : structName ≠ "") :
    (∃ set ∈ ((files.map (·.outcome)).filterMap (·.facts)).flatMap (·.methodSets),
      set.package = package ∧ set.structName = structName ∧ method ∈ set.methods) ↔
        DeclaresMethod files package structName method := by
  constructor
  · rintro ⟨set, hset, rfl, rfl, hmethod⟩
    obtain ⟨facts, hfacts, hset⟩ := List.mem_flatMap.1 hset
    obtain ⟨e, he, file, hfile, rfl⟩ := Examined.mem_facts.1 hfacts
    obtain ⟨decl, hdecl, -, rfl⟩ := FileFacts.mem_methodSets_extract.1 hset
    exact ⟨e, he, file, hfile, rfl, decl, hdecl, (List.mem_singleton.1 hmethod).symm,
      (FuncDecl.receiverStruct_eq_iff hname).1 rfl⟩
  · rintro ⟨e, he, file, hfile, rfl, decl, hdecl, rfl, hreceiver⟩
    have hstruct := (FuncDecl.receiverStruct_eq_iff hname).2 hreceiver
    refine ⟨⟨file.package, decl.receiverStruct, [decl.name]⟩, List.mem_flatMap.2 ⟨_,
      Examined.mem_facts.2 ⟨e, he, file, hfile, rfl⟩, FileFacts.mem_methodSets_extract.2
        ⟨decl, hdecl, hstruct ▸ hname, rfl⟩⟩, rfl, hstruct, List.mem_singleton.2 rfl⟩

end

/-! ## The pairs of a report -/

/-- Sorting a report keeps what is found, and so may the structs and interfaces be those of the
report. -/
theorem mem_merge_implements {outcomes : List Outcome} {entryPoints : List String}
    {r : ImplementsRecord} :
    r ∈ (merge outcomes entryPoints).implements ↔
      r ∈ inferImplements (merge outcomes entryPoints).structs
        (merge outcomes entryPoints).interfaces
        ((outcomes.filterMap (·.facts)).flatMap (·.methodSets)) := by
  refine mem_sortImplements.trans (iff_of_eq (congrArg (r ∈ ·) ?_))
  exact inferImplements_congr (fun _ => (sortByKeys_perm _).mem_iff.symm)
    (fun _ => (sortByKeys_perm _).mem_iff.symm) fun _ => Iff.rfl

/-- Structs of a report are named by type declarations. -/
theorem exists_of_mem_merge_structs {files : List Examined} {entryPoints : List String}
    {s : StructRecord} (hs : s ∈ (merge (files.map (·.outcome)) entryPoints).structs) :
    ∃ e ∈ files, ∃ file ∈ e.code, ∃ spec ∈ file.types, spec.name = s.name := by
  obtain ⟨facts, hfacts, hs⟩ := List.mem_flatMap.1 ((sortByKeys_perm _).mem_iff.1 hs)
  obtain ⟨e, he, file, hfile, rfl⟩ := Examined.mem_facts.1 hfacts
  obtain ⟨spec, hspec, heq⟩ := List.mem_filterMap.1 hs
  refine ⟨e, he, file, hfile, spec, hspec, ?_⟩
  split at heq
  · cases heq
    rfl
  · cases heq

/-- **A struct is matched with an interface exactly if its package declares all the methods.** Let
any files be extracted and merged in which no declared type has an empty name. The pairs of the
report are strictly increasing. There is a pair of a struct and an interface if, in one package,
there are a struct and an interface of these names, the interface names a method, and every method
that it names is declared in some file of the package with a receiver that denotes the struct. -/
theorem merge_implements_iff (files : List Examined) (entryPoints : List String)
    (hnames : ∀ e ∈ files, ∀ file ∈ e.code, ∀ spec ∈ file.types, spec.name ≠ "") :
    let report := merge (files.map (·.outcome)) entryPoints
    report.implements.Pairwise (fun r r' => r.order r' = .lt) ∧
      ∀ structName interface, ⟨structName, interface⟩ ∈ report.implements ↔
        ∃ package,
          (∃ s ∈ report.structs, s.package = package ∧ s.name = structName) ∧
          ∃ i ∈ report.interfaces, i.package = package ∧ i.name = interface ∧ i.methods ≠ [] ∧
            ∀ method ∈ i.methods, DeclaresMethod files package structName method := by
  intro report
  refine ⟨pairwise_sortImplements _, fun structName interface => ?_⟩
  have hname : ∀ s ∈ report.structs, s.name ≠ "" := by
    intro s hs
    obtain ⟨e, he, file, hfile, spec, hspec, heq⟩ := exists_of_mem_merge_structs hs
    exact heq ▸ hnames e he file hfile spec hspec
  rw [mem_merge_implements, mem_inferImplements]
  constructor
  · rintro ⟨s, hs, i, hi, hne, hpackage, hall, heq⟩
    obtain ⟨rfl, rfl⟩ := ImplementsRecord.mk.inj heq
    exact ⟨s.package, ⟨s, hs, rfl, rfl⟩, i, hi, hpackage.symm, rfl, hne, fun method hmethod =>
      (exists_methodSet_iff (hname s hs)).1 (hall method hmethod)⟩
  · rintro ⟨_, ⟨s, hs, rfl, rfl⟩, i, hi, hpackage, rfl, hne, hall⟩
    exact ⟨s, hs, i, hi, hne, hpackage.symm, fun method hmethod =>
      (exists_methodSet_iff (hname s hs)).2 (hall method hmethod), rfl⟩

/-- A struct with type parameters whose methods are declared in two files, one of them with a
pointer. A struct of the same name in another package has no part in them. -/
theorem merge_implements_iff_two_files :
    let method := fun (receiver : TypeExpr) (name : String) =>
      Decl.func ⟨name, some receiver, [], [], none, default⟩
    let stack := TypeExpr.generic (.ident "Stack") [.ident "T"]
    let struct := Decl.type ⟨"Stack", .struct [], default⟩
    let file := fun (path package : String) (decls : List Decl) =>
      (⟨some ⟨path, package, decls, false⟩, path, .empty 10, none⟩ : Examined)
    let files := [
      file "a.go" "p" [struct, method (.pointer stack) "Push"],
      file "b.go" "p" [method stack "Pop", .type ⟨"Store",
        .interface [⟨["Push"], .func [] []⟩, ⟨["Pop"], .func [] []⟩], default⟩],
      file "c.go" "q" [struct, method stack "Close", .type ⟨"Closer",
        .interface [⟨["Close"], .func [] []⟩, ⟨["Pop"], .func [] []⟩], default⟩]]
    (∀ e ∈ files, ∀ file ∈ e.code, ∀ spec ∈ file.types, spec.name ≠ "") ∧
      ⟨"Stack", "Store"⟩ ∈ (merge (files.map (·.outcome)) []).implements ∧
      ⟨"Stack", "Closer"⟩ ∉ (merge (files.map (·.outcome)) []).implements := by
  intro method stack struct file files
  have hnames : ∀ e ∈ files, ∀ file ∈ e.code, ∀ spec ∈ file.types, spec.name ≠ "" := by decide
  have hiff := (merge_implements_iff files [] hnames).2
  refine ⟨hnames, (hiff _ _).2 ⟨"p", ⟨⟨"Stack", "a.go", "p"⟩, ?_, rfl, rfl⟩,
    ⟨"Store", "b.go", "p", ["Push", "Pop"]⟩, ?_, rfl, rfl, by decide, by decide⟩, fun h => ?_⟩
  · exact (sortByKeys_perm _).mem_iff.2 (by decide)
  · exact (sortByKeys_perm _).mem_iff.2 (by decide)
  · obtain ⟨_, -, i, hi, rfl, hname, -, hall⟩ := (hiff _ _).1 h
    have hcloser : ∀ i ∈ ((files.map (·.outcome)).filterMap (·.facts)).flatMap (·.interfaces),
        i.name = "Closer" → i.package = "q" ∧ "Pop" ∈ i.methods := by decide
    obtain ⟨hpackage, hpop⟩ := hcloser i ((sortByKeys_perm _).mem_iff.1 hi) hname
    exact absurd (hpackage ▸ hall "Pop" hpop) (by decide)

end GoSurvey
