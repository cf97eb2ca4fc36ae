import GoSurvey.Proofs.Survey.Records

/-!
# Methods are never reached

A method goes by the name of its package, of its receiver and its own, with a dot after each but the
last. A callee without a dot stands for a name with a single dot, that of its package and its own.
So no callee without a dot ever stands for a method, as long as no part of a name holds a dot
itself, and a method is in use only if it is a root. Functions with the same qualified name have the
same bare name (`FunctionRecord.PlainlyNamed.name_eq`), so it does not matter either that they share
a node of the call graph.
-/

namespace GoSurvey

open Relation

/-! ## The shape of names -/

/-- What follows the last dot of a name. -/
theorem takeWhile_reverse_append_dot (before : List Char) {after : List Char} (h : '.' ∉ after) :
    (before ++ '.' :: after).reverse.takeWhile (· != '.') = after.reverse := by
  have hafter : ∀ c ∈ after.reverse, (c != '.') = true := by
    intro c hc
    have hne : c ≠ '.' := fun heq => h (heq ▸ List.mem_reverse.1 hc)
    simpa using hne
  rw [List.reverse_append, List.reverse_cons, List.append_assoc,
    List.takeWhile_append_of_pos hafter]
  simp

namespace FileFacts
variable {package receiver name : String}

/-- The bare name is what follows the last dot of a qualified name. -/
theorem takeWhile_reverse_qualify (package receiver : String) (hname : '.' ∉ name.toList) :
    (qualify package receiver name).toList.reverse.takeWhile (· != '.') = name.toList.reverse := by
  unfold qualify
  split
  · rw [String.toList_append, String.toList_append, List.append_assoc]
    exact takeWhile_reverse_append_dot _ hname
  · rw [String.toList_append, String.toList_append, List.append_assoc]
    exact takeWhile_reverse_append_dot _ hname

/-- A method has a name with two dots. -/
theorem count_dot_qualify (hpackage : '.' ∉ package.toList) (hreceiver : '.' ∉ receiver.toList)
    (hname : '.' ∉ name.toList) (hmethod : receiver ≠ "") :
    (qualify package receiver name).toList.count '.' = 2 := by
  rw [qualify, if_neg hmethod]
  simp [String.toList_append, List.count_append, List.count_eq_zero_of_not_mem hpackage,
    List.count_eq_zero_of_not_mem hreceiver, List.count_eq_zero_of_not_mem hname]

end FileFacts

/-- The struct that a method is declared for; there is none for a function. -/
def FuncDecl.receiverStruct (decl : FuncDecl) : String :=
  (decl.receiver.bind (·.receiverName?)).getD ""

/-- No name that the functions of a file are made of holds a dot. -/
structure SourceFile.HasPlainNames (file : SourceFile) : Prop where
  package : '.' ∉ file.package.toList
  name : ∀ decl ∈ file.functions, '.' ∉ decl.name.toList
  receiver : ∀ decl ∈ file.functions, '.' ∉ decl.receiverStruct.toList

/-- A function goes by a qualified name made of parts without a dot. -/
structure FunctionRecord.PlainlyNamed (f : FunctionRecord) : Prop where
  package : '.' ∉ f.package.toList
  name : '.' ∉ f.name.toList
  receiver : '.' ∉ f.receiverStruct.toList
  qualifiedName_eq : f.qualifiedName = FileFacts.qualify f.package f.receiverStruct f.name

/-- In a file of plain names, functions are named plainly. -/
theorem FuncDecl.ExtractedAs.plainlyNamed {path : String} {file : SourceFile}
    (hfile : file.HasPlainNames) {decl : FuncDecl} (hdecl : decl ∈ file.functions)
    {f : FunctionRecord} (h : decl.ExtractedAs path file.package f) : f.PlainlyNamed := by
  obtain ⟨refs, params, returns, rfl⟩ := h
  exact ⟨hfile.package, hfile.name decl hdecl, hfile.receiver decl hdecl, rfl⟩

namespace FunctionRecord.PlainlyNamed
variable {f g : FunctionRecord}

/-- Functions with the same qualified name have the same bare name. -/
theorem name_eq (hf : f.PlainlyNamed) (hg : g.PlainlyNamed)
    (h : f.qualifiedName = g.qualifiedName) : f.name = g.name := by
  have hlast := FileFacts.takeWhile_reverse_qualify f.package f.receiverStruct hf.name
  rw [← hf.qualifiedName_eq, h, hg.qualifiedName_eq,
    FileFacts.takeWhile_reverse_qualify _ _ hg.name] at hlast
  exact (String.toList_inj.1 (List.reverse_injective hlast)).symm

/-- The qualified name of a method has two dots. -/
theorem count_dot (hf : f.PlainlyNamed) (hmethod : f.receiverStruct ≠ "") :
    f.qualifiedName.toList.count '.' = 2 := by
  rw [hf.qualifiedName_eq]
  exact FileFacts.count_dot_qualify hf.package hf.receiver hf.name hmethod

end FunctionRecord.PlainlyNamed

/-! ## Calls without a dot -/

section
variable {functions : List FunctionRecord} {entryPoints : List String}
  (hplain : ∀ f ∈ functions, f.PlainlyNamed)
include hplain

/-- A callee without a dot stands for a name with one dot. -/
theorem CallsLocally.count_dot {q r : String} (h : CallsLocally functions q r) :
    r.toList.count '.' = 1 := by
  obtain ⟨f, hf, -, ⟨c, -, hc, rfl⟩, -⟩ := h
  simp [String.toList_append, List.count_append,
    List.count_eq_zero_of_not_mem (hplain f hf).package, List.count_eq_zero_of_not_mem hc]

/-- No callee without a dot stands for a method. -/
theorem not_callsLocally_method {f : FunctionRecord} (hf : f ∈ functions)
    (hmethod : f.receiverStruct ≠ "") (q : String) :
    ¬ CallsLocally functions q f.qualifiedName := by
  intro hcall
  have hone := hcall.count_dot hplain
  have htwo := (hplain f hf).count_dot hmethod
  omega

/-- A method that is in use is a root. -/
theorem isRoot_of_used_method {f : FunctionRecord} (hf : f ∈ functions)
    (hmethod : f.receiverStruct ≠ "") (h : Used functions entryPoints f.qualifiedName) :
    IsRoot entryPoints f := by
  obtain ⟨r, hr, hroot, hpath⟩ := h
  rcases ReflTransGen.cases_tail hpath with heq | ⟨q, -, hcall⟩
  · -- A root with the same qualified name need not be the same function, but is named like it.
    have hname := (hplain f hf).name_eq (hplain r hr) heq
    rwa [IsRoot, hname, heq]
  · exact absurd hcall (not_callsLocally_method hplain hf hmethod q)

/-- In the call graph, a method is reached from some nodes only if it is one of them. -/
theorem reachable?_method_iff {f : FunctionRecord} (hf : f ∈ functions)
    (hmethod : f.receiverStruct ≠ "") {node : Nat}
    (hnode : (CallGraph.build functions).node? f.qualifiedName = some node) {seeds : List Nat}
    {seen : Array Bool}
    (hseen : Graph.reachable? (CallGraph.build functions).localEdges seeds = some seen) :
    seen[node]? = some true ↔ node ∈ seeds := by
  have hcalls := CallGraph.build_callsLocally functions
  rw [Graph.reachable?_iff hseen]
  constructor
  · rintro ⟨seed, hseed, hpath⟩
    rcases ReflTransGen.cases_tail hpath with rfl | ⟨v, -, hedge⟩
    · exact hseed
    · obtain ⟨q, r, -, hr, hcall⟩ := (hcalls.edge_iff v node).1 hedge
      rw [hcalls.inj r f.qualifiedName node hr hnode] at hcall
      exact absurd hcall (not_callsLocally_method hplain hf hmethod q)
  · intro hseed
    exact ⟨node, hseed, .refl⟩

end

/-! ## Methods in a report -/

/-- Settling and the marks keep names. -/
theorem FunctionRecord.PlainlyNamed.settle {f : FunctionRecord} (h : f.PlainlyNamed)
    (isDuplicate : Bool) : (f.settle isDuplicate).PlainlyNamed := by
  rw [FunctionRecord.settle_eq]
  exact ⟨h.package, h.name, h.receiver, h.qualifiedName_eq⟩

section
variable {files : List Examined} (hnames : ∀ e ∈ files, ∀ file ∈ e.code, file.HasPlainNames)
include hnames

/-- In files of plain names, all extracted functions are named plainly. -/
theorem plainlyNamed_of_mem {f : FunctionRecord}
    (hf : f ∈ (files.map (·.outcome)).flatMap (·.functions)) : f.PlainlyNamed := by
  obtain ⟨e, he, file, hfile, decl, hdecl, hextracted⟩ := Examined.exists_extractedAs hf
  exact hextracted.plainlyNamed (hnames e he file hfile) hdecl

/-- Settled functions are named plainly too. -/
theorem plainlyNamed_of_mem_settleAll {d : Detector} {f : FunctionRecord}
    (hf : f ∈ settleAll d ((files.map (·.outcome)).flatMap (·.functions))) : f.PlainlyNamed := by
  rw [settleAll_eq_mapIdx] at hf
  obtain ⟨i, hi, rfl⟩ := List.mem_mapIdx.1 hf
  exact (plainlyNamed_of_mem hnames (List.getElem_mem hi)).settle _

end

/-- **No call ever makes a method count as used.** Let any files be extracted and merged in which no
name of a package, function or receiver holds a dot. Every method that is not exported, and of which
no entry point gives the bare or the qualified name, is marked as unused, whoever calls it. In the
call graph, whatever nodes a sweep starts from, it reaches a method only if it starts there. -/
theorem merge_method_isUnused (files : List Examined) (entryPoints : List String)
    (hnames : ∀ e ∈ files, ∀ file ∈ e.code, file.HasPlainNames) :
    (∀ f ∈ (merge (files.map (·.outcome)) entryPoints).functions, f.receiverStruct ≠ "" →
      isExportedName f.name = false → f.name ∉ entryPoints → f.qualifiedName ∉ entryPoints →
        f.metrics.isUnused = true) ∧
    let functions := settleAll .empty ((files.map (·.outcome)).flatMap (·.functions))
    let graph := CallGraph.build functions
    ∀ f ∈ functions, f.receiverStruct ≠ "" → ∀ node, graph.node? f.qualifiedName = some node →
      ∀ seeds seen, Graph.reachable? graph.localEdges seeds = some seen →
        (seen[node]? = some true ↔ node ∈ seeds) := by
  refine ⟨fun f hf hmethod hexported hname hqualified => ?_, ?_⟩
  · obtain ⟨g, hg, isDuplicate, hfg⟩ := exists_of_mem_merge_functions hf
    rw [FunctionRecord.settle_eq] at hfg
    subst hfg
    refine (FunctionRecord.marked_isUnused_iff _ _ _).2 fun hused => ?_
    rcases isRoot_of_used_method (fun _ => plainlyNamed_of_mem hnames) hg hmethod hused
      with hroot | hroot | hroot
    · exact Bool.eq_false_iff.1 hexported hroot
    · exact hname hroot
    · exact hqualified hroot
  · intro functions graph f hf hmethod node hnode seeds seen hseen
    exact reachable?_method_iff (fun g hg => plainlyNamed_of_mem_settleAll hnames hg) hf hmethod
      hnode hseen

/-- A method that is called by its bare name, on a variable and by its qualified name. -/
theorem merge_method_isUnused_called :
    let body : Block := .mk default [.call (.ident "m") [],
      .call (.selector (.ident "t") "m") [],
      .call (.selector (.selector (.ident "p") "T") "m") []]
    let file : SourceFile := ⟨"a.go", "p",
      [.func ⟨"main", none, [], [], some body, default⟩,
        .func ⟨"m", some (.pointer (.ident "T")), [], [], none, default⟩], false⟩
    let e : Examined := ⟨some file, "a.go", .empty 10, none⟩
    file.HasPlainNames ∧ ∃ f ∈ (merge [e.outcome] ["main"]).functions,
      f.qualifiedName = "p.T.m" ∧ f.metrics.isUnused = true := by
  intro body file e
  have hplain : file.HasPlainNames := ⟨by decide, by decide, by decide⟩
  have hnames : ∀ e' ∈ [e], ∀ file ∈ e'.code, file.HasPlainNames := by
    simpa [e] using hplain
  obtain ⟨f, hf, hview⟩ : ∃ f ∈ (merge [e.outcome] ["main"]).functions,
      (f.qualifiedName, f.name, f.receiverStruct) = ("p.T.m", "m", "T") := by
    have hperm := (map_alone_merge_functions [e] ["main"]).map fun f =>
      (f.qualifiedName, f.name, f.receiverStruct)
    rw [List.map_map] at hperm
    refine List.mem_map.1 (hperm.mem_iff.2 ?_)
    decide
  simp only [Prod.mk.injEq] at hview
  obtain ⟨hqualified, hname, hreceiver⟩ := hview
  refine ⟨hplain, f, hf, hqualified, ?_⟩
  refine (merge_method_isUnused [e] ["main"] hnames).1 f hf ?_ ?_ ?_ ?_
  · rw [hreceiver]
    decide
  · rw [hname]
    decide
  · rw [hname]
    decide
  · rw [hqualified]
    decide

end GoSurvey
