import Mathlib.Data.List.Forall2
import GoSurvey.Proofs.Graph.OutOfRange
import GoSurvey.Proofs.Graph.Records

/-!
# Which functions are recursive and which are unused

The flags of a function are stated here without any graph, by relations on qualified names: `Calls`
and `CallsLocally`. A function is marked as recursive exactly if calls lead from its name back to it
(`recursive_flag_iff`), and as used exactly if local calls lead to its name from the name of a root
(`unused_flag_iff`). A path of the graph is a path of names because the numbering is one to one
(`Renaming`). Both marks together depend only on which names, packages and callees there are among
the functions (`mark_eq_map_marked`, `marked_congr`).
-/

namespace GoSurvey

open Relation GoSurvey.Graph

/-- A function named `q` has a callee that stands for the known function named `r`. A callee without
a dot stands for a function of the caller's package. -/
def Calls (functions : List FunctionRecord) (q r : String) : Prop :=
  ∃ f ∈ functions, f.qualifiedName = q ∧ (∃ c ∈ f.callees,
    ('.' ∉ c.toList ∧ r = f.package ++ "." ++ c) ∨ ('.' ∈ c.toList ∧ r = c)) ∧
      ∃ h ∈ functions, h.qualifiedName = r

/-- A function named `q` has a callee without a dot that stands for the known function named `r`. -/
def CallsLocally (functions : List FunctionRecord) (q r : String) : Prop :=
  ∃ f ∈ functions, f.qualifiedName = q ∧ (∃ c ∈ f.callees,
    '.' ∉ c.toList ∧ r = f.package ++ "." ++ c) ∧ ∃ h ∈ functions, h.qualifiedName = r

/-- A function that is in use whoever calls it: it is exported, or an entry point gives its name or
its qualified name. -/
def IsRoot (entryPoints : List String) (f : FunctionRecord) : Prop :=
  isExportedName f.name = true ∨ f.name ∈ entryPoints ∨ f.qualifiedName ∈ entryPoints

/-! ## Paths under other names -/

/-- A relation on numbers is a relation on names, seen through a numbering of the names. -/
structure Renaming (number? : String → Option Nat) (C : String → String → Prop)
    (E : Nat → Nat → Prop) : Prop where
  inj : ∀ q r v, number? q = some v → number? r = some v → q = r
  known : ∀ q r, C q r → (∃ v, number? q = some v) ∧ ∃ w, number? r = some w
  edge_iff : ∀ v w, E v w ↔ ∃ q r, number? q = some v ∧ number? r = some w ∧ C q r

section
variable {number? : String → Option Nat} {C : String → String → Prop} {E : Nat → Nat → Prop}
  {q r : String} {v w : Nat}

/-- Paths of numbers are paths of names. -/
theorem Renaming.reach_iff (h : Renaming number? C E) (hq : number? q = some v)
    (hr : number? r = some w) : ReflTransGen E v w ↔ ReflTransGen C q r := by
  constructor
  · intro hpath
    induction hpath generalizing r with
    | refl => rw [h.inj q r v hq hr]
    | tail _ hedge ih =>
      obtain ⟨p, r', hp, hr', hpr⟩ := (h.edge_iff _ _).1 hedge
      rw [h.inj r r' _ hr hr']
      exact (ih hp).tail hpr
  · intro hpath
    induction hpath generalizing w with
    | refl =>
      rw [hq] at hr
      cases hr
      exact .refl
    | tail _ hpr ih =>
      obtain ⟨⟨u, hu⟩, -⟩ := h.known _ _ hpr
      exact (ih hu).tail ((h.edge_iff _ _).2 ⟨_, _, hu, hr, hpr⟩)

/-- Cycles of numbers are cycles of names. -/
theorem Renaming.cycle_iff (h : Renaming number? C E) (hq : number? q = some v) :
    TransGen E v v ↔ TransGen C q q := by
  rw [TransGen.tail'_iff, TransGen.tail'_iff]
  constructor
  · rintro ⟨u, hvu, huv⟩
    obtain ⟨p, q', hp, hq', hpq⟩ := (h.edge_iff _ _).1 huv
    rw [h.inj q' q v hq' hq] at hpq
    exact ⟨p, (h.reach_iff hq hp).1 hvu, hpq⟩
  · rintro ⟨p, hqp, hpq⟩
    obtain ⟨⟨u, hu⟩, -⟩ := h.known _ _ hpq
    exact ⟨u, (h.reach_iff hq hu).2 hqp, (h.edge_iff _ _).2 ⟨p, q, hu, hq, hpq⟩⟩

end

namespace CallGraph

variable (functions : List FunctionRecord)

/-- A callee is bare if it holds no dot. -/
theorem isBare_iff (c : String) : isBare c = true ↔ '.' ∉ c.toList := by
  simp [isBare, String.contains_char_eq]

/-- What a callee stands for. -/
theorem resolve_eq_iff (package c r : String) :
    resolve package c = r ↔
      ('.' ∉ c.toList ∧ r = package ++ "." ++ c) ∨ ('.' ∈ c.toList ∧ r = c) := by
  unfold resolve
  split
  next h => simp [(isBare_iff c).1 h, eq_comm]
  next h =>
    rw [isBare_iff, not_not] at h
    simp [h, eq_comm]

/-- A function named `q` has a callee that counts for a layer and is resolved to the known function
named `r`. -/
def Resolves (bare : Bool) (q r : String) : Prop :=
  ∃ f ∈ functions, f.qualifiedName = q ∧
    (∃ c ∈ f.callees, counts bare c = true ∧ resolve f.package c = r) ∧
      ∃ h ∈ functions, h.qualifiedName = r

/-- If all callees count, resolving them gives the calls. -/
theorem resolves_false : Resolves functions false = Calls functions := by
  funext q r
  simp only [Resolves, Calls, counts, resolve_eq_iff, Bool.not_false, Bool.true_or, true_and]

/-- If callees without a dot count, resolving them gives the local calls. -/
theorem resolves_true : Resolves functions true = CallsLocally functions := by
  have hlocal : ∀ package c r : String, counts true c = true ∧ resolve package c = r ↔
      '.' ∉ c.toList ∧ r = package ++ "." ++ c := by
    intro package c r
    rw [resolve_eq_iff, counts, Bool.not_true, Bool.false_or, isBare_iff]
    tauto
  funext q r
  simp only [Resolves, CallsLocally, hlocal]

/-- The edges of a layer are the callees that count, resolved. -/
theorem build_resolves (bare : Bool) :
    Renaming (build functions).node? (Resolves functions bare)
      (Edge ((build functions).layer bare)) where
  inj _ _ _ := (build_numbered functions).node?_inj
  known q r h := by
    obtain ⟨f, hf, hq, -, hr⟩ := h
    exact ⟨(build_known functions q).2 ⟨f, hf, hq⟩, (build_known functions r).2 hr⟩
  edge_iff v w := by
    refine (build_edge_iff functions bare v w).trans ⟨?_, ?_⟩
    · rintro ⟨f, hf, hv, c, hc, hcounts, hw⟩
      exact ⟨f.qualifiedName, _, hv, hw, f, hf, rfl, ⟨c, hc, hcounts, rfl⟩,
        (build_known functions _).1 ⟨w, hw⟩⟩
    · rintro ⟨q, r, hv, hw, f, hf, rfl, ⟨c, hc, hcounts, rfl⟩, -⟩
      exact ⟨f, hf, hv, c, hc, hcounts, hw⟩

/-- The edges of a call graph are the calls. -/
theorem build_calls :
    Renaming (build functions).node? (Calls functions) (Edge (build functions).edges) := by
  rw [← resolves_false]
  exact build_resolves functions false

/-- The local edges of a call graph are the local calls. -/
theorem build_callsLocally :
    Renaming (build functions).node? (CallsLocally functions)
      (Edge (build functions).localEdges) := by
  rw [← resolves_true]
  exact build_resolves functions true

/-! ## Recursion -/

/-- The flags by which functions are marked as recursive tell whether calls lead from a name back to
itself. -/
theorem recursive_flag_iff {f : FunctionRecord}
    (hf : ∃ f' ∈ functions, f'.qualifiedName = f.qualifiedName) :
    (build functions).flagged (build functions).recursionFlags f = true ↔
      TransGen (Calls functions) f.qualifiedName f.qualifiedName := by
  obtain ⟨v, hv⟩ := (build_known functions _).2 hf
  obtain ⟨flags, hflags⟩ := recursiveNodes?_total (build_inRange functions false)
  rw [flagged_of_node? hv, recursionFlags,
    show (recursiveNodes? (build functions).edges) = some flags from hflags]
  exact (recursiveNodes?_iff hflags v).trans ((build_calls functions).cycle_iff hv)

/-- Every function is marked by the flag of its node. -/
theorem markRecursion_build {listed : List FunctionRecord}
    (hlisted : listed.map (·.qualifiedName) = functions.map (·.qualifiedName)) :
    (build functions).markRecursion listed = listed.map fun f =>
      { f with isRecursive := (build functions).flagged (build functions).recursionFlags f } := by
  obtain ⟨flags, hflags⟩ := recursiveNodes?_total (build_inRange functions false)
  have hlength : flags.length = (build functions).size :=
    (length_recursiveNodes? hflags).trans (build_numbered functions).edges_size
  rw [markRecursion, recursionFlags,
    show recursiveNodes? (build functions).edges = some flags from hflags]
  exact markNodes_build hlisted hlength _

/-- **A function is marked as recursive exactly if it calls itself, directly or not.** Whatever the
flags were before, marking sets the flag of every function to whether one or more calls lead from
its qualified name back to it, and changes nothing else. -/
theorem markRecursion_iff (functions : List FunctionRecord) :
    List.Forall₂
      (fun f f' => f' = { f with isRecursive := f'.isRecursive } ∧
        (f'.isRecursive = true ↔
          TransGen (Calls functions) f.qualifiedName f.qualifiedName))
      functions ((build functions).markRecursion functions) := by
  rw [markRecursion_build functions rfl, List.forall₂_map_right_iff, List.forall₂_same]
  intro f hf
  exact ⟨rfl, recursive_flag_iff functions ⟨f, hf, rfl⟩⟩

/-! ## Use -/

/-- The test for roots says whether a function is one. -/
theorem isRoot_iff (entryPoints : List String) (f : FunctionRecord) :
    isRoot entryPoints f = true ↔ IsRoot entryPoints f := by
  simp only [isRoot, isEntry, FunctionRecord.isExported, IsRoot, Bool.or_eq_true, List.any_eq_true,
    beq_iff_eq]
  constructor
  · rintro (h | ⟨e, he, rfl | rfl⟩)
    · exact .inl h
    · exact .inr (.inr he)
    · exact .inr (.inl he)
  · rintro (h | h | h)
    · exact .inl h
    · exact .inr ⟨_, h, .inr rfl⟩
    · exact .inr ⟨_, h, .inl rfl⟩

section
variable {functions} {listed : List FunctionRecord} (entryPoints : List String)

/-- A root is a node of the graph. -/
theorem lt_of_mem_roots {v : Nat} (h : v ∈ (build functions).roots listed entryPoints) :
    v < (build functions).size :=
  List.mem_range.1 (List.mem_of_mem_filter h)

/-- The roots, and everything that local edges lead to from them, are nodes of the graph. -/
theorem lt_of_reach_roots (v : Nat)
    (h : ∃ seed ∈ (build functions).roots listed entryPoints,
      Reach (build functions).localEdges seed v) : v < (build functions).localEdges.size := by
  obtain ⟨seed, hseed, hpath⟩ := h
  refine hpath.keeps (fun _ _ _ h => (build_inRange functions true).edge_lt h) ?_
  rw [(build_numbered functions).layer_size]
  exact lt_of_mem_roots entryPoints hseed

/-- The sweep from the roots has a result, with a flag for every node. -/
theorem exists_live (functions listed : List FunctionRecord) (entryPoints : List String) :
    ∃ live, reachable? (build functions).localEdges
        ((build functions).roots listed entryPoints) = some live ∧
      live.toList.length = (build functions).size := by
  obtain ⟨live, hlive⟩ := reachable?_total (lt_of_reach_roots entryPoints)
  refine ⟨live, hlive, ?_⟩
  rw [Array.length_toList, (reachable?_eq_some_iff.1 hlive).2.1]
  exact (build_numbered functions).localEdges_size

/-- Every function is marked by the flag of its node, unless it is a root itself. -/
theorem markUnused_build
    (hlisted : listed.map (·.qualifiedName) = functions.map (·.qualifiedName)) :
    (build functions).markUnused listed entryPoints = listed.map fun f =>
      { f with
        metrics.isUnused :=
          !(build functions).flagged ((build functions).liveFlags listed entryPoints) f &&
            !isRoot entryPoints f } := by
  obtain ⟨live, hlive, hlength⟩ := exists_live functions listed entryPoints
  rw [markUnused, liveFlags, hlive]
  exact markNodes_build hlisted hlength _

variable (hlisted : listed.map (·.qualifiedName) = functions.map (·.qualifiedName))
include hlisted

/-- The graph knows the names of the functions to be marked. -/
theorem known_of_mem_listed {f : FunctionRecord} (hf : f ∈ listed) :
    ∃ f' ∈ functions, f'.qualifiedName = f.qualifiedName := by
  rw [← List.mem_map, ← hlisted]
  exact List.mem_map_of_mem hf

/-- The roots of a graph are the nodes of the functions that are roots. -/
theorem mem_roots_iff (v : Nat) :
    v ∈ (build functions).roots listed entryPoints ↔
      ∃ f ∈ listed, IsRoot entryPoints f ∧
        (build functions).node? f.qualifiedName = some v := by
  simp only [roots, List.mem_filter, List.mem_range, List.any_eq_true, Option.any_eq_true,
    List.getElem?_toArray, mem_getD_records_build hlisted, isRoot_iff]
  constructor
  · rintro ⟨-, i, ⟨f, hf, hv⟩, f', hf', hroot⟩
    rw [hf] at hf'
    cases hf'
    exact ⟨f, List.mem_of_getElem? hf, hroot, hv⟩
  · rintro ⟨f, hf, hroot, hv⟩
    obtain ⟨i, hi⟩ := List.mem_iff_getElem?.1 hf
    exact ⟨(build_numbered functions).node?_lt hv, i, ⟨f, hi, hv⟩, f, hi, hroot⟩

/-- The flags by which functions are kept from being marked as unused tell whether local calls lead
to a name from the name of a root. They may be computed for functions that differ from those of the
graph, as long as their names are the same. -/
theorem live_flag_iff {f : FunctionRecord} (hf : f ∈ listed) :
    (build functions).flagged ((build functions).liveFlags listed entryPoints) f = true ↔
      ∃ r ∈ listed, IsRoot entryPoints r ∧
        ReflTransGen (CallsLocally functions) r.qualifiedName f.qualifiedName := by
  obtain ⟨v, hv⟩ := (build_known functions _).2 (known_of_mem_listed hlisted hf)
  obtain ⟨live, hlive, -⟩ := exists_live functions listed entryPoints
  rw [flagged_of_node? hv, liveFlags, hlive, Option.getD_some, List.getD_eq_getElem?_getD,
    Array.getElem?_toList, Option.getD_eq_iff]
  have hiff := reachable?_iff hlive v
  simp only [mem_roots_iff entryPoints hlisted] at hiff
  simp only [Bool.false_eq_true, and_false, or_false]
  rw [hiff]
  constructor
  · rintro ⟨seed, ⟨r, hr, hroot, hnode⟩, hpath⟩
    exact ⟨r, hr, hroot, ((build_callsLocally functions).reach_iff hnode hv).1 hpath⟩
  · rintro ⟨r, hr, hroot, hpath⟩
    obtain ⟨seed, hnode⟩ := (build_known functions _).2 (known_of_mem_listed hlisted hr)
    exact ⟨seed, ⟨r, hr, hroot, hnode⟩,
      ((build_callsLocally functions).reach_iff hnode hv).2 hpath⟩

/-- The flag of a function says that it is used exactly if local calls lead to it from a root. That
a root itself is used need not be asked for: the path from it to itself is empty. -/
theorem unused_flag_iff {f : FunctionRecord} (hf : f ∈ listed) :
    (!(build functions).flagged ((build functions).liveFlags listed entryPoints) f &&
        !isRoot entryPoints f) = false ↔
      ∃ r ∈ listed, IsRoot entryPoints r ∧
        ReflTransGen (CallsLocally functions) r.qualifiedName f.qualifiedName := by
  rw [Bool.and_eq_false_iff, Bool.not_eq_false', Bool.not_eq_false', isRoot_iff,
    live_flag_iff entryPoints hlisted hf]
  exact or_iff_left_of_imp fun hroot => ⟨f, hf, hroot, .refl⟩

end

/-- **A function is marked as used exactly if local calls lead to it from a root.** Whatever the
flags were before, marking sets the flag of every function accordingly and changes nothing else; in
particular no root is marked as unused. -/
theorem markUnused_iff (functions : List FunctionRecord) (entryPoints : List String) :
    List.Forall₂
      (fun f f' => f' = { f with metrics.isUnused := f'.metrics.isUnused } ∧
        (f'.metrics.isUnused = false ↔ ∃ r ∈ functions, IsRoot entryPoints r ∧
          ReflTransGen (CallsLocally functions) r.qualifiedName f.qualifiedName) ∧
        (IsRoot entryPoints f → f'.metrics.isUnused = false))
      functions ((build functions).markUnused functions entryPoints) := by
  rw [markUnused_build entryPoints rfl, List.forall₂_map_right_iff, List.forall₂_same]
  intro f hf
  have hflag := unused_flag_iff entryPoints rfl hf
  exact ⟨rfl, hflag, fun hroot => hflag.2 ⟨f, hf, hroot, .refl⟩⟩

end CallGraph

/-! ## Both marks -/

/-- Local calls lead to a name from the name of a root. -/
def Used (functions : List FunctionRecord) (entryPoints : List String) (q : String) : Prop :=
  ∃ r ∈ functions, IsRoot entryPoints r ∧ ReflTransGen (CallsLocally functions) r.qualifiedName q

namespace FunctionRecord

/-- What calls go by: the names of a function, its package and its callees. -/
def calling (f : FunctionRecord) : String × String × String × List String :=
  (f.qualifiedName, f.name, f.package, f.callees)

open Classical in
/-- A function with the flags for recursion and use that the calls of some functions give it. -/
noncomputable def marked (functions : List FunctionRecord) (entryPoints : List String)
    (f : FunctionRecord) : FunctionRecord :=
  { f with
    isRecursive := decide (TransGen (Calls functions) f.qualifiedName f.qualifiedName)
    metrics.isUnused := decide (¬Used functions entryPoints f.qualifiedName) }

/-- A function is marked as unused if no local calls lead to it from a root. -/
theorem marked_isUnused_iff (functions : List FunctionRecord) (entryPoints : List String)
    (f : FunctionRecord) :
    (f.marked functions entryPoints).metrics.isUnused = true ↔
      ¬Used functions entryPoints f.qualifiedName := by
  simp [marked]

end FunctionRecord

/-- Both marks together give every function the flags that the calls give it. -/
theorem mark_eq_map_marked (functions : List FunctionRecord) (entryPoints : List String) :
    let g := CallGraph.build functions
    g.markUnused (g.markRecursion functions) entryPoints =
      functions.map (FunctionRecord.marked functions entryPoints) := by
  classical
  intro g
  -- The second mark is made on the list that the first one returns, which has the same names.
  have hfirst := CallGraph.markRecursion_build functions (rfl : functions.map _ = _)
  have hlisted : (g.markRecursion functions).map (·.qualifiedName) =
      functions.map (·.qualifiedName) := by
    rw [hfirst, List.map_map]
    rfl
  have hused : ∀ q, (∃ r ∈ g.markRecursion functions, IsRoot entryPoints r ∧
      ReflTransGen (CallsLocally functions) r.qualifiedName q) ↔ Used functions entryPoints q := by
    intro q
    rw [hfirst]
    constructor
    · rintro ⟨r, hr, hroot, hpath⟩
      obtain ⟨r', hr', rfl⟩ := List.mem_map.1 hr
      exact ⟨r', hr', hroot, hpath⟩
    · rintro ⟨r, hr, hroot, hpath⟩
      exact ⟨_, List.mem_map_of_mem hr, hroot, hpath⟩
  rw [CallGraph.markUnused_build entryPoints hlisted]
  rw [hfirst] at hlisted hused ⊢
  rw [List.map_map]
  refine List.map_congr_left fun f hf => ?_
  have hrecursive := CallGraph.recursive_flag_iff functions ⟨f, hf, rfl⟩
  have hunused := not_congr ((CallGraph.unused_flag_iff entryPoints hlisted
    (List.mem_map_of_mem hf)).trans (hused _))
  rw [Bool.not_eq_false] at hunused
  rw [FunctionRecord.marked, ← Bool.eq_iff_iff.2 (hrecursive.trans decide_eq_true_iff.symm),
    ← Bool.eq_iff_iff.2 (hunused.trans decide_eq_true_iff.symm)]
  rfl

section
variable {functions functions' : List FunctionRecord} {entryPoints : List String} {q r : String}
  (h : functions.map FunctionRecord.calling ⊆ functions'.map FunctionRecord.calling)
include h

/-- A function has its like among the others. -/
theorem exists_same_calling {f : FunctionRecord} (hf : f ∈ functions) :
    ∃ f' ∈ functions', f'.qualifiedName = f.qualifiedName ∧ f'.name = f.name ∧
      f'.package = f.package ∧ f'.callees = f.callees := by
  obtain ⟨f', hf', heq⟩ := List.mem_map.1 (h (List.mem_map_of_mem hf))
  simp only [FunctionRecord.calling, Prod.mk.injEq] at heq
  exact ⟨f', hf', heq⟩

/-- What a callee is resolved to, it is resolved to among more functions too. -/
theorem CallGraph.Resolves.mono {bare : Bool} (hcall : CallGraph.Resolves functions bare q r) :
    CallGraph.Resolves functions' bare q r := by
  obtain ⟨f, hf, rfl, hcallee, g, hg, rfl⟩ := hcall
  obtain ⟨f', hf', hq, -, hpackage, hcallees⟩ := exists_same_calling h hf
  obtain ⟨g', hg', hr, -⟩ := exists_same_calling h hg
  rw [← hpackage, ← hcallees] at hcallee
  exact ⟨f', hf', hq, hcallee, g', hg', hr⟩

/-- What is used stays used among more functions. -/
theorem Used.mono (hused : Used functions entryPoints q) : Used functions' entryPoints q := by
  obtain ⟨f, hf, hroot, hpath⟩ := hused
  obtain ⟨f', hf', hq, hname, -⟩ := exists_same_calling h hf
  refine ⟨f', hf', ?_, ?_⟩
  · rwa [IsRoot, hq, hname]
  · rw [← CallGraph.resolves_true] at hpath ⊢
    rw [hq]
    exact ReflTransGen.mono (fun _ _ => CallGraph.Resolves.mono h) _ _ hpath

end

/-- The flags depend only on which names, packages and callees there are. -/
theorem marked_congr {functions functions' : List FunctionRecord} (entryPoints : List String)
    (h : (functions.map FunctionRecord.calling).Perm (functions'.map FunctionRecord.calling)) :
    FunctionRecord.marked functions entryPoints = FunctionRecord.marked functions' entryPoints := by
  have hcalls : Calls functions = Calls functions' := by
    rw [← CallGraph.resolves_false, ← CallGraph.resolves_false]
    funext q r
    exact propext ⟨.mono h.subset, .mono h.symm.subset⟩
  have hused : Used functions entryPoints = Used functions' entryPoints := by
    funext q
    exact propext ⟨Used.mono h.subset, Used.mono h.symm.subset⟩
  funext f
  rw [FunctionRecord.marked, FunctionRecord.marked, hcalls, hused]

end GoSurvey
