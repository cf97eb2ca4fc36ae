import GoSurvey.Graph.CallGraph
import GoSurvey.Proofs.Graph.Paths

/-!
# What building a call graph yields

`CallGraph.build` first numbers the qualified names, then adds the edges. The first half keeps
`CallGraph.Numbered`: the index and the list of names say the same, and each node has its targets.
The second half leaves the numbering alone (`CallGraph.SameNodes`) and adds an edge for every callee
that names a known function. Both halves are loops that add up what their rounds add (`foldl_adds`),
so that the edges of the whole graph can be told from the records (`build_edge_iff`). There are two
sets of edges, and `CallGraph.layer` picks one of them.
-/

namespace GoSurvey.CallGraph

open GoSurvey.Graph

/-- If every round of a loop keeps `K` and makes `R` true exactly if it was true or the round has
the property `P`, then the loop makes `R` true exactly if it was true or some round has the
property. -/
theorem foldl_adds {σ α : Type} {f : σ → α → σ} {K R : σ → Prop} {P : α → Prop}
    (step : ∀ g x, K g → K (f g x) ∧ (R (f g x) ↔ R g ∨ P x)) :
    ∀ (l : List α) (g : σ), K g → K (l.foldl f g) ∧ (R (l.foldl f g) ↔ R g ∨ ∃ x ∈ l, P x)
  | [], g, hg => ⟨hg, by simp⟩
  | x :: l, g, hg => by
    obtain ⟨h1, h2⟩ := step g x hg
    obtain ⟨h3, h4⟩ := foldl_adds step l (f g x) h1
    refine ⟨h3, ?_⟩
    rw [List.foldl_cons, h4, h2]
    simp [or_assoc]

/-! ## Numbering the names -/

/-- The index maps each name to its position, and every node has its records and targets. -/
structure Numbered (g : CallGraph) : Prop where
  node?_iff : ∀ q v, g.node? q = some v ↔ g.names[v]? = some q
  records_size : g.records.size = g.names.size
  edges_size : g.edges.size = g.names.size
  localEdges_size : g.localEdges.size = g.names.size

/-- A graph without nodes is numbered. -/
theorem numbered_empty : Numbered empty where
  node?_iff q v := by simp [node?, empty]
  records_size := rfl
  edges_size := rfl
  localEdges_size := rfl

/-- The edges from all callees, or those from callees without a dot. -/
def layer (bare : Bool) (g : CallGraph) : Array (List Nat) :=
  if bare then g.localEdges else g.edges

/-- Whether a callee counts for the edges of a layer. -/
def counts (bare : Bool) (callee : String) : Bool :=
  !bare || isBare callee

section
variable {g : CallGraph}

/-- Each layer has as many lists as there are nodes. -/
theorem Numbered.layer_size (hg : g.Numbered) (bare : Bool) :
    (g.layer bare).size = g.names.size := by
  cases bare
  · exact hg.edges_size
  · exact hg.localEdges_size

/-- A node has a number below the number of nodes. -/
theorem Numbered.node?_lt (hg : g.Numbered) {q : String} {v : Nat} (h : g.node? q = some v) :
    v < g.names.size :=
  (Array.getElem?_eq_some_iff.1 ((hg.node?_iff q v).1 h)).1

/-- Two names of one node are the same. -/
theorem Numbered.node?_inj (hg : g.Numbered) {q r : String} {v : Nat}
    (hq : g.node? q = some v) (hr : g.node? r = some v) : q = r := by
  have h := ((hg.node?_iff q v).1 hq).symm.trans ((hg.node?_iff r v).1 hr)
  exact Option.some.inj h

/-- A record of a known name adds no node. -/
theorem addRecord_of_some {f : FunctionRecord} {i v : Nat} (h : g.node? f.qualifiedName = some v) :
    g.addRecord f i = { g with records := g.records.modify v (· ++ [i]) } := by
  rw [addRecord, h]

/-- A record of a new name adds a node for it. -/
theorem addRecord_of_none {f : FunctionRecord} {i : Nat} (h : g.node? f.qualifiedName = none) :
    g.addRecord f i =
      { names := g.names.push f.qualifiedName
        index := g.index.insert f.qualifiedName g.size
        records := g.records.push [i]
        edges := g.edges.push []
        localEdges := g.localEdges.push [] } := by
  rw [addRecord, h]

/-- After a record was added, its name has the next number if it was new. -/
theorem addRecord_node? (f : FunctionRecord) (i : Nat) (q : String) :
    (g.addRecord f i).node? q =
      if g.node? f.qualifiedName = none ∧ f.qualifiedName = q then some g.names.size
      else g.node? q := by
  cases h : g.node? f.qualifiedName with
  | some v =>
    rw [addRecord_of_some h, if_neg (fun h => by cases h.1)]
    rfl
  | none =>
    rw [addRecord_of_none h]
    simp only [node?, size, Std.HashMap.getElem?_insert, beq_iff_eq, true_and]

/-- Adding a record keeps the numbering. -/
theorem Numbered.addRecord (hg : g.Numbered) (f : FunctionRecord) (i : Nat) :
    (g.addRecord f i).Numbered := by
  cases h : g.node? f.qualifiedName with
  | some v =>
    rw [addRecord_of_some h]
    exact ⟨hg.node?_iff, by simp [hg.records_size], hg.edges_size, hg.localEdges_size⟩
  | none =>
    refine ⟨fun q v => ?_, ?_, ?_, ?_⟩
    · rw [addRecord_node?, addRecord_of_none h]
      dsimp only
      rw [Array.getElem?_push]
      by_cases hv : v = g.names.size
      · subst hv
        by_cases hq : f.qualifiedName = q
        · subst hq
          simp [h]
        · rw [if_neg (fun hn => hq hn.2), hg.node?_iff]
          simp [hq]
      · rw [if_neg hv, ← hg.node?_iff]
        by_cases hq : f.qualifiedName = q
        · subst hq
          rw [if_pos ⟨h, rfl⟩, h]
          simpa using fun heq : g.names.size = v => hv heq.symm
        · rw [if_neg (fun hn => hq hn.2)]
    all_goals
      rw [addRecord_of_none h]
      simp [hg.records_size, hg.edges_size, hg.localEdges_size]

/-- Adding a record makes its name known and no other. -/
theorem addRecord_known (f : FunctionRecord) (i : Nat) (q : String) :
    (∃ v, (g.addRecord f i).node? q = some v) ↔
      (∃ v, g.node? q = some v) ∨ f.qualifiedName = q := by
  rw [addRecord_node?]
  by_cases hq : f.qualifiedName = q
  · subst hq
    cases h : g.node? f.qualifiedName <;> simp
  · simp [hq]

/-- Adding a record adds no edge. -/
theorem addRecord_edge (f : FunctionRecord) (i : Nat) (bare : Bool) (v w : Nat) :
    Edge ((g.addRecord f i).layer bare) v w ↔ Edge (g.layer bare) v w := by
  have hpush : ∀ es : Array (List Nat), Edge (es.push []) v w ↔ Edge es v w := by
    intro es
    rw [edge_iff, edge_iff, Array.getElem?_push]
    split
    next hv => simp [hv]
    next => rfl
  cases h : g.node? f.qualifiedName with
  | some u => rw [addRecord_of_some h]; rfl
  | none =>
    rw [addRecord_of_none h]
    cases bare
    · exact hpush g.edges
    · exact hpush g.localEdges

end

/-! ## Adding the edges -/

/-- Adding a target to the list of a node adds one edge. -/
theorem edge_modify_addTarget {es : Array (List Nat)} {caller target : Nat}
    (hc : caller < es.size) {v w : Nat} :
    Edge (es.modify caller (addTarget target)) v w ↔ Edge es v w ∨ v = caller ∧ w = target := by
  have hadd : ∀ targets : List Nat, w ∈ addTarget target targets ↔ w ∈ targets ∨ w = target := by
    intro targets
    unfold addTarget
    split
    next h => exact ⟨.inl, fun hw => hw.elim id fun heq => heq ▸ h⟩
    next => simp
  simp only [Edge, Array.getD_eq_getD_getElem?, Array.getElem?_modify]
  by_cases hv : caller = v
  · subst hv
    rw [if_pos rfl, Array.getElem?_eq_getElem hc]
    simp [hadd]
  · rw [if_neg hv]
    simp [Ne.symm hv]

/-- Two graphs have the same nodes with the same numbers. -/
structure SameNodes (g h : CallGraph) : Prop where
  names_eq : h.names = g.names
  index_eq : h.index = g.index
  records_eq : h.records = g.records
  edges_size : h.edges.size = g.edges.size
  localEdges_size : h.localEdges.size = g.localEdges.size

section
variable {g h : CallGraph}

/-- A graph has the same nodes as itself. -/
theorem SameNodes.refl (g : CallGraph) : SameNodes g g :=
  ⟨rfl, rfl, rfl, rfl, rfl⟩

/-- Names have the same numbers in graphs with the same nodes. -/
theorem SameNodes.node? (hs : SameNodes g h) (q : String) : h.node? q = g.node? q := by
  rw [CallGraph.node?, hs.index_eq]
  rfl

/-- Graphs with the same nodes are numbered alike. -/
theorem SameNodes.numbered (hs : SameNodes g h) (hg : g.Numbered) : h.Numbered where
  node?_iff q v := by rw [hs.node?, hs.names_eq, hg.node?_iff]
  records_size := by rw [hs.records_eq, hs.names_eq, hg.records_size]
  edges_size := by rw [hs.edges_size, hs.names_eq, hg.edges_size]
  localEdges_size := by rw [hs.localEdges_size, hs.names_eq, hg.localEdges_size]

/-- A callee adds no node. -/
theorem SameNodes.addCallee (hs : SameNodes g h) (package : String) (caller : Nat)
    (callee : String) : SameNodes g (h.addCallee package caller callee) := by
  unfold CallGraph.addCallee
  split
  next => exact hs
  next =>
    refine ⟨hs.names_eq, hs.index_eq, hs.records_eq, ?_, ?_⟩
    · rw [Array.size_modify, hs.edges_size]
    · dsimp only
      split
      · rw [Array.size_modify, hs.localEdges_size]
      · exact hs.localEdges_size

/-- A callee adds an edge to the node it names, if there is one and the callee counts. -/
theorem addCallee_edge {bare : Bool} {package callee : String} {caller v w : Nat}
    (hc : caller < (h.layer bare).size) :
    Edge ((h.addCallee package caller callee).layer bare) v w ↔
      Edge (h.layer bare) v w ∨
        v = caller ∧ counts bare callee = true ∧ h.node? (resolve package callee) = some w := by
  unfold CallGraph.addCallee
  split
  next hn => simp [hn]
  next target hn =>
    rw [hn, Option.some_inj, eq_comm (a := target)]
    cases bare with
    | false =>
      rw [and_iff_right (show counts false callee = true from rfl)]
      exact edge_modify_addTarget hc
    | true =>
      by_cases hb : isBare callee = true
      · rw [and_iff_right (show counts true callee = true from hb)]
        simp only [layer, hb]
        exact edge_modify_addTarget hc
      · simp [layer, counts, hb]

/-- The callees of a function add an edge to every node that one of them names. -/
theorem addCallees_edge {bare : Bool} (hg : g.Numbered) (hs : SameNodes g h) (f : FunctionRecord)
    (v w : Nat) :
    SameNodes g (h.addCallees f) ∧
      (Edge ((h.addCallees f).layer bare) v w ↔
        Edge (h.layer bare) v w ∨ g.node? f.qualifiedName = some v ∧
          ∃ c ∈ f.callees, counts bare c = true ∧ g.node? (resolve f.package c) = some w) := by
  rw [addCallees, hs.node?]
  cases hn : g.node? f.qualifiedName with
  | none => simpa using hs
  | some caller =>
    obtain ⟨h1, h2⟩ := foldl_adds (K := SameNodes g) (R := fun h => Edge (h.layer bare) v w)
      (f := addCallee f.package caller)
      (P := fun c => v = caller ∧ counts bare c = true ∧ g.node? (resolve f.package c) = some w)
      (fun k c hk => ⟨hk.addCallee _ _ _, by
        have hlt : caller < (k.layer bare).size := by
          rw [(hk.numbered hg).layer_size, hk.names_eq]
          exact hg.node?_lt hn
        rw [addCallee_edge hlt, hk.node?]⟩)
      f.callees h hs
    refine ⟨h1, h2.trans (or_congr_right ?_)⟩
    rw [Option.some_inj]
    constructor
    · rintro ⟨c, hc, rfl, hw⟩
      exact ⟨rfl, c, hc, hw⟩
    · rintro ⟨rfl, c, hc, hw⟩
      exact ⟨c, hc, rfl, hw⟩

end

/-! ## The whole graph -/

section
variable (fs : List FunctionRecord)

/-- The graph with all nodes and no edges yet. -/
def nodes : CallGraph :=
  fs.zipIdx.foldl (fun g (f, i) => g.addRecord f i) empty

/-- The nodes are numbered, and stand for the names of the functions. -/
theorem nodes_known (q : String) :
    (nodes fs).Numbered ∧
      ((∃ v, (nodes fs).node? q = some v) ↔ ∃ f ∈ fs, f.qualifiedName = q) := by
  obtain ⟨h1, h2⟩ := foldl_adds (K := Numbered) (R := fun g => ∃ v, g.node? q = some v)
    (f := fun g (p : FunctionRecord × Nat) => g.addRecord p.1 p.2)
    (P := fun p => p.1.qualifiedName = q)
    (fun g p hg => ⟨hg.addRecord p.1 p.2, addRecord_known p.1 p.2 q⟩)
    fs.zipIdx empty numbered_empty
  refine ⟨h1, h2.trans ?_⟩
  have hempty : ¬ ∃ v, empty.node? q = some v := by simp [node?, empty]
  rw [or_iff_right hempty]
  constructor
  · rintro ⟨⟨f, i⟩, hp, hq⟩
    exact ⟨f, List.fst_mem_of_mem_zipIdx hp, hq⟩
  · rintro ⟨f, hf, hq⟩
    obtain ⟨i, hi, rfl⟩ := List.mem_iff_getElem.1 hf
    exact ⟨(fs[i], i), List.mk_mem_zipIdx_iff_getElem?.2 (List.getElem?_eq_getElem hi), hq⟩

/-- Before any callee is looked at there are no edges. -/
theorem nodes_no_edge (bare : Bool) (v w : Nat) : ¬ Edge ((nodes fs).layer bare) v w := by
  obtain ⟨-, h⟩ := foldl_adds (K := fun g : CallGraph => True)
    (R := fun g => Edge (g.layer bare) v w)
    (f := fun g (p : FunctionRecord × Nat) => g.addRecord p.1 p.2) (P := fun _ => False)
    (fun g p _ => ⟨trivial, by rw [addRecord_edge]; simp⟩) fs.zipIdx empty trivial
  rw [nodes, h]
  cases bare <;> simp [Edge, layer, empty]

/-- Building adds the edges of all functions to the nodes. -/
theorem build_adds (bare : Bool) (v w : Nat) :
    SameNodes (nodes fs) (build fs) ∧
      (Edge ((build fs).layer bare) v w ↔ ∃ f ∈ fs, (nodes fs).node? f.qualifiedName = some v ∧
        ∃ c ∈ f.callees,
          counts bare c = true ∧ (nodes fs).node? (resolve f.package c) = some w) := by
  -- That the nodes are numbered is the same for every name asked for.
  have hg := (nodes_known fs "").1
  obtain ⟨h1, h2⟩ := foldl_adds (K := SameNodes (nodes fs)) (f := addCallees)
    (R := fun g => Edge (g.layer bare) v w)
    (fun k f hk => addCallees_edge hg hk f v w) fs (nodes fs) (.refl _)
  exact ⟨h1, h2.trans (or_iff_right (nodes_no_edge fs bare v w))⟩

/-- A call graph is numbered. -/
theorem build_numbered : (build fs).Numbered :=
  (build_adds fs false 0 0).1.numbered (nodes_known fs "").1

/-- The nodes of a call graph stand for the names of the functions. -/
theorem build_known (q : String) :
    (∃ v, (build fs).node? q = some v) ↔ ∃ f ∈ fs, f.qualifiedName = q := by
  simp only [(build_adds fs false 0 0).1.node?]
  exact (nodes_known fs q).2

/-- The edges of a call graph: one for every callee of a function that counts and names a node. -/
theorem build_edge_iff (bare : Bool) (v w : Nat) :
    Edge ((build fs).layer bare) v w ↔ ∃ f ∈ fs, (build fs).node? f.qualifiedName = some v ∧
      ∃ c ∈ f.callees, counts bare c = true ∧
        (build fs).node? (resolve f.package c) = some w := by
  obtain ⟨h1, h2⟩ := build_adds fs bare v w
  simp only [h2, h1.node?]

/-- The edges of a call graph stay inside. -/
theorem build_inRange (bare : Bool) : InRange ((build fs).layer bare) := by
  refine inRange_of_edge_lt fun v w hvw => ?_
  obtain ⟨f, -, -, c, -, -, hw⟩ := (build_edge_iff fs bare v w).1 hvw
  rw [(build_numbered fs).layer_size]
  exact (build_numbered fs).node?_lt hw

end

end GoSurvey.CallGraph
