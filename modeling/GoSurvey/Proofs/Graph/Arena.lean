import GoSurvey.Proofs.Graph.Marking

/-!
# The arena of a call graph

A call graph keeps its nodes in arrays side by side: names, records, and two lists of targets.
`CallGraph.build` grows them in two loops. What stands in each array can be told from the records
alone: the names are the qualified names in the order they are first seen, the records of a node are
those that go by its name, and the targets are functions of the names too, entry by entry
(`layer_build`). Everything that later passes rely on when they go from one array to another by
position follows from these equations (`WellFormed`), so marking finds a flag for every node and a
function for every record (`MarkedByNode`).
-/

namespace GoSurvey.CallGraph

open GoSurvey.Graph

/-! ## Targets -/

section
variable (g : CallGraph) (bare : Bool)

/-- The nodes that callees stand for inside a package, as far as they count for a layer. -/
def calleeTargets (package : String) (callees : List String) : List Nat :=
  (callees.filter (counts bare)).filterMap fun c => g.node? (resolve package c)

/-- The nodes that the callees of all functions of a name stand for, in the order of the records. -/
def targetsOf (fs : List FunctionRecord) (q : String) : List Nat :=
  (fs.filter (·.qualifiedName == q)).flatMap fun f => calleeTargets g bare f.package f.callees

/-- Adding a target follows the order in which targets are first seen. -/
theorem addTarget_eraseDups (ts : List Nat) (t : Nat) :
    addTarget t ts.eraseDups = (ts ++ [t]).eraseDups := by
  rw [addTarget]
  split
  next h => rw [eraseDups_concat_of_mem (List.mem_eraseDups.1 h)]
  next h => rw [eraseDups_concat_of_notMem (mt List.mem_eraseDups.2 h)]

variable {g} {h : CallGraph}

/-- A callee adds its target, if it has one and counts, to the targets of the caller. -/
theorem getElem?_layer_addCallee (package : String) (caller : Nat) (callee : String) (u : Nat) :
    ((h.addCallee package caller callee).layer bare)[u]? =
      if caller = u then
        (h.layer bare)[u]?.map fun ts =>
          (calleeTargets h bare package [callee]).foldl (fun ts t => addTarget t ts) ts
      else (h.layer bare)[u]? := by
  rw [addCallee]
  cases hn : h.node? (resolve package callee) with
  | none => cases hc : counts bare callee <;> simp [calleeTargets, hn, hc]
  | some target =>
    cases bare with
    | false => simp [calleeTargets, hn, counts, layer, Array.getElem?_modify]
    | true =>
      cases hb : isBare callee with
      | true => simp [calleeTargets, hn, counts, layer, hb, Array.getElem?_modify]
      | false => simp [calleeTargets, counts, layer, hb]

/-- The callees of a function add their targets one after the other. -/
theorem getElem?_layer_foldl_addCallee (hs : SameNodes g h) (package : String) (caller : Nat)
    (callees : List String) (u : Nat) :
    ((callees.foldl (addCallee package caller) h).layer bare)[u]? =
      if caller = u then
        (h.layer bare)[u]?.map fun ts =>
          (calleeTargets g bare package callees).foldl (fun ts t => addTarget t ts) ts
      else (h.layer bare)[u]? := by
  induction callees generalizing h with
  | nil => simp [calleeTargets]
  | cons c cs ih =>
    have hone : calleeTargets h bare package [c] = calleeTargets g bare package [c] := by
      simp only [calleeTargets, hs.node?]
    have happend : calleeTargets g bare package (c :: cs) =
        calleeTargets g bare package [c] ++ calleeTargets g bare package cs := by
      rw [calleeTargets, ← List.singleton_append, List.filter_append, List.filterMap_append]
      rfl
    rw [List.foldl_cons, ih (hs.addCallee package caller c), getElem?_layer_addCallee, hone,
      happend]
    split
    next => rw [Option.map_map]; simp only [Function.comp_def, List.foldl_append]
    next => rfl

/-- The callees of a function add no node. -/
theorem SameNodes.foldl_addCallees (hg : g.Numbered) (hs : SameNodes g h)
    (fs : List FunctionRecord) : SameNodes g (fs.foldl addCallees h) := by
  induction fs generalizing h with
  | nil => exact hs
  | cons f fs ih => exact ih (@addCallees_edge g h false hg hs f 0 0).1

/-- One more function adds its targets to those of its name. -/
theorem targetsOf_concat (fs : List FunctionRecord) (f : FunctionRecord) (q : String) :
    targetsOf g bare (fs ++ [f]) q = targetsOf g bare fs q ++
      if f.qualifiedName = q then calleeTargets g bare f.package f.callees else [] := by
  rw [targetsOf, List.filter_append, List.flatMap_append, ← targetsOf]
  split
  next hq => simp [hq]
  next hq => simp [hq]

end

section
variable (fs : List FunctionRecord)

/-- Before any callee is looked at no node has a target. -/
theorem getElem?_layer_nodes (bare : Bool) (u : Nat) :
    ((nodes fs).layer bare)[u]? = (nodes fs).names[u]?.map fun _ => [] := by
  have hsize : ((nodes fs).layer bare).size = (nodes fs).names.size :=
    (nodes_numbered fs).layer_size bare
  cases hts : ((nodes fs).layer bare)[u]? with
  | none =>
    rw [Array.getElem?_eq_none_iff, hsize] at hts
    rw [Array.getElem?_eq_none_iff.2 hts]
    rfl
  | some ts =>
    have hnil : ts = [] := List.eq_nil_iff_forall_not_mem.2 fun w hw =>
      nodes_no_edge fs bare u w (edge_iff.2 ⟨ts, hts, hw⟩)
    obtain ⟨hlt, -⟩ := Array.getElem?_eq_some_iff.1 hts
    rw [hsize] at hlt
    rw [Array.getElem?_eq_getElem hlt, hnil]
    rfl

/-- After the callees of some functions, every node has the targets of its name among these
functions, each once and in the order they are first seen. -/
theorem getElem?_layer_foldl_addCallees (bare : Bool) (done : List FunctionRecord) (u : Nat) :
    ((done.foldl addCallees (nodes fs)).layer bare)[u]? =
      (nodes fs).names[u]?.map fun q => (targetsOf (nodes fs) bare done q).eraseDups := by
  have hnum := nodes_numbered fs
  induction done using List.reverseRecOn with
  | nil => exact getElem?_layer_nodes fs bare u
  | append_singleton done f ih =>
    have hs : SameNodes (nodes fs) (done.foldl addCallees (nodes fs)) :=
      (SameNodes.refl _).foldl_addCallees hnum done
    have hother : ∀ q, f.qualifiedName ≠ q →
        (targetsOf (nodes fs) bare (done ++ [f]) q).eraseDups =
          (targetsOf (nodes fs) bare done q).eraseDups :=
      fun q hq => by rw [targetsOf_concat, if_neg hq, List.append_nil]
    rw [List.foldl_concat, addCallees, hs.node?]
    cases hv : (nodes fs).node? f.qualifiedName with
    | none => rw [ih, hnum.map_names_congr (by simp [hv]) hother]
    | some v =>
      dsimp only
      rw [getElem?_layer_foldl_addCallee bare hs, ih]
      by_cases hvu : v = u
      · subst hvu
        rw [if_pos rfl, (hnum.node?_iff _ _).1 hv, Option.map_some, Option.map_some,
          Option.map_some, foldl_eraseDups fun ts t => addTarget_eraseDups ts t,
          targetsOf_concat, if_pos rfl]
      · rw [if_neg hvu, hnum.map_names_congr (by simpa [hv] using hvu) hother]

/-! ## The whole arena -/

/-- Every node of a call graph has the targets of its name, each once and in the order they are
first seen. -/
theorem layer_build (bare : Bool) :
    (build fs).layer bare =
      (build fs).names.map fun q => (targetsOf (build fs) bare fs q).eraseDups := by
  have htargets : targetsOf (build fs) bare fs = targetsOf (nodes fs) bare fs := by
    funext q
    simp only [targetsOf, calleeTargets, (build_sameNodes fs).node?]
  refine Array.ext_getElem? fun u => ?_
  rw [Array.getElem?_map, htargets, (build_sameNodes fs).names_eq]
  exact getElem?_layer_foldl_addCallees fs bare fs u

/-! ## Callees -/

/-- What the callees of all functions of a name stand for, in the order of the records. -/
def calleeNames (q : String) : List String :=
  (fs.filter (·.qualifiedName == q)).flatMap fun f => f.callees.map (resolve f.package)

/-- Whether a function goes by a name. -/
def isKnown (q : String) : Bool :=
  fs.any (·.qualifiedName == q)

/-- The callees of a name that stand for known functions. -/
def resolvedCallees (q : String) : List String :=
  (calleeNames fs q).filter (isKnown fs)

variable {fs} in
/-- Some function goes by a known name. -/
theorem isKnown_iff {q : String} : isKnown fs q = true ↔ ∃ f ∈ fs, f.qualifiedName = q := by
  simp [isKnown]

/-- If all callees count, the targets of a name are the nodes of what its callees stand for. -/
theorem targetsOf_false (g : CallGraph) (q : String) :
    targetsOf g false fs q = (calleeNames fs q).filterMap g.node? := by
  rw [targetsOf, calleeNames, List.filterMap_flatMap]
  congr 1
  funext f
  have hall : f.callees.filter (counts false) = f.callees :=
    List.filter_eq_self.2 fun _ _ => rfl
  rw [calleeTargets, hall, List.filterMap_map]
  rfl

/-- To look up a name and then the name of its node is to ask whether the name is known. -/
theorem bind_node?_names (q : String) :
    ((build fs).node? q).bind (fun v => (build fs).names[v]?) = Option.guard (isKnown fs) q := by
  cases hq : (build fs).node? q with
  | none =>
    rw [Option.bind_none, eq_comm, Option.guard_eq_none_iff, Bool.eq_false_iff, ne_eq,
      isKnown_iff, ← build_known, hq]
    rintro ⟨v, hv⟩
    cases hv
  | some v =>
    rw [Option.bind_some, ((build_numbered fs).node?_iff q v).1 hq, eq_comm,
      Option.guard_eq_some_iff, isKnown_iff, ← build_known]
    exact ⟨rfl, v, hq⟩

/-- The callees of a name are resolved and listed once, in the order they are first seen. -/
theorem calleesOf_build (q : String) :
    (build fs).calleesOf q = (resolvedCallees fs q).eraseDups := by
  have hnum := build_numbered fs
  have hguard : ∀ x y b, Option.guard (isKnown fs) x = some b →
      Option.guard (isKnown fs) y = some b → x = y := by
    intro x y b hx hy
    rw [(Option.guard_eq_some_iff.1 hx).1, (Option.guard_eq_some_iff.1 hy).1]
  rw [calleesOf]
  cases hq : (build fs).node? q with
  | none =>
    have hnone : fs.filter (·.qualifiedName == q) = [] := by
      rw [List.filter_eq_nil_iff]
      intro f hf hfq
      obtain ⟨v, hv⟩ := (build_known fs q).2 ⟨f, hf, beq_iff_eq.1 hfq⟩
      rw [hq] at hv
      cases hv
    simp [resolvedCallees, calleeNames, hnone]
  | some v =>
    have hedges : (build fs).edges[v]? = some (targetsOf (build fs) false fs q).eraseDups := by
      have hlayer := congrArg (·[v]?) (layer_build fs false)
      simp only [Array.getElem?_map, (hnum.node?_iff q v).1 hq, Option.map_some] at hlayer
      exact hlayer
    dsimp only
    rw [Array.getD_eq_getD_getElem?, hedges, Option.getD_some, targetsOf_false,
      ← filterMap_eraseDups (fun _ _ _ => hnum.node?_inj), List.filterMap_filterMap,
      funext (bind_node?_names fs), filterMap_eraseDups hguard, List.filterMap_eq_filter]
    rfl

/-! ## What later passes rely on -/

/-- The arrays of a call graph belong together: they describe the same nodes by position, and
between them the records of the functions and nothing else. -/
structure WellFormed (g : CallGraph) : Prop where
  names_eq : g.names.toList = (fs.map (·.qualifiedName)).eraseDups
  node?_iff : ∀ q v, g.node? q = some v ↔ g.names[v]? = some q
  records_size : g.records.size = g.size
  records_perm : g.records.toList.flatten.Perm (List.range fs.length)
  records_ascending : ∀ rs ∈ g.records, rs.Pairwise (· < ·)
  mem_records_iff : ∀ (v : Nat) (rs : List Nat), g.records[v]? = some rs →
    ∀ i, i ∈ rs ↔ ∃ f, fs[i]? = some f ∧ g.names[v]? = some f.qualifiedName
  edges_size : g.edges.size = g.size
  localEdges_size : g.localEdges.size = g.size
  edges_lt : ∀ ts ∈ g.edges, ∀ w ∈ ts, w < g.size
  localEdges_lt : ∀ ts ∈ g.localEdges, ∀ w ∈ ts, w < g.size
  edges_nodup : ∀ ts ∈ g.edges, ts.Nodup
  localEdges_nodup : ∀ ts ∈ g.localEdges, ts.Nodup
  localEdges_subset : ∀ v w, Edge g.localEdges v w → Edge g.edges v w
  calleesOf_eq : ∀ q, g.calleesOf q = (resolvedCallees fs q).eraseDups

/-- Functions were marked node by node: there is a flag for every node, a function for every record
of the node, and each of these functions was marked by the flag. -/
def MarkedByNode (g : CallGraph) (flags : List Bool)
    (mark : Bool → FunctionRecord → FunctionRecord) (listed marked : List FunctionRecord) : Prop :=
  flags.length = g.size ∧ marked.length = listed.length ∧
    ∀ (v : Nat) (rs : List Nat), g.records[v]? = some rs → ∃ b, flags[v]? = some b ∧
      ∀ i ∈ rs, ∃ f, listed[i]? = some f ∧ marked[i]? = some (mark b f)

/-- No target is listed twice for a node. -/
theorem nodup_of_mem_layer_build (bare : Bool) : ∀ ts ∈ (build fs).layer bare, ts.Nodup := by
  intro ts hts
  rw [layer_build, Array.mem_map] at hts
  obtain ⟨q, -, rfl⟩ := hts
  exact nodup_eraseDups _

/-- Every target is a node. -/
theorem lt_of_mem_layer_build (bare : Bool) :
    ∀ ts ∈ (build fs).layer bare, ∀ w ∈ ts, w < (build fs).size := by
  intro ts hts w hw
  have hlt := build_inRange fs bare ts hts w hw
  rw [(build_numbered fs).layer_size] at hlt
  exact hlt

/-- Building a call graph yields one whose arrays belong together. -/
theorem wellFormed_build : WellFormed fs (build fs) where
  names_eq := names_build fs
  node?_iff := (build_numbered fs).node?_iff
  records_size := (build_numbered fs).records_size
  records_perm := flatten_records_build_perm fs
  records_ascending rs hrs := by
    rw [records_build, Array.mem_map] at hrs
    obtain ⟨q, -, rfl⟩ := hrs
    exact List.pairwise_lt_range.filter _
  mem_records_iff _ _ h _ := mem_records_build h
  edges_size := (build_numbered fs).edges_size
  localEdges_size := (build_numbered fs).localEdges_size
  edges_lt := lt_of_mem_layer_build fs false
  localEdges_lt := lt_of_mem_layer_build fs true
  edges_nodup := nodup_of_mem_layer_build fs false
  localEdges_nodup := nodup_of_mem_layer_build fs true
  localEdges_subset v w h := by
    obtain ⟨f, hf, hv, c, hc, -, hw⟩ := (build_edge_iff fs true v w).1 h
    exact (build_edge_iff fs false v w).2 ⟨f, hf, hv, c, hc, rfl, hw⟩
  calleesOf_eq := calleesOf_build fs

variable {fs} in
/-- Marking functions by the flags of their nodes is marking them node by node. -/
theorem markedByNode_markNodes {listed : List FunctionRecord} {flags : List Bool}
    (hflags : flags.length = (build fs).size)
    (hlisted : listed.map (·.qualifiedName) = fs.map (·.qualifiedName))
    (mark : Bool → FunctionRecord → FunctionRecord) :
    MarkedByNode (build fs) flags mark listed ((build fs).markNodes flags mark listed) := by
  rw [markNodes_build hlisted hflags]
  refine ⟨hflags, List.length_map _, fun v rs hrs => ?_⟩
  obtain ⟨hv, -⟩ := Array.getElem?_eq_some_iff.1 hrs
  rw [(build_numbered fs).records_size] at hv
  have hb : flags[v]? = some (flags.getD v false) := by
    rw [List.getD_eq_getElem?_getD, List.getElem?_eq_getElem (hflags.symm ▸ hv)]
    rfl
  refine ⟨_, hb, fun i hi => ?_⟩
  have hmem : i ∈ (build fs).records.getD v [] := by
    rw [Array.getD_eq_getD_getElem?, hrs]
    exact hi
  obtain ⟨f, hf, hnode⟩ := (mem_getD_records_build hlisted).1 hmem
  refine ⟨f, hf, ?_⟩
  rw [List.getElem?_map, hf, Option.map_some, flagged_of_node? hnode]

/-- **The arena of a call graph is well formed, and no pass leaves it.** The arrays that are built
from some functions belong together. When functions of the same names are marked as recursive or
unused, the searches have a result, and going by position from nodes to flags and from records to
functions always finds one. -/
theorem build_arena (fs : List FunctionRecord) :
    WellFormed fs (build fs) ∧
      ∀ listed : List FunctionRecord,
        listed.map (·.qualifiedName) = fs.map (·.qualifiedName) →
          (∃ flags, recursiveNodes? (build fs).edges = some flags ∧
            MarkedByNode (build fs) flags (fun b f => { f with isRecursive := b })
              listed ((build fs).markRecursion listed)) ∧
          ∀ entryPoints, ∃ live,
            reachable? (build fs).localEdges ((build fs).roots listed entryPoints) = some live ∧
              MarkedByNode (build fs) live.toList
                (fun b f => { f with metrics.isUnused := !b && !isRoot entryPoints f })
                listed ((build fs).markUnused listed entryPoints) := by
  refine ⟨wellFormed_build fs, fun listed hlisted => ⟨?_, fun entryPoints => ?_⟩⟩
  · obtain ⟨flags, hflags⟩ := recursiveNodes?_total (build_inRange fs false)
    have hlength : flags.length = (build fs).size :=
      (length_recursiveNodes? hflags).trans (build_numbered fs).edges_size
    refine ⟨flags, hflags, ?_⟩
    rw [markRecursion, recursionFlags,
      show recursiveNodes? (build fs).edges = some flags from hflags]
    exact markedByNode_markNodes hlength hlisted _
  · obtain ⟨live, hlive, hlength⟩ := exists_live fs listed entryPoints
    refine ⟨live, hlive, ?_⟩
    rw [markUnused, liveFlags, hlive]
    exact markedByNode_markNodes hlength hlisted _

end

end GoSurvey.CallGraph
