import Mathlib.Data.List.Nodup
import GoSurvey.Proofs.FirstSeen
import GoSurvey.Proofs.Graph.Build

/-!
# The records of a call graph

The names of a call graph are the qualified names of its functions in the order they are first seen
(`names_build`), and each node has the records that go by its name (`records_build`). So the record
lists divide the records among the nodes (`flatten_records_build_perm`). A pass that goes through
the nodes and marks the records of each by a flag therefore marks every function once, by the flag
of the node that its name has (`markNodes_build`).
-/

namespace GoSurvey.CallGraph

open GoSurvey.Graph

/-! ## Names and records -/

section
variable (fs : List FunctionRecord)

/-- The numbers of the records that go by a name. -/
def recordsOf (q : String) : List Nat :=
  (List.range fs.length).filter fun i => fs[i]?.any (·.qualifiedName == q)

variable {fs} in
/-- A record goes by its own name only. -/
theorem mem_recordsOf {q : String} {i : Nat} :
    i ∈ recordsOf fs q ↔ ∃ f, fs[i]? = some f ∧ f.qualifiedName = q := by
  rw [recordsOf, List.mem_filter, List.mem_range, Option.any_eq_true]
  constructor
  · rintro ⟨-, f, hf, hq⟩
    exact ⟨f, hf, beq_iff_eq.1 hq⟩
  · rintro ⟨f, hf, hq⟩
    exact ⟨(List.getElem?_eq_some_iff.1 hf).1, f, hf, beq_iff_eq.2 hq⟩

/-- One more record goes by its name and leaves the other names alone. -/
theorem recordsOf_concat (f : FunctionRecord) (q : String) :
    recordsOf (fs ++ [f]) q =
      if f.qualifiedName = q then recordsOf fs q ++ [fs.length] else recordsOf fs q := by
  have hold : (List.range fs.length).filter
      (fun i => (fs ++ [f])[i]?.any (·.qualifiedName == q)) = recordsOf fs q := by
    refine List.filter_congr fun i hi => ?_
    rw [List.getElem?_append_left (List.mem_range.1 hi)]
  rw [recordsOf, List.length_append, List.length_singleton, List.range_succ, List.filter_append,
    hold]
  split
  next h => simp [h]
  next h => simp [h]

/-- The nodes of one more function are those before it with its record added. -/
theorem nodes_concat (f : FunctionRecord) :
    nodes (fs ++ [f]) = (nodes fs).addRecord f fs.length := by
  rw [nodes, List.zipIdx_append, List.foldl_append, Nat.zero_add]
  rfl

/-- The nodes are numbered. -/
theorem nodes_numbered : (nodes fs).Numbered :=
  (nodes_known fs "").1

/-- A name has no node exactly if no function goes by it. -/
theorem nodes_node?_eq_none_iff (q : String) :
    (nodes fs).node? q = none ↔ q ∉ fs.map (·.qualifiedName) := by
  rw [← not_iff_not, not_not, ← ne_eq, Option.ne_none_iff_exists', (nodes_known fs q).2,
    List.mem_map]

/-- What changes for one name only is the same for every node but that of the name. -/
theorem Numbered.map_names_congr {g : CallGraph} (hg : g.Numbered) {α : Type} {F F' : String → α}
    {r : String} {u : Nat} (hr : g.node? r ≠ some u) (h : ∀ q, r ≠ q → F' q = F q) :
    g.names[u]?.map F' = g.names[u]?.map F := by
  cases hu : g.names[u]? with
  | none => rfl
  | some q =>
    have hq : r ≠ q := by
      rintro rfl
      exact hr ((hg.node?_iff _ _).2 hu)
    rw [Option.map_some, Option.map_some, h q hq]

/-- The names of the nodes are those of the functions in the order they are first seen. -/
theorem names_nodes : (nodes fs).names.toList = (fs.map (·.qualifiedName)).eraseDups := by
  induction fs using List.reverseRecOn with
  | nil => rfl
  | append_singleton fs f ih =>
    rw [nodes_concat, List.map_append, List.map_singleton]
    cases h : (nodes fs).node? f.qualifiedName with
    | some v =>
      have hmem : f.qualifiedName ∈ fs.map (·.qualifiedName) := by
        by_contra hn
        rw [(nodes_node?_eq_none_iff fs _).2 hn] at h
        cases h
      rw [addRecord_of_some h, eraseDups_concat_of_mem hmem]
      exact ih
    | none =>
      rw [addRecord_of_none h, Array.toList_push, ih,
        eraseDups_concat_of_notMem ((nodes_node?_eq_none_iff fs _).1 h)]

/-- Every node has the records that go by its name. -/
theorem records_nodes : (nodes fs).records = (nodes fs).names.map (recordsOf fs) := by
  induction fs using List.reverseRecOn with
  | nil => simp [nodes, empty]
  | append_singleton fs f ih =>
    have hnum := nodes_numbered fs
    have hother : ∀ q, f.qualifiedName ≠ q → recordsOf (fs ++ [f]) q = recordsOf fs q :=
      fun q hq => by rw [recordsOf_concat, if_neg hq]
    rw [nodes_concat]
    refine Array.ext_getElem? fun u => ?_
    cases h : (nodes fs).node? f.qualifiedName with
    | some v =>
      have hv := (hnum.node?_iff _ _).1 h
      rw [addRecord_of_some h, Array.getElem?_modify, Array.getElem?_map, ih, Array.getElem?_map]
      by_cases hvu : v = u
      · subst hvu
        simp [hv, recordsOf_concat]
      · rw [if_neg hvu, hnum.map_names_congr (by simpa [h] using hvu) hother]
    | none =>
      rw [addRecord_of_none h, Array.getElem?_map, Array.getElem?_push, Array.getElem?_push, ih,
        Array.size_map]
      by_cases hu : u = (nodes fs).names.size
      · have hnil : recordsOf fs f.qualifiedName = [] := by
          refine List.eq_nil_iff_forall_not_mem.2 fun i hi => ?_
          obtain ⟨f', hf', hq⟩ := mem_recordsOf.1 hi
          exact (nodes_node?_eq_none_iff fs _).1 h
            (List.mem_map.2 ⟨f', List.mem_of_getElem? hf', hq⟩)
        rw [if_pos hu, if_pos hu, Option.map_some, recordsOf_concat, if_pos rfl, hnil,
          List.nil_append]
      · rw [if_neg hu, if_neg hu, Array.getElem?_map,
          hnum.map_names_congr (by simp [h]) hother]

/-! ## The records of the graph -/

/-- Adding the edges leaves the nodes as they are. -/
theorem build_sameNodes : SameNodes (nodes fs) (build fs) :=
  (build_adds fs false 0 0).1

/-- The names of a call graph are those of the functions in the order they are first seen. -/
theorem names_build : (build fs).names.toList = (fs.map (·.qualifiedName)).eraseDups := by
  rw [(build_sameNodes fs).names_eq, names_nodes]

/-- Every node of a call graph has the records that go by its name. -/
theorem records_build : (build fs).records = (build fs).names.map (recordsOf fs) := by
  rw [(build_sameNodes fs).records_eq, (build_sameNodes fs).names_eq, records_nodes]

/-- The record lists of a call graph divide the records among them. -/
theorem flatten_records_build_perm :
    (build fs).records.toList.flatten.Perm (List.range fs.length) := by
  rw [records_build, Array.toList_map, ← List.flatMap_def, names_build]
  have hnodup : ((fs.map (·.qualifiedName)).eraseDups.flatMap (recordsOf fs)).Nodup := by
    rw [List.nodup_flatMap]
    refine ⟨fun q _ => List.nodup_range.filter _, (nodup_eraseDups _).imp fun hne i hi hj => ?_⟩
    obtain ⟨f, hf, rfl⟩ := mem_recordsOf.1 hi
    obtain ⟨f', hf', rfl⟩ := mem_recordsOf.1 hj
    rw [hf] at hf'
    exact hne (congrArg _ (Option.some.inj hf'))
  refine (List.perm_ext_iff_of_nodup hnodup List.nodup_range).2 fun i => ?_
  rw [List.mem_flatMap, List.mem_range]
  constructor
  · rintro ⟨q, -, hi⟩
    obtain ⟨f, hf, -⟩ := mem_recordsOf.1 hi
    exact (List.getElem?_eq_some_iff.1 hf).1
  · intro hi
    have hf := List.getElem?_eq_getElem hi
    refine ⟨fs[i].qualifiedName, ?_, mem_recordsOf.2 ⟨_, hf, rfl⟩⟩
    rw [List.mem_eraseDups]
    exact List.mem_map_of_mem (List.getElem_mem hi)

variable {fs} in
/-- The records of a node are those that go by its name. -/
theorem mem_records_build {v i : Nat} {rs : List Nat} (h : (build fs).records[v]? = some rs) :
    i ∈ rs ↔ ∃ f, fs[i]? = some f ∧ (build fs).names[v]? = some f.qualifiedName := by
  rw [records_build, Array.getElem?_map, Option.map_eq_some_iff] at h
  obtain ⟨q, hq, rfl⟩ := h
  rw [mem_recordsOf, hq]
  simp only [Option.some_inj, eq_comm (a := q)]

variable {fs} in
/-- Among functions of the same names, a record stands for a function whose name has its node. -/
theorem mem_getD_records_build {listed : List FunctionRecord}
    (hlisted : listed.map (·.qualifiedName) = fs.map (·.qualifiedName)) {v i : Nat} :
    i ∈ (build fs).records.getD v [] ↔
      ∃ f, listed[i]? = some f ∧ (build fs).node? f.qualifiedName = some v := by
  have hnames : listed[i]?.map (·.qualifiedName) = fs[i]?.map (·.qualifiedName) := by
    rw [← List.getElem?_map, hlisted, List.getElem?_map]
  have hleft : i ∈ (build fs).records.getD v [] ↔
      ∃ q ∈ fs[i]?.map (·.qualifiedName), (build fs).node? q = some v := by
    rw [Array.getD_eq_getD_getElem?, records_build, Array.getElem?_map]
    simp only [(build_numbered fs).node?_iff]
    cases hq : (build fs).names[v]? with
    | none => simp
    | some q => simp [mem_recordsOf]
  rw [hleft, ← hnames]
  simp

/-- No record stands twice at a node. -/
theorem nodup_getD_records_build (v : Nat) : ((build fs).records.getD v []).Nodup := by
  rw [Array.getD_eq_getD_getElem?, records_build, Array.getElem?_map]
  cases (build fs).names[v]? with
  | none => exact List.nodup_nil
  | some q => exact List.nodup_range.filter _

end

/-! ## Marking by record -/

section
variable {mark : FunctionRecord → FunctionRecord} {records : List Nat}
  {functions : Array FunctionRecord} {i : Nat}

/-- Marking some records keeps the number of functions. -/
theorem size_markRecords : (markRecords mark functions records).size = functions.size := by
  induction records generalizing functions with
  | nil => rfl
  | cons j records ih =>
    rw [markRecords, List.foldl_cons, ← markRecords, ih, Array.size_modify]

/-- A record that is not among those to be marked is left alone. -/
theorem getElem?_markRecords_of_notMem (h : i ∉ records) :
    (markRecords mark functions records)[i]? = functions[i]? := by
  induction records generalizing functions with
  | nil => rfl
  | cons j records ih =>
    rw [List.mem_cons, not_or] at h
    rw [markRecords, List.foldl_cons, ← markRecords, ih h.2, Array.getElem?_modify,
      if_neg (Ne.symm h.1)]

/-- A record that stands once among those to be marked is marked. -/
theorem getElem?_markRecords_of_mem (hnd : records.Nodup) (h : i ∈ records) :
    (markRecords mark functions records)[i]? = functions[i]?.map mark := by
  induction records generalizing functions with
  | nil => cases h
  | cons j records ih =>
    obtain ⟨hj, hrest⟩ := List.nodup_cons.1 hnd
    rw [markRecords, List.foldl_cons, ← markRecords]
    rcases List.mem_cons.1 h with rfl | h
    · rw [getElem?_markRecords_of_notMem hj, Array.getElem?_modify, if_pos rfl]
    · have hne : j ≠ i := fun hji => hj (hji ▸ h)
      rw [ih hrest h, Array.getElem?_modify, if_neg hne]

end

section
variable {g : CallGraph} {mark : Bool → FunctionRecord → FunctionRecord}
  {visits : List (Bool × Nat)} {functions : Array FunctionRecord} {i : Nat}

/-- Marking some nodes keeps the number of functions. -/
theorem size_foldl_markRecords :
    (visits.foldl (fun functions node =>
      markRecords (mark node.1) functions (g.records.getD node.2 [])) functions).size =
      functions.size := by
  induction visits generalizing functions with
  | nil => rfl
  | cons node visits ih => rw [List.foldl_cons, ih, size_markRecords]

/-- A record of none of the nodes is left alone. -/
theorem getElem?_foldl_markRecords_of_notMem
    (h : ∀ node ∈ visits, i ∉ g.records.getD node.2 []) :
    (visits.foldl (fun functions node =>
      markRecords (mark node.1) functions (g.records.getD node.2 [])) functions)[i]? =
      functions[i]? := by
  induction visits generalizing functions with
  | nil => rfl
  | cons node visits ih =>
    rw [List.foldl_cons, ih fun node' hnode' => h node' (List.mem_cons_of_mem _ hnode'),
      getElem?_markRecords_of_notMem (h node List.mem_cons_self)]

/-- A record of one node only is marked by the flag of that node. -/
theorem getElem?_foldl_markRecords {flag : Bool} {v : Nat} (hnodes : (visits.map (·.2)).Nodup)
    (hv : (flag, v) ∈ visits) (hnd : (g.records.getD v []).Nodup)
    (hi : ∀ u, i ∈ g.records.getD u [] ↔ u = v) :
    (visits.foldl (fun functions node =>
      markRecords (mark node.1) functions (g.records.getD node.2 [])) functions)[i]? =
      functions[i]?.map (mark flag) := by
  obtain ⟨before, after, rfl⟩ := List.append_of_mem hv
  rw [List.map_append, List.map_cons, List.nodup_append, List.nodup_cons] at hnodes
  obtain ⟨-, ⟨hafter, -⟩, hbefore⟩ := hnodes
  rw [List.foldl_append, List.foldl_cons, getElem?_foldl_markRecords_of_notMem fun node hnode => ?_,
    getElem?_markRecords_of_mem hnd ((hi v).2 rfl),
    getElem?_foldl_markRecords_of_notMem fun node hnode => ?_]
  · intro hmem
    exact hbefore node.2 (List.mem_map_of_mem hnode) v List.mem_cons_self ((hi _).1 hmem)
  · intro hmem
    have hv' : node.2 ∈ after.map (·.2) := List.mem_map_of_mem hnode
    rw [(hi _).1 hmem] at hv'
    exact hafter hv'

end

/-- The flag of the node that the name of a function has. -/
def flagged (g : CallGraph) (flags : List Bool) (f : FunctionRecord) : Bool :=
  match g.node? f.qualifiedName with
  | none => false
  | some v => flags.getD v false

/-- A function is flagged by its node. -/
theorem flagged_of_node? {g : CallGraph} {flags : List Bool} {f : FunctionRecord} {v : Nat}
    (h : g.node? f.qualifiedName = some v) : g.flagged flags f = flags.getD v false := by
  rw [flagged, h]

/-- Functions of the names that a graph was built from are marked by the flags of their nodes, each
once. -/
theorem markNodes_build {fs listed : List FunctionRecord}
    (hlisted : listed.map (·.qualifiedName) = fs.map (·.qualifiedName)) {flags : List Bool}
    (hflags : flags.length = (build fs).size) (mark : Bool → FunctionRecord → FunctionRecord) :
    (build fs).markNodes flags mark listed =
      listed.map fun f => mark ((build fs).flagged flags f) f := by
  refine List.ext_getElem? fun i => ?_
  rw [markNodes, Array.getElem?_toList, List.getElem?_map]
  cases hf : listed[i]? with
  | none =>
    rw [Option.map_none, Array.getElem?_eq_none_iff, size_foldl_markRecords, List.size_toArray]
    exact List.getElem?_eq_none_iff.1 hf
  | some f =>
    have hknown : ∃ f' ∈ fs, f'.qualifiedName = f.qualifiedName := by
      rw [← List.mem_map, ← hlisted]
      exact List.mem_map_of_mem (List.mem_of_getElem? hf)
    obtain ⟨v, hv⟩ := (build_known fs _).2 hknown
    have hlt : v < flags.length := hflags ▸ (build_numbered fs).node?_lt hv
    have hflag : (flags.getD v false, v) ∈ flags.zipIdx := by
      rw [List.mem_zipIdx_iff_getElem?, List.getD_eq_getElem?_getD, List.getElem?_eq_getElem hlt]
      rfl
    have hi : ∀ u, i ∈ (build fs).records.getD u [] ↔ u = v := by
      intro u
      rw [mem_getD_records_build hlisted, hf]
      simp [hv, eq_comm]
    rw [getElem?_foldl_markRecords (by simp [List.nodup_range']) hflag
      (nodup_getD_records_build fs v) hi, Option.map_some, flagged_of_node? hv,
      List.getElem?_toArray, hf, Option.map_some]

end GoSurvey.CallGraph
