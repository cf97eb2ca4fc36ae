import Mathlib.Data.List.Nodup
import GoSurvey.Proofs.Graph.Frames

/-!
# The components of a graph

In a graph whose edges stay inside, the search ends with lists that hold every node once
(`components?_layered`, `components?_total`), and two nodes stand in the same list exactly if each
of them leads to the other (`components?_same_iff`). The search visits the nodes in turn with an
empty stack (`Search.Visited`), so what it closes is all there is. The lists come in reverse
topological order, since no path leads to a later layer (`Layered.le_of_reach`).
`recursiveNodes?_iff` reads off which nodes lie on a cycle.
-/

namespace GoSurvey.Graph

open Relation

variable {adj : Array (List Nat)}

namespace Search

/-- Between two visits nothing is on the stack, and all nodes but those to come are closed. -/
structure Visited (adj : Array (List Nat)) (todo : List Nat) (s : Search) : Prop where
  valid : s.Valid adj
  stack_nil : s.stack = []
  closed : ∀ v < adj.size, v ∈ todo ∨ v ∈ s.components.flatten

/-- At the start all nodes are to come. -/
theorem visited_start (adj : Array (List Nat)) :
    Visited adj (List.range adj.size) (start adj.size) where
  valid := valid_start adj
  stack_nil := rfl
  closed _ hv := .inl (List.mem_range.2 hv)

/-- A visit closes its node. Since nothing was on the stack, nothing is left there. -/
theorem Visited.visit {root fuel : Nat} {rest : List Nat} {s t : Search}
    (h : Visited adj (root :: rest) s) (hvisit : Search.visit adj fuel s root = some t) :
    Visited adj rest t := by
  by_cases hroot : s.marks[root]? = some .unseen
  · obtain ⟨new, low, hnew⟩ := visit_explored h.valid h.stack_nil hroot hvisit
    have hstack : t.stack = [] := by
      rcases hnew.low_reach with ⟨rfl, -⟩ | ⟨v, hv, -⟩
      · rw [hnew.stack_eq, h.stack_nil]
        rfl
      · rw [h.stack_nil] at hv
        cases hv
    refine ⟨hnew.valid, hstack, fun v hv => ?_⟩
    rcases h.closed v hv with hv | hv
    · rcases List.mem_cons.1 hv with rfl | hv
      · rcases hnew.seen with hs | hs
        · rw [hstack] at hs
          cases hs
        · exact .inr hs
      · exact .inl hv
    · exact .inr (hnew.closed v hv)
  · rw [Search.visit, if_neg hroot] at hvisit
    cases hvisit
    refine ⟨h.valid, h.stack_nil, fun v hv => ?_⟩
    rcases h.closed v hv with hmem | hmem
    · rcases List.mem_cons.1 hmem with rfl | hmem
      · -- The node was met before, and no node is open any more.
        rw [h.valid.unseen_iff hv, not_not, Seen, h.stack_nil] at hroot
        exact .inr (hroot.resolve_left List.not_mem_nil)
      · exact .inl hmem
    · exact .inr hmem

end Search

/-! ## The components as a whole -/

/-- The last component closed comes first in the state and last in the result. -/
theorem components?_eq_some {comps : List (List Nat)} (h : components? adj = some comps) :
    ∃ s : Search, s.Visited adj [] ∧ comps = s.components.reverse := by
  obtain ⟨s, hs, hcomps⟩ := Option.bind_eq_some_iff.1 h
  cases hcomps
  refine ⟨s, ?_, rfl⟩
  exact foldlM_option_induct (fun todo s => s.Visited adj todo) (fun _ _ _ _ hv hf => hv.visit hf)
    _ _ _ (Search.visited_start adj) hs

/-- What the search returns are layers that hold every node once. -/
theorem components?_layered {comps : List (List Nat)} (h : components? adj = some comps) :
    Layered adj comps.reverse ∧ comps.reverse.flatten.Nodup ∧
      ∀ v, v ∈ comps.reverse.flatten ↔ v < adj.size := by
  obtain ⟨s, hs, rfl⟩ := components?_eq_some h
  rw [List.reverse_reverse]
  refine ⟨hs.valid.layered, hs.valid.closed_nodup, fun v => ⟨fun hv => ?_, fun hv => ?_⟩⟩
  · exact hs.valid.lt_of_seen (.inr hv)
  · exact (hs.closed v hv).resolve_left nofun

/-- The search has a result if no edge leads outside. -/
theorem components?_total (hadj : InRange adj) : ∃ comps, components? adj = some comps := by
  obtain ⟨s, hs, -⟩ := foldlM_option_total (fun todo s => s.Visited adj todo)
    (f := Search.visit adj (extent adj))
    (fun root rest s h => by
      obtain ⟨t, ht⟩ := Search.visit_total hadj h.valid h.stack_nil root
      exact ⟨t, ht, h.visit ht⟩)
    (List.range adj.size) (Search.start adj.size) (Search.visited_start adj)
  exact ⟨s.components.reverse, Option.bind_eq_some_iff.2 ⟨s, hs, rfl⟩⟩

/-- The components hold every node once. -/
theorem components?_perm {comps : List (List Nat)} (h : components? adj = some comps) :
    comps.flatten.Perm (List.range adj.size) := by
  obtain ⟨-, hnd, hmem⟩ := components?_layered h
  have hperm : comps.flatten.Perm comps.reverse.flatten := (List.reverse_perm comps).flatten.symm
  refine hperm.trans ((List.perm_ext_iff_of_nodup hnd List.nodup_range).2 fun v => ?_)
  rw [hmem, List.mem_range]

/-- No component is empty. -/
theorem components?_ne_nil {comps : List (List Nat)} (h : components? adj = some comps) :
    ∀ c ∈ comps, c ≠ [] := by
  obtain ⟨hlay, -, -⟩ := components?_layered h
  exact fun c hc => hlay.ne_nil c (List.mem_reverse.2 hc)

/-- Two nodes stand in the same component exactly if each leads to the other. -/
theorem components?_same_iff {comps : List (List Nat)} (h : components? adj = some comps)
    {v w : Nat} (hv : v < adj.size) :
    (∃ c ∈ comps, v ∈ c ∧ w ∈ c) ↔ Reach adj v w ∧ Reach adj w v := by
  obtain ⟨hlay, hnd, hmem⟩ := components?_layered h
  constructor
  · rintro ⟨c, hc, hvc, hwc⟩
    exact (hlay.mem_iff hnd c (List.mem_reverse.2 hc) v hvc w).1 hwc
  · intro hvw
    obtain ⟨c, hc, hvc⟩ := List.mem_flatten.1 ((hmem v).2 hv)
    exact ⟨c, List.mem_reverse.1 hc, hvc, (hlay.mem_iff hnd c hc v hvc w).2 hvw⟩

/-- **The components are a partition into strongly connected parts.** In a graph whose edges stay
inside, the search has a result; its components hold every node exactly once, none is empty, and two
nodes are in the same one exactly if each can be reached from the other. -/
theorem components?_partition (adj : Array (List Nat)) (hadj : InRange adj) :
    ∃ comps, components? adj = some comps ∧
      comps.flatten.Perm (List.range adj.size) ∧ (∀ c ∈ comps, c ≠ []) ∧
      ∀ v w, v < adj.size → w < adj.size →
        ((∃ c ∈ comps, v ∈ c ∧ w ∈ c) ↔ Reach adj v w ∧ Reach adj w v) := by
  obtain ⟨comps, h⟩ := components?_total hadj
  exact ⟨comps, h, components?_perm h, components?_ne_nil h,
    fun v w hv _ => components?_same_iff h hv⟩

/-- A cycle of three, a node that leads into it twice, and one that leads to itself. -/
theorem components?_partition_cycle :
    InRange #[[1], [2], [0], [0, 0], [4, 3]] ∧
      ∃ comps, components? #[[1], [2], [0], [0, 0], [4, 3]] = some comps ∧
        comps.flatten.Perm (List.range 5) ∧ (∀ c ∈ comps, c ≠ []) ∧
        ∀ v w, v < 5 → w < 5 → ((∃ c ∈ comps, v ∈ c ∧ w ∈ c) ↔
          Reach #[[1], [2], [0], [0, 0], [4, 3]] v w ∧
          Reach #[[1], [2], [0], [0, 0], [4, 3]] w v) :=
  ⟨by decide, components?_partition #[[1], [2], [0], [0, 0], [4, 3]] (by decide)⟩

example : components? #[[1], [2], [0], [0, 0], [4, 3]] = some [[2, 1, 0], [3], [4]] := by decide

/-- An edge leads from a component to itself or to one that was closed before. -/
theorem components?_le_of_edge {comps : List (List Nat)} (h : components? adj = some comps)
    {i j : Nat} {c d : List Nat} (hc : comps[i]? = some c) (hd : comps[j]? = some d)
    {v w : Nat} (hv : v ∈ c) (hw : w ∈ d) (hvw : Edge adj v w) : j ≤ i := by
  obtain ⟨hlay, hnd, -⟩ := components?_layered h
  -- The layers hold the component closed last first, so positions count from the other end.
  obtain ⟨hi, -⟩ := List.getElem?_eq_some_iff.1 hc
  obtain ⟨hj, -⟩ := List.getElem?_eq_some_iff.1 hd
  have hback : ∀ k < comps.length, comps.reverse[comps.length - 1 - k]? = comps[k]? := by
    intro k hk
    rw [List.getElem?_reverse (by omega)]
    congr 1
    omega
  have hle := hlay.le_of_reach hnd ((hback i hi).trans hc) ((hback j hj).trans hd) v hv w hw
    (.single hvw)
  omega

/-- **The components come in reverse topological order.** In a graph whose edges stay inside, the
search has a result. Its lists are the strongly connected components: they hold every node exactly
once, none is empty, and two nodes are in the same one exactly if each can be reached from the
other. An edge leads from a component to itself or to one that was closed before. -/
theorem components?_reverse_topological (adj : Array (List Nat)) (hadj : InRange adj) :
    ∃ comps : List (List Nat), components? adj = some comps ∧
      comps.flatten.Perm (List.range adj.size) ∧ (∀ c ∈ comps, c ≠ []) ∧
      (∀ v w, v < adj.size → w < adj.size →
        ((∃ c ∈ comps, v ∈ c ∧ w ∈ c) ↔ Reach adj v w ∧ Reach adj w v)) ∧
      ∀ (i j : Nat) (c d : List Nat), comps[i]? = some c → comps[j]? = some d →
        ∀ v ∈ c, ∀ w ∈ d, Edge adj v w → j ≤ i := by
  obtain ⟨comps, h⟩ := components?_total hadj
  refine ⟨comps, h, components?_perm h, components?_ne_nil h,
    fun v w hv _ => components?_same_iff h hv, ?_⟩
  intro i j c d hc hd v hv w hw hvw
  exact components?_le_of_edge h hc hd hv hw hvw

/-- Two cycles, of which the one met first leads into the other, and a node that leads to both. -/
theorem components?_reverse_topological_cycles :
    InRange #[[1], [0, 2], [3], [2], [3, 0]] ∧
      ∃ comps : List (List Nat), components? #[[1], [0, 2], [3], [2], [3, 0]] = some comps ∧
        comps.flatten.Perm (List.range 5) ∧ (∀ c ∈ comps, c ≠ []) ∧
        (∀ v w, v < 5 → w < 5 → ((∃ c ∈ comps, v ∈ c ∧ w ∈ c) ↔
          Reach #[[1], [0, 2], [3], [2], [3, 0]] v w ∧
          Reach #[[1], [0, 2], [3], [2], [3, 0]] w v)) ∧
        ∀ (i j : Nat) (c d : List Nat), comps[i]? = some c → comps[j]? = some d →
          ∀ v ∈ c, ∀ w ∈ d, Edge #[[1], [0, 2], [3], [2], [3, 0]] v w → j ≤ i :=
  ⟨by decide, components?_reverse_topological #[[1], [0, 2], [3], [2], [3, 0]] (by decide)⟩

example : components? #[[1], [0, 2], [3], [2], [3, 0]] = some [[3, 2], [1, 0], [4]] := by decide

/-! ## Nodes on a cycle -/

/-- A node lies on a cycle exactly if it has an edge to itself or its component has another node. -/
theorem cycle_iff {comps : List (List Nat)} (h : components? adj = some comps) {v : Nat} :
    TransGen (Edge adj) v v ↔ Edge adj v v ∨ ∃ c ∈ comps, 1 < c.length ∧ v ∈ c := by
  obtain ⟨hlay, hnd, hmem⟩ := components?_layered h
  constructor
  · intro hcycle
    obtain ⟨u, hvu, huv⟩ := TransGen.head'_iff.1 hcycle
    by_cases hne : u = v
    · exact .inl (hne ▸ hvu)
    · obtain ⟨c, hc, hvc, huc⟩ :=
        (components?_same_iff h hvu.source_lt).2 ⟨.single hvu, huv⟩
      refine .inr ⟨c, hc, ?_, hvc⟩
      have hsub : [v, u] ⊆ c := by simp [hvc, huc]
      have hpair : [v, u].Nodup := by simpa using Ne.symm hne
      exact List.Nodup.length_le_of_subset hpair hsub
  · rintro (hvv | ⟨c, hc, hlen, hvc⟩)
    · exact .single hvv
    · have hcnd : c.Nodup := (List.nodup_flatten.1 hnd).1 c (List.mem_reverse.2 hc)
      -- Without a second node the component would have no room for its length.
      have hother : ∃ w ∈ c, w ≠ v := by
        by_contra hall
        have hsub : c ⊆ [v] := fun w hw => by
          rw [List.mem_singleton]
          by_contra hne
          exact hall ⟨w, hw, hne⟩
        have hle := List.Nodup.length_le_of_subset hcnd hsub
        rw [List.length_singleton] at hle
        omega
      obtain ⟨w, hwc, hne⟩ := hother
      obtain ⟨hvw, hwv⟩ := (hlay.mem_iff hnd c (List.mem_reverse.2 hc) v hvc w).1 hwc
      obtain heq | hplus := reflTransGen_iff_eq_or_transGen.1 hvw
      · exact absurd heq hne
      · exact hplus.trans_left hwv

/-- The flags tell exactly the nodes on a cycle. -/
theorem recursiveNodes?_iff {flags : List Bool} (h : recursiveNodes? adj = some flags) (v : Nat) :
    flags.getD v false = true ↔ TransGen (Edge adj) v v := by
  obtain ⟨comps, hcomps, hflags⟩ := Option.bind_eq_some_iff.1 h
  cases hflags
  rw [List.getD_eq_getElem?_getD, Array.getElem?_toList, getElem?_foldl_setIfInBounds,
    Array.size_mapIdx, Array.getElem?_mapIdx]
  by_cases hv : v < adj.size
  · have hmembers : v ∈ (comps.filter (1 < ·.length)).flatten ↔
        ∃ c ∈ comps, 1 < c.length ∧ v ∈ c := by
      simp [and_assoc]
    rw [cycle_iff hcomps, ← hmembers]
    split
    next hmem => exact iff_of_true rfl (.inr hmem.1)
    next hmem =>
      rw [or_iff_left fun h => hmem ⟨h, hv⟩]
      simp [Edge, hv]
  · rw [if_neg fun hmem => hv hmem.2, Array.getElem?_eq_none (Nat.not_lt.1 hv)]
    refine iff_of_false (by simp) fun hcycle => ?_
    obtain ⟨u, hvu, -⟩ := TransGen.head'_iff.1 hcycle
    exact hv hvu.source_lt

/-- The flags can be told if no edge leads outside. -/
theorem recursiveNodes?_total (hadj : InRange adj) : ∃ flags, recursiveNodes? adj = some flags := by
  obtain ⟨comps, h⟩ := components?_total hadj
  rw [recursiveNodes?, h]
  exact ⟨_, rfl⟩

/-- There are as many flags as nodes. -/
theorem length_recursiveNodes? {flags : List Bool} (h : recursiveNodes? adj = some flags) :
    flags.length = adj.size := by
  obtain ⟨comps, -, hflags⟩ := Option.bind_eq_some_iff.1 h
  cases hflags
  rw [Array.length_toList, size_foldl_setIfInBounds, Array.size_mapIdx]

end GoSurvey.Graph
