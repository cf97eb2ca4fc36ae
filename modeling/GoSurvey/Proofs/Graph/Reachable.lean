import GoSurvey.Graph.Reach
import GoSurvey.Proofs.Graph.Paths

/-!
# The nodes a sweep marks

`reachable?_iff`: a sweep that ends well has marked exactly the nodes that some seed leads to.
`reachable?_total`: it ends well if everything a seed leads to is a node of the graph. Both rest on
one invariant, `Sweeping`, which also names the nodes still to be marked: the seeds at first, then
the targets of the node that was taken off the pending ones.
-/

namespace GoSurvey.Graph

variable {adj : Array (List Nat)} {seeds : List Nat}

/-- A state of the sweep while the nodes of `todo` are still to be marked. Marked nodes can be
reached, and the targets of a marked node are marked too unless the node is pending. -/
structure Sweeping (adj : Array (List Nat)) (seeds todo : List Nat)
    (state : List Nat × Array Bool) : Prop where
  size_eq : state.2.size = adj.size
  pending : ∀ v ∈ state.1, state.2[v]? = some true
  reached : ∀ v : Nat, state.2[v]? = some true → ∃ seed ∈ seeds, Reach adj seed v
  todo_reached : ∀ v ∈ todo, ∃ seed ∈ seeds, Reach adj seed v
  seeds_seen : ∀ v ∈ seeds, state.2[v]? = some true ∨ v ∈ todo
  targets_seen : ∀ v w : Nat, state.2[v]? = some true → v ∉ state.1 → Edge adj v w →
    state.2[w]? = some true ∨ w ∈ todo

/-- What is left to do: every pending node, and every node that is not marked yet. -/
def sweepWork (state : List Nat × Array Bool) : Nat :=
  state.1.length + state.2.count false

/-- Marking a node leaves the state as it is, or marks a new node and makes it pending. -/
theorem mark?_cases {state state' : List Nat × Array Bool} {w : Nat}
    (h : mark? state w = some state') :
    (state.2[w]? = some true ∧ state' = state) ∨
      (state.2[w]? = some false ∧ state' = (w :: state.1, state.2.setIfInBounds w true)) := by
  unfold mark? at h
  split at h
  next => cases h
  next hw => cases h; exact .inl ⟨hw, rfl⟩
  next hw => cases h; exact .inr ⟨hw, rfl⟩

section
variable {state state' : List Nat × Array Bool} {w : Nat}

/-- Marking a node marks that node and no other. -/
theorem mark?_seen (h : mark? state w = some state') (v : Nat) :
    state'.2[v]? = some true ↔ state.2[v]? = some true ∨ v = w := by
  rcases mark?_cases h with ⟨hw, rfl⟩ | ⟨hw, rfl⟩
  · refine ⟨.inl, ?_⟩
    rintro (hv | rfl)
    · exact hv
    · exact hw
  · obtain ⟨hlt, -⟩ := Array.getElem?_eq_some_iff.1 hw
    by_cases hv : v = w
    · rw [hv, Array.getElem?_setIfInBounds_self_of_lt hlt]
      simp
    · rw [Array.getElem?_setIfInBounds_ne (Ne.symm hv)]
      simp [hv]

/-- Marking a node makes it pending if it was not marked before. -/
theorem mark?_pending (h : mark? state w = some state') (v : Nat) :
    v ∈ state'.1 ↔ v ∈ state.1 ∨ v = w ∧ state.2[w]? ≠ some true := by
  rcases mark?_cases h with ⟨hw, rfl⟩ | ⟨hw, rfl⟩
  · simp [hw]
  · simp [hw, or_comm]

/-- Marking a node keeps the number of nodes. -/
theorem mark?_size (h : mark? state w = some state') : state'.2.size = state.2.size := by
  rcases mark?_cases h with ⟨-, rfl⟩ | ⟨-, rfl⟩
  · rfl
  · rw [Array.size_setIfInBounds]

/-- Marking a node leaves as much to do as before: a newly marked node is pending instead. -/
theorem mark?_work (h : mark? state w = some state') : sweepWork state' = sweepWork state := by
  rcases mark?_cases h with ⟨-, rfl⟩ | ⟨hw, rfl⟩
  · rfl
  · obtain ⟨hlt, hget⟩ := Array.getElem?_eq_some_iff.1 hw
    have hpos : 0 < state.2.count false := Array.count_pos_iff.2 (hget ▸ Array.getElem_mem hlt)
    have hset : (state.2.setIfInBounds w true).count false = state.2.count false - 1 := by
      rw [Array.setIfInBounds, dif_pos hlt, Array.count_set, hget]
      simp
    simp only [sweepWork, List.length_cons, hset]
    omega

end

/-! ## Steps of the sweep -/

/-- At the start the seeds are to be marked. -/
theorem Sweeping.init (adj : Array (List Nat)) (seeds : List Nat) :
    Sweeping adj seeds seeds ([], Array.replicate adj.size false) where
  size_eq := Array.size_replicate
  pending := nofun
  reached v hv := by simp [Array.getElem?_replicate] at hv
  todo_reached v hv := ⟨v, hv, .refl⟩
  seeds_seen _ hv := .inr hv
  targets_seen v _ hv := by simp [Array.getElem?_replicate] at hv

/-- One of the nodes to be marked has been marked. -/
theorem Sweeping.mark {state state' : List Nat × Array Bool} {w : Nat} {todo : List Nat}
    (h : Sweeping adj seeds (w :: todo) state) (hm : mark? state w = some state') :
    Sweeping adj seeds todo state' := by
  have hcons : ∀ v, state.2[v]? = some true ∨ v ∈ w :: todo →
      state'.2[v]? = some true ∨ v ∈ todo := by
    rintro v (hv | hv)
    · exact .inl ((mark?_seen hm v).2 (.inl hv))
    · exact (List.mem_cons.1 hv).imp_left fun hv => (mark?_seen hm v).2 (.inr hv)
  refine
    { size_eq := (mark?_size hm).trans h.size_eq, pending := ?_, reached := ?_,
      todo_reached := fun v hv => h.todo_reached v (List.mem_cons_of_mem _ hv),
      seeds_seen := fun v hv => hcons v (h.seeds_seen v hv), targets_seen := ?_ }
  · intro v hv
    rw [mark?_seen hm]
    exact ((mark?_pending hm v).1 hv).imp (h.pending v) And.left
  · intro v hv
    rcases (mark?_seen hm v).1 hv with hv | rfl
    · exact h.reached v hv
    · exact h.todo_reached v List.mem_cons_self
  · intro v u hv hvp hvu
    rw [mark?_pending hm, not_or] at hvp
    have hv' : state.2[v]? = some true := by
      rcases (mark?_seen hm v).1 hv with hv | rfl
      · exact hv
      · exact Decidable.of_not_not fun hn => hvp.2 ⟨rfl, hn⟩
    exact hcons u (h.targets_seen v u hv' hvp.1 hvu)

/-- A node taken off the pending ones leaves its targets to be marked. -/
theorem Sweeping.pop {v : Nat} {pending : List Nat} {seen : Array Bool}
    (h : Sweeping adj seeds [] (v :: pending, seen)) :
    Sweeping adj seeds (adj.getD v []) (pending, seen) where
  size_eq := h.size_eq
  pending u hu := h.pending u (List.mem_cons_of_mem _ hu)
  reached := h.reached
  todo_reached w hw := by
    obtain ⟨seed, hseed, hpath⟩ := h.reached v (h.pending v List.mem_cons_self)
    exact ⟨seed, hseed, hpath.tail hw⟩
  seeds_seen u hu := .inl ((h.seeds_seen u hu).resolve_right nofun)
  targets_seen u w hu hup huw := by
    by_cases huv : u = v
    · exact .inr (huv ▸ huw)
    · have hu' : u ∉ v :: pending := by
        rw [List.mem_cons, not_or]
        exact ⟨huv, hup⟩
      exact .inl ((h.targets_seen u w hu hu' huw).resolve_right nofun)

/-! ## Runs of the sweep -/

/-- All nodes to be marked have been marked. -/
theorem Sweeping.markAll {todo : List Nat} {state state' : List Nat × Array Bool}
    (h : Sweeping adj seeds todo state) (hm : todo.foldlM mark? state = some state') :
    Sweeping adj seeds [] state' :=
  foldlM_option_induct (Sweeping adj seeds) (fun _ _ _ _ => Sweeping.mark) _ _ _ h hm

/-- A sweep that ends well ends with no pending node. -/
theorem Sweeping.sweep : ∀ {fuel : Nat} {state : List Nat × Array Bool} {seen : Array Bool},
    Sweeping adj seeds [] state → sweep? adj fuel state = some seen →
      Sweeping adj seeds [] ([], seen)
  | 0, ([], _), _, h, hs => by cases hs; exact h
  | 0, (_ :: _, _), _, _, hs => by cases hs
  | _ + 1, ([], _), _, h, hs => by cases hs; exact h
  | fuel + 1, (v :: pending, marked), seen, h, hs => by
    obtain ⟨state, hm, hs⟩ := Option.bind_eq_some_iff.1 hs
    exact (h.pop.markAll hm).sweep hs

/-- When nothing is pending or to be marked, exactly the nodes that a seed leads to are marked. -/
theorem Sweeping.seen_iff {seen : Array Bool} (h : Sweeping adj seeds [] ([], seen)) (v : Nat) :
    seen[v]? = some true ↔ ∃ seed ∈ seeds, Reach adj seed v := by
  refine ⟨h.reached v, fun ⟨seed, hseed, hpath⟩ => ?_⟩
  refine hpath.keeps (P := fun v => seen[v]? = some true) (fun u w hu huw => ?_) ?_
  · exact (h.targets_seen u w hu nofun huw).resolve_right nofun
  · exact (h.seeds_seen seed hseed).resolve_right nofun

/-- A sweep that ends well has marked exactly the nodes that some seed leads to. -/
theorem reachable?_iff {seen : Array Bool} (h : reachable? adj seeds = some seen) (v : Nat) :
    seen[v]? = some true ↔ ∃ seed ∈ seeds, Reach adj seed v := by
  obtain ⟨state, hm, hs⟩ := Option.bind_eq_some_iff.1 h
  exact (((Sweeping.init adj seeds).markAll hm).sweep hs).seen_iff v

/-- Marking ends well for nodes of the graph, and leaves as much to do as before. -/
theorem Sweeping.markAll_total (hin : ∀ v, (∃ seed ∈ seeds, Reach adj seed v) → v < adj.size)
    {todo : List Nat} {state : List Nat × Array Bool} (h : Sweeping adj seeds todo state) :
    ∃ state', todo.foldlM mark? state = some state' ∧ Sweeping adj seeds [] state' ∧
      sweepWork state' = sweepWork state := by
  refine foldlM_option_total
    (fun todo state' => Sweeping adj seeds todo state' ∧ sweepWork state' = sweepWork state)
    (fun w rest state' ⟨hs, hwork⟩ => ?_) todo state ⟨h, rfl⟩
  have hw : w < state'.2.size := by
    rw [hs.size_eq]
    exact hin w (hs.todo_reached w List.mem_cons_self)
  obtain ⟨next, hnext⟩ : ∃ next, mark? state' w = some next := by
    rw [mark?, Array.getElem?_eq_getElem hw]
    cases state'.2[w] <;> exact ⟨_, rfl⟩
  exact ⟨next, hnext, hs.mark hnext, (mark?_work hnext).trans hwork⟩

/-- The sweep ends well if there is fuel for all there is to do. -/
theorem Sweeping.sweep_total (hin : ∀ v, (∃ seed ∈ seeds, Reach adj seed v) → v < adj.size) :
    ∀ {fuel : Nat} {state : List Nat × Array Bool}, Sweeping adj seeds [] state →
      sweepWork state ≤ fuel → ∃ seen, sweep? adj fuel state = some seen
  | 0, ([], seen), _, _ => ⟨seen, rfl⟩
  | 0, (_ :: _, _), _, hwork => by
    simp only [sweepWork, List.length_cons] at hwork
    omega
  | _ + 1, ([], seen), _, _ => ⟨seen, rfl⟩
  | fuel + 1, (v :: pending, marked), h, hwork => by
    obtain ⟨state, hm, hs, heq⟩ := h.pop.markAll_total hin
    -- `v` is no longer pending, and marking its targets leaves the rest of the work as it was.
    have hle : sweepWork state ≤ fuel := by
      simp only [sweepWork, List.length_cons] at heq hwork ⊢
      omega
    obtain ⟨seen, hseen⟩ := Sweeping.sweep_total hin hs hle
    exact ⟨seen, Option.bind_eq_some_iff.2 ⟨state, hm, hseen⟩⟩

/-- A sweep ends well if everything that a seed leads to is a node of the graph. -/
theorem reachable?_total (hin : ∀ v, (∃ seed ∈ seeds, Reach adj seed v) → v < adj.size) :
    ∃ seen, reachable? adj seeds = some seen := by
  obtain ⟨state, hm, hs, hwork⟩ := (Sweeping.init adj seeds).markAll_total hin
  have hle : sweepWork state ≤ adj.size := by
    rw [hwork]
    simp [sweepWork]
  obtain ⟨seen, hseen⟩ := hs.sweep_total hin hle
  exact ⟨seen, Option.bind_eq_some_iff.2 ⟨state, hm, hseen⟩⟩

end GoSurvey.Graph
