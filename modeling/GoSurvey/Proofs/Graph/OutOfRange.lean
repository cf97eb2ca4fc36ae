import GoSurvey.Proofs.Graph.Components
import GoSurvey.Proofs.Graph.Reachable

/-!
# Searches that meet an edge leading outside

A search has no result if it meets an edge, or a seed, that leads outside the graph. The component
search follows every edge of every node, so it fails over any such edge (`components?_eq_none_iff`).
A sweep follows the edges of the nodes it marks and of no others: it fails over a seed, or over an
edge of a node that a seed leads to inside the graph (`not_inside_iff`), and what lies elsewhere
does it no harm. `reachable?_eq_some_iff` tells the result of a sweep from the set of its seeds,
whatever their order and number.
-/

namespace GoSurvey.Graph

open Relation

variable {adj : Array (List Nat)} {seeds : List Nat}

/-- A search that succeeds under a condition, and under no other, fails exactly without it. -/
theorem eq_none_iff_not {α : Type} {result : Option α} {P : Prop}
    (total : P → ∃ a, result = some a) (sound : ∀ a, result = some a → P) :
    result = none ↔ ¬P := by
  constructor
  · intro h hP
    obtain ⟨a, ha⟩ := total hP
    rw [h] at ha
    cases ha
  · intro h
    cases hresult : result with
    | none => rfl
    | some a => exact absurd (sound a hresult) h

/-! ## Components -/

/-- An edge leads outside exactly if some target is no node. -/
theorem not_inRange_iff : ¬InRange adj ↔ ∃ targets ∈ adj, ∃ w ∈ targets, adj.size ≤ w := by
  simp only [InRange, not_forall, Nat.not_lt, exists_prop]

/-- A component search that ends well has met every edge, and each of them led to a node. -/
theorem inRange_of_components? {comps : List (List Nat)} (h : components? adj = some comps) :
    InRange adj := by
  obtain ⟨hlay, -, hmem⟩ := components?_layered h
  refine inRange_of_edge_lt fun v w hvw => ?_
  have hv : v ∈ comps.reverse.flatten := (hmem v).2 hvw.source_lt
  exact (hmem w).1 (hlay.edge_mem v w hv hvw)

/-- The component search fails exactly if some edge leads outside. -/
theorem components?_eq_none_iff : components? adj = none ↔ ¬InRange adj :=
  eq_none_iff_not components?_total fun _ => inRange_of_components?

/-- The nodes on a cycle can be told exactly if the components can. -/
theorem recursiveNodes?_eq_none_iff : recursiveNodes? adj = none ↔ components? adj = none := by
  rw [recursiveNodes?]
  cases components? adj <;> simp

/-! ## Sweeps -/

/-- Everything that a seed leads to is a node of the graph. -/
def Inside (adj : Array (List Nat)) (seeds : List Nat) : Prop :=
  ∀ v, (∃ seed ∈ seeds, Reach adj seed v) → v < adj.size

/-- `w` is one of the targets of `v` and a node of the graph. -/
def InnerEdge (adj : Array (List Nat)) (v w : Nat) : Prop :=
  Edge adj v w ∧ w < adj.size

/-- A sweep that ends well leaves nothing pending and nothing to be marked. -/
theorem reachable?_swept {seen : Array Bool} (h : reachable? adj seeds = some seen) :
    Sweeping adj seeds [] ([], seen) := by
  obtain ⟨state, hm, hs⟩ := Option.bind_eq_some_iff.1 h
  exact ((Sweeping.init adj seeds).markAll hm).sweep hs

/-- Two arrays of flags are the same if they flag the same positions. -/
theorem eq_of_flagged_iff {seen seen' : Array Bool} (hsize : seen.size = seen'.size)
    (h : ∀ v : Nat, seen[v]? = some true ↔ seen'[v]? = some true) : seen = seen' := by
  refine Array.ext hsize fun v hv hv' => ?_
  have hv_iff := h v
  rw [Array.getElem?_eq_getElem hv, Array.getElem?_eq_getElem hv', Option.some_inj,
    Option.some_inj] at hv_iff
  exact Bool.eq_iff_iff.2 hv_iff

/-- The result of a sweep: there is one exactly if all that the seeds lead to is inside the graph,
and it flags just that. -/
theorem reachable?_eq_some_iff {seen : Array Bool} :
    reachable? adj seeds = some seen ↔ Inside adj seeds ∧ seen.size = adj.size ∧
      ∀ v : Nat, seen[v]? = some true ↔ ∃ seed ∈ seeds, Reach adj seed v := by
  constructor
  · intro h
    have hsize : seen.size = adj.size := (reachable?_swept h).size_eq
    refine ⟨fun v hv => ?_, hsize, reachable?_iff h⟩
    obtain ⟨hlt, -⟩ := Array.getElem?_eq_some_iff.1 ((reachable?_iff h v).2 hv)
    rw [← hsize]
    exact hlt
  · rintro ⟨hin, hsize, hseen⟩
    obtain ⟨seen', h⟩ := reachable?_total hin
    have hsize' : seen'.size = adj.size := (reachable?_swept h).size_eq
    rw [h, eq_of_flagged_iff (hsize'.trans hsize.symm) fun v => ?_]
    rw [reachable?_iff h v, hseen v]

/-- A sweep fails exactly if a seed leads outside the graph. -/
theorem reachable?_eq_none_iff : reachable? adj seeds = none ↔ ¬Inside adj seeds :=
  eq_none_iff_not reachable?_total fun _ h => (reachable?_eq_some_iff.1 h).1

/-- If the seeds and the targets of all nodes they lead to inside the graph are nodes, then every
path from a seed stays inside. -/
theorem lt_of_inner_reach {seed v : Nat} (hseed : seed < adj.size)
    (hedge : ∀ v, ReflTransGen (InnerEdge adj) seed v → ∀ w, Edge adj v w → w < adj.size)
    (h : Reach adj seed v) : ReflTransGen (InnerEdge adj) seed v ∧ v < adj.size := by
  induction h with
  | refl => exact ⟨.refl, hseed⟩
  | tail _ huw ih =>
    have hw := hedge _ ih.1 _ huw
    exact ⟨ih.1.tail ⟨huw, hw⟩, hw⟩

/-- A seed leads outside exactly if it is no node itself, or leads inside the graph to a node with
an edge that leads outside: the first such edge of the path. -/
theorem not_inside_iff :
    ¬Inside adj seeds ↔ (∃ seed ∈ seeds, adj.size ≤ seed) ∨
      ∃ seed ∈ seeds, ∃ v, ReflTransGen (InnerEdge adj) seed v ∧
        ∃ w, Edge adj v w ∧ adj.size ≤ w := by
  constructor
  · intro h
    by_contra hnone
    refine h fun v => ?_
    rintro ⟨seed, hseed, hpath⟩
    refine (lt_of_inner_reach ?_ (fun u hu w huw => ?_) hpath).2
    · by_contra hge
      exact hnone (.inl ⟨seed, hseed, Nat.not_lt.1 hge⟩)
    · by_contra hge
      exact hnone (.inr ⟨seed, hseed, u, hu, w, huw, Nat.not_lt.1 hge⟩)
  · rintro (⟨seed, hseed, hge⟩ | ⟨seed, hseed, v, hpath, w, hvw, hge⟩) hin
    · exact absurd (hin seed ⟨seed, hseed, .refl⟩) (Nat.not_lt.2 hge)
    · have hreach : Reach adj seed v := ReflTransGen.mono (fun _ _ h => h.1) _ _ hpath
      exact absurd (hin w ⟨seed, hseed, hreach.tail hvw⟩) (Nat.not_lt.2 hge)

/-- The order of the seeds and how often each is given do not matter. -/
theorem reachable?_congr {seeds' : List Nat} (h : ∀ v, v ∈ seeds' ↔ v ∈ seeds) :
    reachable? adj seeds' = reachable? adj seeds := by
  refine Option.ext fun seen => ?_
  rw [reachable?_eq_some_iff, reachable?_eq_some_iff]
  simp only [Inside, h]

/-! ## All searches -/

/-- **When a search of a graph has no result.** Telling the components or the nodes on a cycle fails
exactly if some edge leads outside. A sweep fails exactly if some seed is no node, or an edge leads
outside from a node that a seed leads to inside the graph. Otherwise it flags exactly the nodes that
a seed leads to, and its result is the same for all seeds that are the same as a set. -/
theorem no_result_iff (adj : Array (List Nat)) (seeds : List Nat) :
    (components? adj = none ↔ ∃ targets ∈ adj, ∃ w ∈ targets, adj.size ≤ w) ∧
    (recursiveNodes? adj = none ↔ ∃ targets ∈ adj, ∃ w ∈ targets, adj.size ≤ w) ∧
    (reachable? adj seeds = none ↔ (∃ seed ∈ seeds, adj.size ≤ seed) ∨
      ∃ seed ∈ seeds, ∃ v, ReflTransGen (InnerEdge adj) seed v ∧
        ∃ w, Edge adj v w ∧ adj.size ≤ w) ∧
    (∀ seen, reachable? adj seeds = some seen → seen.size = adj.size ∧
      ∀ v : Nat, seen[v]? = some true ↔ ∃ seed ∈ seeds, Reach adj seed v) ∧
    ∀ seeds' : List Nat, (∀ v, v ∈ seeds' ↔ v ∈ seeds) →
      reachable? adj seeds' = reachable? adj seeds := by
  refine ⟨?_, ?_, ?_, ?_, ?_⟩
  · rw [components?_eq_none_iff, not_inRange_iff]
  · rw [recursiveNodes?_eq_none_iff, components?_eq_none_iff, not_inRange_iff]
  · rw [reachable?_eq_none_iff, not_inside_iff]
  · intro seen h
    exact (reachable?_eq_some_iff.1 h).2
  · intro seeds' h
    exact reachable?_congr h

-- The edge from `2` leads outside. No component can be told, but a sweep from `0` does not meet it.
example : components? #[[1], [0], [7]] = none := by decide

example : reachable? #[[1], [0], [7]] [0, 0] = some #[true, true, false] := by decide

end GoSurvey.Graph
