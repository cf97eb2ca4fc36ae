import Mathlib.Logic.Relation
import GoSurvey.Graph.Component

/-!
# Paths in a graph

A graph is an array that holds the targets of each node. `Edge` and `Reach` are its edges and its
paths, and `InRange` says that no edge leads outside. `foldlM_option_induct` and
`foldlM_option_total` are the two ways in which a loop that may fail is reasoned about: what holds
of every run that ends well, and that a run does end well. Both carry an invariant that also sees
what the loop has still to do.
-/

namespace GoSurvey.Graph

/-- `w` is one of the targets of `v`. -/
def Edge (adj : Array (List Nat)) (v w : Nat) : Prop :=
  w ∈ adj.getD v []

/-- A path of zero or more edges leads from `v` to `w`. -/
abbrev Reach (adj : Array (List Nat)) (v w : Nat) : Prop :=
  Relation.ReflTransGen (Edge adj) v w

/-- No edge leads outside the graph. -/
def InRange (adj : Array (List Nat)) : Prop :=
  ∀ targets ∈ adj, ∀ w ∈ targets, w < adj.size

instance (adj : Array (List Nat)) : Decidable (InRange adj) :=
  inferInstanceAs (Decidable (∀ targets ∈ adj, ∀ w ∈ targets, w < adj.size))

/-- An edge starts at a node and is listed there. -/
theorem edge_iff {adj : Array (List Nat)} {v w : Nat} :
    Edge adj v w ↔ ∃ targets, adj[v]? = some targets ∧ w ∈ targets := by
  rw [Edge, Array.getD_eq_getD_getElem?]
  cases adj[v]? <;> simp

/-- An edge starts at a node of the graph. -/
theorem Edge.source_lt {adj : Array (List Nat)} {v w : Nat} (h : Edge adj v w) :
    v < adj.size := by
  obtain ⟨targets, hv, -⟩ := edge_iff.1 h
  exact (Array.getElem?_eq_some_iff.1 hv).1

/-- In a graph whose edges stay inside, an edge leads to a node. -/
theorem InRange.edge_lt {adj : Array (List Nat)} (h : InRange adj) {v w : Nat}
    (hvw : Edge adj v w) : w < adj.size := by
  obtain ⟨targets, hv, hw⟩ := edge_iff.1 hvw
  exact h targets (Array.mem_of_getElem? hv) w hw

/-- A graph has only edges that stay inside if every edge leads to a node. -/
theorem inRange_of_edge_lt {adj : Array (List Nat)}
    (h : ∀ v w, Edge adj v w → w < adj.size) : InRange adj := by
  intro targets ht w hw
  obtain ⟨v, hv⟩ := Array.mem_iff_getElem?.1 ht
  exact h v w (edge_iff.2 ⟨targets, hv, hw⟩)

/-- A property that edges keep is kept along paths. -/
theorem Reach.keeps {adj : Array (List Nat)} {P : Nat → Prop}
    (hstep : ∀ v w, P v → Edge adj v w → P w) {v w : Nat} (h : Reach adj v w) (hv : P v) :
    P w := by
  induction h with
  | refl => exact hv
  | tail _ hedge ih => exact hstep _ _ ih hedge

/-! ## Loops that may fail -/

section
variable {α β : Type} {f : β → α → Option β} (I : List α → β → Prop)

/-- An invariant that every successful round keeps holds after a loop that succeeds. -/
theorem foldlM_option_induct
    (step : ∀ a rest b c, I (a :: rest) b → f b a = some c → I rest c) :
    ∀ (l : List α) (b c : β), I l b → l.foldlM f b = some c → I [] c
  | [], b, c, hb, h => by
    rw [List.foldlM_nil] at h
    cases h
    exact hb
  | a :: l, b, c, hb, h => by
    rw [List.foldlM_cons, Option.bind_eq_bind, Option.bind_eq_some_iff] at h
    obtain ⟨b', h1, h2⟩ := h
    exact foldlM_option_induct step l b' c (step a l b b' hb h1) h2

/-- A loop succeeds if every round from the invariant succeeds and keeps it. -/
theorem foldlM_option_total
    (step : ∀ a rest b, I (a :: rest) b → ∃ c, f b a = some c ∧ I rest c) :
    ∀ (l : List α) (b : β), I l b → ∃ c, l.foldlM f b = some c ∧ I [] c
  | [], b, hb => ⟨b, rfl, hb⟩
  | a :: l, b, hb => by
    obtain ⟨b', h1, hb'⟩ := step a l b hb
    obtain ⟨c, h2, hc⟩ := foldlM_option_total step l b' hb'
    refine ⟨c, ?_, hc⟩
    rw [List.foldlM_cons, h1]
    exact h2

end

end GoSurvey.Graph
