/-!
# Reachable nodes

A sweep from some seeds marks every node that a path leads to. A seed, or an edge of a marked node,
that leads outside the graph leaves the sweep without a result.
-/

namespace GoSurvey.Graph

/-- Marks a node and puts it on the list of nodes to go on from, unless it is marked already. -/
def mark? (state : List Nat × Array Bool) (w : Nat) : Option (List Nat × Array Bool) :=
  match state.2[w]? with
  | none => none
  | some true => some state
  | some false => some (w :: state.1, state.2.setIfInBounds w true)

/-- Goes on from all pending nodes. Every node is pending at most once, so the number of nodes is
fuel enough. -/
def sweep? (adj : Array (List Nat)) : Nat → List Nat × Array Bool → Option (Array Bool)
  | _, ([], seen) => some seen
  | 0, (_ :: _, _) => none
  | fuel + 1, (v :: pending, seen) => do
    let state ← (adj.getD v []).foldlM mark? (pending, seen)
    sweep? adj fuel state

/-- Which nodes can be reached from some seed. -/
def reachable? (adj : Array (List Nat)) (seeds : List Nat) : Option (Array Bool) := do
  let state ← seeds.foldlM mark? ([], Array.replicate adj.size false)
  sweep? adj adj.size state

end GoSurvey.Graph
