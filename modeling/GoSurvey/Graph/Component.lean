/-!
# Strongly connected components

A depth-first search numbers the nodes in the order it meets them and keeps the ones whose component
is still open on a stack. A node from which the search got back to nothing older closes a component:
everything above it on the stack, and itself. The nodes whose edges are being followed are kept in a
list of frames, so that a long path needs no deep recursion.

An edge that leads outside the graph has no meaning; a search that meets one gives no result.
-/

namespace GoSurvey.Graph

/-- What the search knows about a node. -/
inductive Mark where
  /-- Not met yet. -/
  | unseen
  /-- On the stack, with its number. -/
  | onStack (number : Nat)
  /-- Its component is complete. -/
  | closed
deriving DecidableEq, Repr, Inhabited

/-- The state of the search. The node met last is on top of the stack, the component closed last
comes first. -/
structure Search where
  marks : Array Mark
  stack : List Nat
  met : Nat
  components : List (List Nat)

/-- A node whose edges are being followed: its number, the number of the oldest node on the stack
that the search got back to from it, and the targets of the edges still to follow. -/
structure Frame where
  node : Nat
  number : Nat
  low : Nat
  targets : List Nat

/-- The search got back to a node with the number `low`. -/
def Frame.lower (low : Nat) (f : Frame) : Frame :=
  { f with low := min f.low low }

namespace Search

/-- Nothing met in a graph of `n` nodes. -/
def start (n : Nat) : Search :=
  ⟨Array.replicate n .unseen, [], 0, []⟩

/-- Meets a node for the first time. -/
def enter (v : Nat) (s : Search) : Search :=
  { s with
    marks := s.marks.setIfInBounds v (.onStack s.met)
    stack := v :: s.stack
    met := s.met + 1 }

/-- Cuts a stack below a node: what is above it together with it, and what is below. -/
def cut (v : Nat) (stack : List Nat) : List Nat × List Nat :=
  let (above, rest) := stack.span (· != v)
  (above ++ rest.take 1, rest.drop 1)

/-- Closes the component whose oldest node is `v`. -/
def close (v : Nat) (s : Search) : Search :=
  let (component, rest) := cut v s.stack
  { s with
    marks := component.foldl (fun marks w => marks.setIfInBounds w .closed) s.marks
    stack := rest
    components := component :: s.components }

/-- The frame of a node that is about to be met. -/
def frame (adj : Array (List Nat)) (s : Search) (v : Nat) : Frame :=
  ⟨v, s.met, s.met, adj.getD v []⟩

/-- One step with the latest frame and those below it. The next edge of its node is followed; if
there is none, the node is left, and the node it was met from got back to what it got back to. -/
def step (adj : Array (List Nat)) (f : Frame) (below : List Frame) (s : Search) :
    Option (List Frame × Search) :=
  match f.targets with
  | [] =>
    some (below.modifyHead (·.lower f.low), if f.low = f.number then s.close f.node else s)
  | w :: targets =>
    match s.marks[w]? with
    | none => none
    | some .unseen => some (s.frame adj w :: { f with targets } :: below, s.enter w)
    | some (.onStack number) => some (({ f with targets } : Frame).lower number :: below, s)
    | some .closed => some ({ f with targets } :: below, s)

/-- Goes on until no frame is left. -/
def run (adj : Array (List Nat)) : Nat → List Frame → Search → Option Search
  | _, [], s => some s
  | 0, _ :: _, _ => none
  | fuel + 1, f :: below, s =>
    match step adj f below s with
    | none => none
    | some (frames, s) => run adj fuel frames s

/-- Visits a node with all that it leads to, unless it was met before. -/
def visit (adj : Array (List Nat)) (fuel : Nat) (s : Search) (root : Nat) : Option Search :=
  if s.marks[root]? = some .unseen then run adj fuel [s.frame adj root] (s.enter root) else some s

end Search

/-- The number of nodes and edges. A step of the search follows an edge or leaves a node, so a
search takes no more steps than that. -/
def extent (adj : Array (List Nat)) : Nat :=
  adj.foldl (fun count targets => count + targets.length + 1) 0

/-- The strongly connected components of a graph, in the order the search closes them, each from
its newest node to its oldest. There are none to speak of if an edge leads outside the graph. -/
def components? (adj : Array (List Nat)) : Option (List (List Nat)) := do
  let visit := Search.visit adj (extent adj)
  let s ← (List.range adj.size).foldlM visit (Search.start adj.size)
  return s.components.reverse

/-- Which nodes lie on a cycle: those with an edge to themselves, and those of a component with
several nodes. -/
def recursiveNodes? (adj : Array (List Nat)) : Option (List Bool) := do
  let members := ((← components? adj).filter (1 < ·.length)).flatten
  let loops := adj.mapIdx fun v targets => targets.contains v
  return (members.foldl (fun flags v => flags.setIfInBounds v true) loops).toList

end GoSurvey.Graph
