import Mathlib.Data.List.Flatten
import Mathlib.Data.List.Nodup
import Mathlib.Data.List.Perm.Basic
import GoSurvey.Proofs.Graph.Search

/-!
# Runs of the component search

The search goes step by step over a list of frames. `Search.Open` says what the frames of a visit
stand for: each belongs to a node some of whose edges have been followed (`Search.Following`), in a
search that began when the frame below it came to an edge to that node. A step keeps this
(`Open.step`), so at the end of a run the edge to the root has been followed to its end
(`Open.run`). Every step takes one off the edges still to follow and the nodes still to leave
(`Open.stepsAhead_step`), which are no more than the graph has (`stepsAhead_nil_le`), so that a run
does end (`Open.run_total`).
-/

namespace GoSurvey.Graph

variable {adj : Array (List Nat)}

namespace Search

/-! ## Frames -/

/-- In the state `s` the search is about to meet `w` and to give it a number. -/
structure Meeting (adj : Array (List Nat)) (w number : Nat) (s : Search) : Prop where
  valid : s.Valid adj
  lt : w < adj.size
  unseen : ¬ s.Seen w
  reach : ∀ v ∈ s.stack, Reach adj v w
  number_eq : number = s.met

/-- The frames of a visit to `root` that began in the state `s₀`. -/
inductive Open (adj : Array (List Nat)) (s₀ : Search) (root : Nat) : List Frame → Search → Prop
  /-- The root was left. -/
  | done {new : List Nat} {low : Nat} {t : Search} (explored : Explored adj root s₀ new low t) :
    Open adj s₀ root [] t
  /-- The search is at the root. -/
  | first {f : Frame} {new : List Nat} {t : Search} (node_eq : f.node = root)
    (meeting : Meeting adj f.node f.number s₀)
    (following : Following adj f.node s₀ f.targets new f.low t) : Open adj s₀ root [f] t
  /-- The search is at a node to which an edge of the node below leads. -/
  | next {f p : Frame} {below : List Frame} {new : List Nat} {s t : Search}
    (parent : Open adj s₀ root ({ p with targets := f.node :: p.targets } :: below) s)
    (meeting : Meeting adj f.node f.number s)
    (following : Following adj f.node s f.targets new f.low t) :
    Open adj s₀ root (f :: p :: below) t

section
variable {s s₀ t r : Search} {root w low : Nat} {new targets : List Nat} {f : Frame}
  {below frames : List Frame}

/-- A node about to be met can be met. -/
theorem Meeting.enter {number : Nat} (h : Meeting adj w number s) : (s.enter w).Valid adj :=
  h.valid.enter h.lt h.unseen h.reach

/-- An unseen node to which everything on the stack leads can be met. -/
theorem Meeting.of_mark (hs : s.Valid adj) (hw : s.marks[w]? = some .unseen)
    (hreach : ∀ v ∈ s.stack, Reach adj v w) : Meeting adj w s.met s where
  valid := hs
  lt := hs.lt_of_mark hw
  unseen := (hs.unseen_iff (hs.lt_of_mark hw)).1 hw
  reach := hreach
  number_eq := rfl

/-- None of the edges of a new frame has been followed. -/
theorem Meeting.following {number : Nat} (h : Meeting adj w number s) :
    Following adj w s (s.frame adj w).targets [] (s.frame adj w).low (s.enter w) :=
  .init h.valid h.lt h.unseen h.reach

/-- The latest frame, and how it may change: it stands for a node that is being followed, and it can
be replaced by any other frame of that node. -/
theorem Open.top (h : Open adj s₀ root (f :: below) t) :
    ∃ s new, Meeting adj f.node f.number s ∧ Following adj f.node s f.targets new f.low t ∧
      ∀ targets low new' t', Following adj f.node s targets new' low t' →
        Open adj s₀ root ({ f with targets, low } :: below) t' := by
  cases h with
  | first node_eq meeting following =>
    exact ⟨_, _, meeting, following, fun _ _ _ _ h => .first node_eq meeting h⟩
  | next parent meeting following =>
    exact ⟨_, _, meeting, following, fun _ _ _ _ h => .next parent meeting h⟩

/-- The state of an open visit is valid. -/
theorem Open.valid (h : Open adj s₀ root (f :: below) t) : t.Valid adj := by
  obtain ⟨s, new, -, hf, -⟩ := h.top
  exact hf.valid

/-- Everything on the stack leads to the node of the latest frame. -/
theorem Open.reach (h : Open adj s₀ root (f :: below) t) : ∀ v ∈ t.stack, Reach adj v f.node := by
  obtain ⟨s, new, hs, hf, -⟩ := h.top
  exact hf.reach hs.reach

/-- The targets of a frame are targets of its node. -/
theorem Open.edge (h : Open adj s₀ root (f :: below) t) : ∀ w ∈ f.targets, Edge adj f.node w := by
  obtain ⟨s, new, -, hf, -⟩ := h.top
  exact hf.todo_edge

/-- The search got back to a node that it has met. -/
theorem Open.low_lt (h : Open adj s₀ root (f :: below) t) : f.low < t.met ∧ f.low < adj.size := by
  obtain ⟨s, new, hs, hf, -⟩ := h.top
  obtain ⟨hle, hlt⟩ := hf.low_lt hs.enter
  have hmet : s.met + 1 ≤ t.met := hf.met_le
  omega

/-! ## Steps -/

/-- An edge of the latest frame has been followed to its end. -/
theorem Open.follow (h : Open adj s₀ root (f :: below) t) (hf : f.targets = w :: targets)
    (hw : Explored adj w t new low r) :
    Open adj s₀ root ({ f with targets, low := min f.low low } :: below) r := by
  obtain ⟨s, new', hs, hfollowing, hnext⟩ := h.top
  rw [hf] at hfollowing
  exact hnext _ _ _ _ (hfollowing.step hs.enter hs.reach hw)

/-- The node of the latest frame is left. -/
theorem Open.leave (h : Open adj s₀ root (f :: below) t) (hf : f.targets = []) :
    Open adj s₀ root (below.modifyHead (·.lower f.low))
      (if f.low = f.number then t.close f.node else t) := by
  cases h with
  | first node_eq meeting following =>
    rw [hf] at following
    obtain ⟨new', low', hexplored, -⟩ :=
      following.leave meeting.valid meeting.unseen meeting.lt
    rw [← meeting.number_eq, node_eq] at hexplored
    rw [node_eq]
    exact .done hexplored
  | @next _ p _ _ s _ parent meeting following =>
    rw [hf] at following
    obtain ⟨new', low', hexplored, hlow⟩ :=
      following.leave meeting.valid meeting.unseen meeting.lt
    rw [← meeting.number_eq] at hexplored
    -- A node that closes a component got back to itself only, which is newer than what the node
    -- below it got back to.
    have hmin : min p.low low' = min p.low f.low := by
      obtain ⟨hmet, hsize⟩ := parent.low_lt
      dsimp only at hmet hsize
      omega
    have hparent := parent.follow rfl hexplored
    dsimp only at hparent
    rw [hmin] at hparent
    exact hparent

/-- What a step leads to. -/
theorem Open.step (h : Open adj s₀ root (f :: below) t)
    (hstep : Search.step adj f below t = some (frames, r)) : Open adj s₀ root frames r := by
  obtain ⟨node, number, low, targets⟩ := f
  cases targets with
  | nil =>
    cases hstep
    exact h.leave rfl
  | cons w targets =>
    simp only [Search.step] at hstep
    cases hw : t.marks[w]? with
    | none => simp [hw] at hstep
    | some m =>
      rw [hw] at hstep
      cases m with
      | unseen =>
        cases hstep
        have hedge : Edge adj node w := h.edge w List.mem_cons_self
        have hmeeting := Meeting.of_mark h.valid hw fun v hv => (h.reach v hv).tail hedge
        exact .next h hmeeting hmeeting.following
      | onStack number =>
        cases hstep
        exact h.follow rfl (.ofStack h.valid hw)
      | closed =>
        cases hstep
        have hfollow := h.follow rfl (.ofClosed h.valid hw)
        rwa [Nat.min_eq_left (Nat.le_of_lt h.low_lt.2)] at hfollow

/-- What a run leads to. -/
theorem Open.run {fuel : Nat} (h : Open adj s₀ root frames t)
    (hrun : Search.run adj fuel frames t = some r) : Open adj s₀ root [] r := by
  induction fuel generalizing frames t with
  | zero =>
    cases frames with
    | nil =>
      cases hrun
      exact h
    | cons f below => cases hrun
  | succ fuel ih =>
    cases frames with
    | nil =>
      cases hrun
      exact h
    | cons f below =>
      rw [Search.run] at hrun
      cases hstep : Search.step adj f below t with
      | none => simp [hstep] at hrun
      | some result =>
        rw [hstep] at hrun
        exact ih (h.step hstep) hrun

/-! ## The number of steps -/

/-- The nodes that the search has not met. -/
def unseenNodes (adj : Array (List Nat)) (s : Search) : List Nat :=
  (List.range adj.size).filter fun v => s.marks[v]? = some .unseen

/-- The steps that some nodes need: one for each edge, and one to leave the node. -/
def stepsOf (adj : Array (List Nat)) (nodes : List Nat) : Nat :=
  (nodes.flatMap fun v => v :: adj.getD v []).length

/-- The steps that a search needs to follow all edges and to leave all nodes. -/
def stepsAhead (adj : Array (List Nat)) (frames : List Frame) (s : Search) : Nat :=
  (frames.flatMap fun f => f.node :: f.targets).length + stepsOf adj (s.unseenNodes adj)

/-- A node that is met is no longer among the unseen ones. -/
theorem Meeting.unseenNodes_perm {number : Nat} (h : Meeting adj w number s) :
    (s.unseenNodes adj).Perm (w :: (s.enter w).unseenNodes adj) := by
  have hself : (s.enter w).marks[w]? = some (.onStack s.met) := enter_marks_self h.valid h.lt
  have hrest : w ∉ (s.enter w).unseenNodes adj := by
    simp [unseenNodes, hself]
  refine (List.perm_ext_iff_of_nodup (List.nodup_range.filter _)
    (List.nodup_cons.2 ⟨hrest, List.nodup_range.filter _⟩)).2 fun v => ?_
  rw [List.mem_cons]
  by_cases hv : v = w
  · subst hv
    simp [unseenNodes, h.lt, (h.valid.unseen_iff h.lt).2 h.unseen]
  · simp [unseenNodes, hv, enter_marks_of_ne hv]

/-- Closing a component leaves the unseen nodes alone. -/
theorem Valid.unseenNodes_close {rest : List Nat} (ht : t.Valid adj)
    (hst : t.stack = new ++ w :: rest) : (t.close w).unseenNodes adj = t.unseenNodes adj := by
  refine List.filter_congr fun v _ => ?_
  rw [ht.close_marks hst]
  split
  next hv =>
    have hmem : v ∈ t.stack := by
      rw [hst, List.append_cons]
      exact List.mem_append_left _ hv
    obtain ⟨k, hk⟩ := (ht.mem_stack v).1 hmem
    simp [hk]
  next => rfl

/-- The steps of a node that is met are now those of its frame. -/
theorem Meeting.stepsAhead_enter {number : Nat} (h : Meeting adj w number s) :
    stepsAhead adj (s.frame adj w :: frames) (s.enter w) = stepsAhead adj frames s := by
  have hperm := (h.unseenNodes_perm.flatMap_right fun v => v :: adj.getD v []).length_eq
  simp only [stepsAhead, stepsOf, frame, hperm, List.flatMap_cons, List.length_append]
  omega

/-- Every step follows an edge or leaves a node. -/
theorem Open.stepsAhead_step (h : Open adj s₀ root (f :: below) t)
    (hstep : Search.step adj f below t = some (frames, r)) :
    stepsAhead adj (f :: below) t = stepsAhead adj frames r + 1 := by
  obtain ⟨node, number, low, targets⟩ := f
  cases targets with
  | nil =>
    cases hstep
    have hbelow : ((below.modifyHead (·.lower low)).flatMap fun f => f.node :: f.targets) =
        below.flatMap fun f => f.node :: f.targets := by
      cases below <;> rfl
    have hunseen : (if low = number then t.close node else t).unseenNodes adj =
        t.unseenNodes adj := by
      obtain ⟨s, new, -, hf, -⟩ := h.top
      split
      next => exact hf.valid.unseenNodes_close hf.stack_split
      next => rfl
    simp only [stepsAhead, hbelow, hunseen, List.flatMap_cons, List.length_append,
      List.length_singleton]
    omega
  | cons w targets =>
    simp only [Search.step] at hstep
    cases hw : t.marks[w]? with
    | none => simp [hw] at hstep
    | some m =>
      rw [hw] at hstep
      cases m with
      | unseen =>
        cases hstep
        have hedge : Edge adj node w := h.edge w List.mem_cons_self
        have hmeeting := Meeting.of_mark h.valid hw fun v hv => (h.reach v hv).tail hedge
        rw [hmeeting.stepsAhead_enter]
        simp only [stepsAhead, List.flatMap_cons, List.length_append, List.length_cons]
        omega
      | onStack number =>
        cases hstep
        simp only [stepsAhead, Frame.lower, List.flatMap_cons, List.length_append,
          List.length_cons]
        omega
      | closed =>
        cases hstep
        simp only [stepsAhead, List.flatMap_cons, List.length_append, List.length_cons]
        omega

/-- There is always a step if no edge leads outside. -/
theorem Open.step_total (hadj : InRange adj) (h : Open adj s₀ root (f :: below) t) :
    ∃ frames r, Search.step adj f below t = some (frames, r) := by
  cases hf : f.targets with
  | nil => exact ⟨_, _, by rw [Search.step, hf]⟩
  | cons w targets =>
    have hw : w < t.marks.size := by
      rw [h.valid.marks_size]
      exact hadj.edge_lt (h.edge w (hf ▸ List.mem_cons_self))
    cases hm : t.marks[w]? with
    | none => exact absurd hw (Nat.not_lt.2 (Array.getElem?_eq_none_iff.1 hm))
    | some m => cases m <;> exact ⟨_, _, by simp only [Search.step, hf, hm]; rfl⟩

/-- A run with as much fuel as there are steps ends. -/
theorem Open.run_total (hadj : InRange adj) {fuel : Nat} (h : Open adj s₀ root frames t)
    (hfuel : stepsAhead adj frames t ≤ fuel) : ∃ r, Search.run adj fuel frames t = some r := by
  induction fuel generalizing frames t with
  | zero =>
    cases frames with
    | nil => exact ⟨t, rfl⟩
    | cons f below => simp [stepsAhead] at hfuel
  | succ fuel ih =>
    cases frames with
    | nil => exact ⟨t, rfl⟩
    | cons f below =>
      obtain ⟨frames, r, hstep⟩ := h.step_total hadj
      have hahead := h.stepsAhead_step hstep
      rw [Search.run, hstep]
      exact ih (h.step hstep) (by omega)

end

/-! ## Visits -/

/-- The graph has as many nodes and edges as its nodes need steps. -/
theorem extent_eq_stepsOf (adj : Array (List Nat)) :
    extent adj = stepsOf adj (List.range adj.size) := by
  have hlists : (List.range adj.size).map (adj.getD · []) = adj.toList := by
    refine List.ext_getElem (by simp) fun v hv hv' => ?_
    have hsize : v < adj.size := by simpa using hv'
    simp [Array.getElem?_eq_getElem hsize]
  have hfold : ∀ (nodes : List Nat) (count : Nat),
      (nodes.map (adj.getD · [])).foldl (fun count targets => count + targets.length + 1) count =
        count + stepsOf adj nodes := by
    intro nodes
    induction nodes with
    | nil => intro count; rfl
    | cons v nodes ih =>
      intro count
      rw [List.map_cons, List.foldl_cons, ih, stepsOf, stepsOf, List.flatMap_cons,
        List.length_append, List.length_cons]
      omega
  rw [extent, ← Array.foldl_toList, ← hlists, hfold, Nat.zero_add]

/-- A search that has no frame needs no more steps than the graph has nodes and edges. -/
theorem stepsAhead_nil_le (s : Search) : stepsAhead adj [] s ≤ extent adj := by
  rw [extent_eq_stepsOf, stepsAhead, List.flatMap_nil, List.length_nil, Nat.zero_add]
  exact ((List.filter_sublist).flatMap _).length_le

section
variable {s t : Search} {root fuel : Nat}

/-- A visit follows the edge to an unseen root to its end. -/
theorem visit_explored (hs : s.Valid adj) (hstack : s.stack = [])
    (hroot : s.marks[root]? = some .unseen) (hvisit : visit adj fuel s root = some t) :
    ∃ new low, Explored adj root s new low t := by
  rw [visit, if_pos hroot] at hvisit
  have hmeeting := Meeting.of_mark hs hroot (by rw [hstack]; exact nofun)
  obtain ⟨hexplored⟩ := (Open.first rfl hmeeting hmeeting.following).run hvisit
  exact ⟨_, _, hexplored⟩

/-- A visit ends well if no edge leads outside. -/
theorem visit_total (hadj : InRange adj) (hs : s.Valid adj) (hstack : s.stack = []) (root : Nat) :
    ∃ t, visit adj (extent adj) s root = some t := by
  rw [visit]
  split
  next hroot =>
    have hmeeting := Meeting.of_mark hs hroot (by rw [hstack]; exact nofun)
    refine (Open.first rfl hmeeting hmeeting.following).run_total hadj ?_
    rw [hmeeting.stepsAhead_enter]
    exact stepsAhead_nil_le s
  next => exact ⟨s, rfl⟩

end

end Search

end GoSurvey.Graph
