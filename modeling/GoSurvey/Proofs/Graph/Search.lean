import Mathlib.Data.List.TakeDrop
import GoSurvey.Proofs.Graph.Paths

/-!
# The invariant of the component search

The component search walks the graph depth first. This module says what parts of it leave behind:

* `Search.Valid` is what holds of every state of the search: the marks, the stack and the closed
  components describe the same nodes, an older node of the stack reaches every newer one, and the
  components closed so far are strongly connected layers whose edges lead to earlier layers only
  (`Layered`);
* `Search.Grown` is what a part of the search does to the stack: it leaves the old stack in place
  under some new nodes, whose edges it has all followed;
* `Search.Following` is a search at a node some of whose edges it has followed, and what the number
  says that it keeps for the node; `Search.Explored` is the same for an edge that has been followed
  to its end.

A node is met (`Following.init`), its edges are followed one by one (`Following.step`), and then it
is left (`Following.leave`). The node that closes a component is the one whose edges lead back to
nothing older than itself (`Following.close`).
-/

namespace GoSurvey.Graph

variable {adj : Array (List Nat)}

/-! ## Layers of components -/

/-- Components, the latest first: none is empty, the nodes of each reach each other, and an edge of
a component leads into it or into an earlier one. -/
def Layered (adj : Array (List Nat)) : List (List Nat) → Prop
  | [] => True
  | c :: earlier =>
    (c ≠ [] ∧ (∀ v ∈ c, ∀ w ∈ c, Reach adj v w) ∧
      ∀ v ∈ c, ∀ w, Edge adj v w → w ∈ c ∨ w ∈ earlier.flatten) ∧ Layered adj earlier

/-- No layer is empty. -/
theorem Layered.ne_nil : ∀ {cs : List (List Nat)}, Layered adj cs → ∀ c ∈ cs, c ≠ []
  | _ :: _, h, c, hc => by
    rcases List.mem_cons.1 hc with rfl | hc
    · exact h.1.1
    · exact h.2.ne_nil c hc

/-- An edge of a node in a layer leads to a node in a layer. -/
theorem Layered.edge_mem : ∀ {cs : List (List Nat)}, Layered adj cs →
    ∀ v w, v ∈ cs.flatten → Edge adj v w → w ∈ cs.flatten
  | c :: earlier, h, v, w, hv, hvw => by
    rw [List.flatten_cons, List.mem_append] at hv ⊢
    rcases hv with hv | hv
    · exact h.1.2.2 v hv w hvw
    · exact .inr (h.2.edge_mem v w hv hvw)

/-- A path from a node in a layer leads to a node in a layer. -/
theorem Layered.reach_mem {cs : List (List Nat)} (h : Layered adj cs) {v w : Nat}
    (hvw : Reach adj v w) (hv : v ∈ cs.flatten) : w ∈ cs.flatten :=
  hvw.keeps h.edge_mem hv

/-- If no node is in two layers, a layer holds exactly the nodes that a node of it reaches and that
reach it: a path that leaves a layer never comes back. -/
theorem Layered.mem_iff : ∀ {cs : List (List Nat)}, Layered adj cs → cs.flatten.Nodup →
    ∀ c ∈ cs, ∀ v ∈ c, ∀ w, w ∈ c ↔ Reach adj v w ∧ Reach adj w v
  | c₀ :: earlier, h, hnd, c, hc, v, hv, w => by
    rw [List.flatten_cons, List.nodup_append] at hnd
    rcases List.mem_cons.1 hc with rfl | hc
    · refine ⟨fun hw => ⟨h.1.2.1 v hv w hw, h.1.2.1 w hw v hv⟩, fun ⟨hvw, hwv⟩ => ?_⟩
      have hcs : Layered adj (c :: earlier) := h
      have hmem := hcs.reach_mem hvw (List.mem_append_left _ hv)
      rcases List.mem_append.1 hmem with hw | hw
      · exact hw
      · exact absurd rfl (hnd.2.2 v hv v (h.2.reach_mem hwv hw))
    · exact h.2.mem_iff hnd.2.1 c hc v hv w

/-- If no node is in two layers, a path leads from a layer into itself or into an earlier one, which
stands further back in the list. -/
theorem Layered.le_of_reach : ∀ {cs : List (List Nat)}, Layered adj cs → cs.flatten.Nodup →
    ∀ {i j : Nat} {c d : List Nat}, cs[i]? = some c → cs[j]? = some d →
      ∀ v ∈ c, ∀ w ∈ d, Reach adj v w → i ≤ j
  | c₀ :: earlier, h, hnd, 0, _, _, _, _, _, _, _, _, _, _ => Nat.zero_le _
  | c₀ :: earlier, h, hnd, i + 1, j, c, d, hc, hd, v, hv, w, hw, hvw => by
    rw [List.flatten_cons, List.nodup_append] at hnd
    rw [List.getElem?_cons_succ] at hc
    have hvmem : v ∈ earlier.flatten := List.mem_flatten.2 ⟨c, List.mem_of_getElem? hc, hv⟩
    cases j with
    | zero =>
      -- The path would lead from an earlier layer into the latest one.
      rw [List.getElem?_cons_zero] at hd
      cases hd
      exact absurd rfl (hnd.2.2 w hw w (h.2.reach_mem hvw hvmem))
    | succ j =>
      rw [List.getElem?_cons_succ] at hd
      exact Nat.succ_le_succ (h.2.le_of_reach hnd.2.1 hc hd v hv w hw hvw)

/-- Setting some positions to a value changes no other. -/
theorem getElem?_foldl_setIfInBounds {α : Type} (a : α) (c : List Nat) (xs : Array α) (v : Nat) :
    (c.foldl (fun xs w => xs.setIfInBounds w a) xs)[v]? =
      if v ∈ c ∧ v < xs.size then some a else xs[v]? := by
  induction c generalizing xs with
  | nil => simp
  | cons w c ih =>
    rw [List.foldl_cons, ih, Array.size_setIfInBounds, Array.getElem?_setIfInBounds]
    by_cases hv : v < xs.size <;> by_cases hc : v ∈ c <;> by_cases hw : w = v <;>
      simp_all [eq_comm]

/-- Setting positions keeps the size. -/
theorem size_foldl_setIfInBounds {α : Type} (a : α) (c : List Nat) (xs : Array α) :
    (c.foldl (fun xs w => xs.setIfInBounds w a) xs).size = xs.size := by
  induction c generalizing xs with
  | nil => rfl
  | cons w c ih => rw [List.foldl_cons, ih, Array.size_setIfInBounds]

/-- Distinct numbers below `n` are at most `n` many. -/
theorem length_le_of_nodup {l : List Nat} {n : Nat} (hnd : l.Nodup) (hlt : ∀ v ∈ l, v < n) :
    l.length ≤ n := by
  have hsub : l ⊆ List.range n := fun v hv => List.mem_range.2 (hlt v hv)
  simpa using List.Nodup.length_le_of_subset hnd hsub

namespace Search

/-! ## States of the search -/

/-- A node that the search has met. -/
def Seen (s : Search) (v : Nat) : Prop :=
  v ∈ s.stack ∨ v ∈ s.components.flatten

/-- What holds of every state of the search. -/
structure Valid (adj : Array (List Nat)) (s : Search) : Prop where
  marks_size : s.marks.size = adj.size
  mem_stack : ∀ v : Nat, v ∈ s.stack ↔ ∃ k, s.marks[v]? = some (.onStack k)
  mem_closed : ∀ v : Nat, v ∈ s.components.flatten ↔ s.marks[v]? = some .closed
  number_lt : ∀ v k : Nat, s.marks[v]? = some (.onStack k) → k < s.met
  met_eq : s.met = s.stack.length + s.components.flatten.length
  stack_nodup : s.stack.Nodup
  closed_nodup : s.components.flatten.Nodup
  ascending : s.stack.Pairwise fun newer older => Reach adj older newer
  layered : Layered adj s.components

/-- Nothing is wrong at the start. -/
theorem valid_start (adj : Array (List Nat)) : (start adj.size).Valid adj where
  marks_size := by simp [start]
  mem_stack v := by simp [start, Array.getElem?_replicate]
  mem_closed v := by simp [start, Array.getElem?_replicate]
  number_lt v k h := by simp [start, Array.getElem?_replicate] at h
  met_eq := rfl
  stack_nodup := List.nodup_nil
  closed_nodup := List.nodup_nil
  ascending := List.Pairwise.nil
  layered := trivial

section
variable {s : Search}

/-- A node with a mark is a node of the graph. -/
theorem Valid.lt_of_mark (hs : s.Valid adj) {v : Nat} {m : Mark} (h : s.marks[v]? = some m) :
    v < adj.size := by
  rw [← hs.marks_size]
  exact (Array.getElem?_eq_some_iff.1 h).1

/-- A node met by the search is a node of the graph. -/
theorem Valid.lt_of_seen (hs : s.Valid adj) {v : Nat} (hv : s.Seen v) : v < adj.size := by
  rcases hv with hv | hv
  · obtain ⟨k, hk⟩ := (hs.mem_stack v).1 hv
    exact hs.lt_of_mark hk
  · exact hs.lt_of_mark ((hs.mem_closed v).1 hv)

/-- A node of the stack is not in a closed component. -/
theorem Valid.disjoint (hs : s.Valid adj) {v : Nat} (hv : v ∈ s.stack) :
    v ∉ s.components.flatten := by
  intro hc
  obtain ⟨k, hk⟩ := (hs.mem_stack v).1 hv
  rw [(hs.mem_closed v).1 hc] at hk
  cases hk

/-- The search has met exactly the nodes that are not marked as unseen. -/
theorem Valid.unseen_iff (hs : s.Valid adj) {v : Nat} (hv : v < adj.size) :
    s.marks[v]? = some .unseen ↔ ¬ s.Seen v := by
  rw [Seen, hs.mem_stack, hs.mem_closed]
  have hv' : v < s.marks.size := by rw [hs.marks_size]; exact hv
  rw [Array.getElem?_eq_getElem hv']
  cases s.marks[v] <;> simp

/-- The nodes that the search has met are listed once. -/
theorem Valid.nodup (hs : s.Valid adj) : (s.stack ++ s.components.flatten).Nodup :=
  List.nodup_append.2 ⟨hs.stack_nodup, hs.closed_nodup,
    fun _ hv _ hw hvw => hs.disjoint hv (hvw ▸ hw)⟩

/-- The search meets no more nodes than there are. -/
theorem Valid.met_le (hs : s.Valid adj) : s.met ≤ adj.size := by
  have hlen := length_le_of_nodup hs.nodup fun v hv => hs.lt_of_seen (List.mem_append.1 hv)
  rw [List.length_append, ← hs.met_eq] at hlen
  exact hlen

end

/-! ## Meeting a node -/

section
variable {s : Search} {w : Nat}

/-- Meeting a node changes its mark only. -/
theorem enter_marks_of_ne {v : Nat} (h : v ≠ w) : (s.enter w).marks[v]? = s.marks[v]? := by
  rw [enter, Array.getElem?_setIfInBounds_ne h.symm]

/-- A node that was met is on the stack with the next number. -/
theorem enter_marks_self (hs : s.Valid adj) (hw : w < adj.size) :
    (s.enter w).marks[w]? = some (.onStack s.met) := by
  rw [enter, Array.getElem?_setIfInBounds_self_of_lt]
  rw [hs.marks_size]
  exact hw

/-- The state stays valid when a node is met that every node of the stack reaches. -/
theorem Valid.enter (hs : s.Valid adj) (hw : w < adj.size) (hns : ¬ s.Seen w)
    (hreach : ∀ v ∈ s.stack, Reach adj v w) : (s.enter w).Valid adj where
  marks_size := by rw [Search.enter, Array.size_setIfInBounds, hs.marks_size]
  mem_stack v := by
    by_cases hv : v = w
    · subst hv
      rw [enter_marks_self hs hw]
      simp [Search.enter]
    · rw [enter_marks_of_ne hv, ← hs.mem_stack]
      simp [Search.enter, hv]
  mem_closed v := by
    by_cases hv : v = w
    · subst hv
      rw [enter_marks_self hs hw]
      exact iff_of_false (fun h => hns (.inr h)) (by simp)
    · rw [enter_marks_of_ne hv, ← hs.mem_closed]
      rfl
  number_lt v k h := by
    show k < s.met + 1
    by_cases hv : v = w
    · subst hv
      rw [enter_marks_self hs hw] at h
      cases h
      omega
    · rw [enter_marks_of_ne hv] at h
      have := hs.number_lt v k h
      omega
  met_eq := by
    show s.met + 1 = (w :: s.stack).length + s.components.flatten.length
    rw [List.length_cons, hs.met_eq]
    omega
  stack_nodup := List.nodup_cons.2 ⟨fun h => hns (.inl h), hs.stack_nodup⟩
  closed_nodup := hs.closed_nodup
  ascending := List.pairwise_cons.2 ⟨hreach, hs.ascending⟩
  layered := hs.layered

/-! ## Closing a component -/

/-- A stack is cut below the only place where the node stands. -/
theorem cut_append {new : List Nat} (h : w ∉ new) (rest : List Nat) :
    cut w (new ++ w :: rest) = (new ++ [w], rest) := by
  have hnew : ∀ v ∈ new, (v != w) = true := fun v hv => by
    rw [bne_iff_ne]
    exact fun hvw => h (hvw ▸ hv)
  have hspan : (new ++ w :: rest).span (· != w) = (new, w :: rest) := by
    rw [List.span_eq_takeWhile_dropWhile, List.takeWhile_append_of_pos hnew,
      List.dropWhile_append_of_pos hnew]
    simp
  rw [cut, hspan]
  rfl

section
variable {t : Search} {new rest : List Nat}

/-- A stretch of the stack holds its nodes once, and none of the nodes below it. -/
theorem Valid.nodup_stretch (ht : t.Valid adj) (hst : t.stack = new ++ w :: rest) :
    (new ++ [w]).Nodup ∧ rest.Nodup ∧ ∀ v ∈ new ++ [w], v ∉ rest := by
  have hnd := ht.stack_nodup
  rw [hst, List.append_cons, List.nodup_append] at hnd
  exact ⟨hnd.1, hnd.2.1, fun v hv hr => hnd.2.2 v hv v hr rfl⟩

/-- Closing takes the nodes down to `w` off the stack and makes them a component. -/
theorem Valid.close_eq (ht : t.Valid adj) (hst : t.stack = new ++ w :: rest) :
    t.close w =
      { t with
        marks := (new ++ [w]).foldl (fun marks v => marks.setIfInBounds v .closed) t.marks
        stack := rest
        components := (new ++ [w]) :: t.components } := by
  have hw : w ∉ new := fun hw =>
    (List.nodup_append.1 (ht.nodup_stretch hst).1).2.2 w hw w List.mem_cons_self rfl
  rw [Search.close, hst, cut_append hw]

/-- Closing marks the nodes of the stretch and no other. -/
theorem Valid.close_marks (ht : t.Valid adj) (hst : t.stack = new ++ w :: rest) (v : Nat) :
    (t.close w).marks[v]? = if v ∈ new ++ [w] then some .closed else t.marks[v]? := by
  rw [ht.close_eq hst]
  show (List.foldl _ _ _)[v]? = _
  rw [getElem?_foldl_setIfInBounds]
  by_cases hv : v ∈ new ++ [w]
  · have hmem : v ∈ t.stack := by
      rw [hst, List.append_cons]
      exact List.mem_append_left _ hv
    have hlt := ht.lt_of_seen (.inl hmem)
    rw [← ht.marks_size] at hlt
    rw [if_pos ⟨hv, hlt⟩, if_pos hv]
  · rw [if_neg (fun h => hv h.1), if_neg hv]

/-- The oldest node of a stretch of the stack reaches the whole stretch. -/
theorem Valid.reach_of_stack (ht : t.Valid adj) (hst : t.stack = new ++ w :: rest) :
    ∀ v ∈ new ++ [w], Reach adj w v := by
  intro v hv
  have hasc := ht.ascending
  rw [hst, List.pairwise_append] at hasc
  rcases List.mem_append.1 hv with hv | hv
  · exact hasc.2.2 v hv w List.mem_cons_self
  · cases List.mem_singleton.1 hv
    exact .refl

/-- The state stays valid when a stretch of the stack is closed whose nodes all reach its oldest
node, and whose edges lead into the stretch or into closed components. -/
theorem Valid.close (ht : t.Valid adj) (hst : t.stack = new ++ w :: rest)
    (hback : ∀ v ∈ new ++ [w], Reach adj v w)
    (hedge : ∀ v ∈ new ++ [w], ∀ u, Edge adj v u → u ∈ new ++ [w] ∨ u ∈ t.components.flatten) :
    (t.close w).Valid adj := by
  obtain ⟨hnew, hrest, hdisj⟩ := ht.nodup_stretch hst
  have hclose := ht.close_eq hst
  have hmem : ∀ v, v ∈ t.stack ↔ v ∈ new ++ [w] ∨ v ∈ rest := by
    intro v
    rw [hst, List.append_cons, List.mem_append]
  refine
    { marks_size := ?_, mem_stack := ?_, mem_closed := ?_, number_lt := ?_, met_eq := ?_,
      stack_nodup := ?_, closed_nodup := ?_, ascending := ?_, layered := ?_ }
  · rw [hclose, size_foldl_setIfInBounds, ht.marks_size]
  · intro v
    rw [ht.close_marks hst, hclose]
    split
    next hv => exact iff_of_false (hdisj v hv) (by simp)
    next hv => rw [← ht.mem_stack, hmem, or_iff_right hv]
  · intro v
    rw [ht.close_marks hst, hclose, List.flatten_cons, List.mem_append]
    split
    next hv => exact iff_of_true (.inl hv) rfl
    next hv => rw [← ht.mem_closed, or_iff_right hv]
  · intro v k h
    rw [ht.close_marks hst] at h
    rw [hclose]
    split at h
    next => cases h
    next => exact ht.number_lt v k h
  · rw [hclose]
    show t.met = _
    rw [ht.met_eq, hst]
    simp only [List.length_append, List.length_cons, List.flatten_cons, List.length_nil]
    omega
  · rw [hclose]
    exact hrest
  · rw [hclose, List.flatten_cons, List.nodup_append]
    exact ⟨hnew, ht.closed_nodup,
      fun v hv u hu hvu => ht.disjoint ((hmem v).2 (.inl hv)) (hvu ▸ hu)⟩
  · have hasc := ht.ascending
    rw [hst, List.pairwise_append, List.pairwise_cons] at hasc
    rw [hclose]
    exact hasc.2.1.2
  · rw [hclose]
    refine ⟨⟨by simp, fun v hv u hu => ?_, hedge⟩, ht.layered⟩
    exact (hback v hv).trans (ht.reach_of_stack hst u hu)

end

end

/-! ## What a part of the search does -/

/-- From `s` to `t` the search has put the nodes `new` on the stack and left what was there in
place. All edges of the new nodes have been followed. -/
structure Grown (adj : Array (List Nat)) (s : Search) (new : List Nat) (t : Search) : Prop where
  valid : t.Valid adj
  stack_eq : t.stack = new ++ s.stack
  old : ∀ v ∈ s.stack, t.marks[v]? = s.marks[v]?
  fresh : ∀ v ∈ new, ∀ k, t.marks[v]? = some (.onStack k) → s.met ≤ k
  closed : ∀ v ∈ s.components.flatten, v ∈ t.components.flatten
  met_le : s.met ≤ t.met
  done : ∀ v ∈ new, ∀ w, Edge adj v w → t.Seen w

/-- Following an edge to `w` has led the search from `s` to `t`, and `low` tells the oldest node of
the stack that it got back to. The new nodes all lead to `w`, and if there are any, so does a path
from `w` to a node of the old stack that has the number `low`; no edge that was followed leads to an
older one. -/
structure Explored (adj : Array (List Nat)) (w : Nat) (s : Search) (new : List Nat) (low : Nat)
    (t : Search) : Prop extends Grown adj s new t where
  seen : t.Seen w
  back : ∀ v ∈ new, Reach adj v w
  low_reach : (new = [] ∧ low = adj.size) ∨
    ∃ v ∈ s.stack, s.marks[v]? = some (.onStack low) ∧ Reach adj w v
  low_le : ∀ v k, v = w ∨ (∃ u ∈ new, Edge adj u v) → s.marks[v]? = some (.onStack k) → low ≤ k

/-- The search is at a node `w` that it met in `s`, and has followed all its edges but those to
`todo`. -/
structure Following (adj : Array (List Nat)) (w : Nat) (s : Search) (todo new : List Nat)
    (low : Nat) (t : Search) : Prop extends Grown adj (s.enter w) new t where
  todo_edge : ∀ v ∈ todo, Edge adj w v
  followed : ∀ v, Edge adj w v → v ∈ todo ∨ t.Seen v
  back : ∀ v ∈ new, Reach adj v w
  low_reach : ∃ v ∈ (s.enter w).stack,
    (s.enter w).marks[v]? = some (.onStack low) ∧ Reach adj w v
  low_le : ∀ v k, (Edge adj w v ∧ v ∉ todo) ∨ (∃ u ∈ new, Edge adj u v) →
    (s.enter w).marks[v]? = some (.onStack k) → low ≤ k

section
variable {s t r : Search} {new new' : List Nat} {w : Nat}

/-- A node that was met stays met. -/
theorem Grown.seen_mono (h : Grown adj s new t) {v : Nat} (hv : s.Seen v) : t.Seen v := by
  rcases hv with hv | hv
  · left
    rw [h.stack_eq]
    exact List.mem_append_right _ hv
  · exact .inr (h.closed v hv)

/-- Nothing has happened yet. -/
theorem Grown.refl (hs : s.Valid adj) : Grown adj s [] s where
  valid := hs
  stack_eq := rfl
  old _ _ := rfl
  fresh := nofun
  closed _ hv := hv
  met_le := Nat.le_refl _
  done := nofun

/-- Two parts of the search one after the other. -/
theorem Grown.trans (h : Grown adj s new t) (h' : Grown adj t new' r) :
    Grown adj s (new' ++ new) r where
  valid := h'.valid
  stack_eq := by rw [h'.stack_eq, h.stack_eq, List.append_assoc]
  old v hv := by
    rw [h'.old v (by rw [h.stack_eq]; exact List.mem_append_right _ hv), h.old v hv]
  fresh v hv k hk := by
    rcases List.mem_append.1 hv with hv | hv
    · exact Nat.le_trans h.met_le (h'.fresh v hv k hk)
    · rw [h'.old v (by rw [h.stack_eq]; exact List.mem_append_left _ hv)] at hk
      exact h.fresh v hv k hk
  closed v hv := h'.closed v (h.closed v hv)
  met_le := Nat.le_trans h.met_le h'.met_le
  done v hv u huv := by
    rcases List.mem_append.1 hv with hv | hv
    · exact h'.done v hv u huv
    · exact h'.seen_mono (h.done v hv u huv)

/-! ## Following the edges of a node -/

section
variable {todo : List Nat} {low low' x : Nat}

/-- A node was just met, and none of its edges has been followed. -/
theorem Following.init (hs : s.Valid adj) (hw : w < adj.size) (hns : ¬ s.Seen w)
    (hreach : ∀ v ∈ s.stack, Reach adj v w) :
    Following adj w s (adj.getD w []) [] s.met (s.enter w) where
  toGrown := .refl (hs.enter hw hns hreach)
  todo_edge _ hv := hv
  followed _ hv := .inl hv
  back := nofun
  low_reach := ⟨w, List.mem_cons_self, enter_marks_self hs hw, .refl⟩
  low_le v k h _ := by
    rcases h with ⟨hv, hn⟩ | ⟨u, hu, _⟩
    · exact absurd hv hn
    · cases hu

/-- The number the search got back to is that of a node older than the next one to be met. -/
theorem Following.low_lt (h : Following adj w s todo new low t)
    (hs : (s.enter w).Valid adj) : low ≤ s.met ∧ low < adj.size := by
  obtain ⟨v, -, hv, -⟩ := h.low_reach
  have h1 : low < s.met + 1 := hs.number_lt v low hv
  have h2 : s.met + 1 ≤ adj.size := hs.met_le
  omega

/-- While the edges of `w` are followed, everything on the stack leads to `w`. -/
theorem Following.reach (h : Following adj w s todo new low t)
    (hreach : ∀ v ∈ s.stack, Reach adj v w) : ∀ v ∈ t.stack, Reach adj v w := by
  intro v hv
  rw [h.stack_eq] at hv
  rcases List.mem_append.1 hv with hv | hv
  · exact h.back v hv
  · rcases List.mem_cons.1 hv with rfl | hv
    · exact .refl
    · exact hreach v hv

/-- One more edge of `w` has been followed, to `x`. -/
theorem Following.step (h : Following adj w s (x :: todo) new low t)
    (hs : (s.enter w).Valid adj) (hreach : ∀ v ∈ s.stack, Reach adj v w)
    (hx : Explored adj x t new' low' r) :
    Following adj w s todo (new' ++ new) (min low low') r where
  toGrown := h.toGrown.trans hx.toGrown
  todo_edge v hv := h.todo_edge v (List.mem_cons_of_mem _ hv)
  followed v hv := by
    rcases h.followed v hv with hv | hv
    · rcases List.mem_cons.1 hv with rfl | hv
      · exact .inr hx.seen
      · exact .inl hv
    · exact .inr (hx.seen_mono hv)
  back v hv := by
    rcases List.mem_append.1 hv with hv | hv
    · rcases hx.low_reach with ⟨rfl, -⟩ | ⟨u, hu, -, hxu⟩
      · cases hv
      · exact ((hx.back v hv).trans hxu).trans (h.reach hreach u hu)
    · exact h.back v hv
  low_reach := by
    rcases Nat.le_total low low' with hle | hle
    · rw [Nat.min_eq_left hle]
      exact h.low_reach
    rw [Nat.min_eq_right hle]
    -- The node numbered `low'` is not one of the new ones: their numbers are above that of `w`.
    have hlow := h.low_lt hs
    rcases hx.low_reach with ⟨-, hl⟩ | ⟨v, hv, hvl, hxv⟩
    · omega
    · rw [h.stack_eq] at hv
      rcases List.mem_append.1 hv with hv | hv
      · have : s.met + 1 ≤ low' := h.fresh v hv low' hvl
        omega
      · rw [h.old v hv] at hvl
        exact ⟨v, hv, hvl, .head (h.todo_edge x List.mem_cons_self) hxv⟩
  low_le v k hv hk := by
    have hv_old : v ∈ (s.enter w).stack := (hs.mem_stack v).2 ⟨k, hk⟩
    have hk' : t.marks[v]? = some (.onStack k) := by rw [h.old v hv_old]; exact hk
    rcases hv with ⟨hwv, hvt⟩ | ⟨u, hu, huv⟩
    · by_cases hvx : v = x
      · exact Nat.le_trans (Nat.min_le_right _ _) (hx.low_le v k (.inl hvx) hk')
      · refine Nat.le_trans (Nat.min_le_left _ _) (h.low_le v k (.inl ⟨hwv, ?_⟩) hk)
        rw [List.mem_cons, not_or]
        exact ⟨hvx, hvt⟩
    · rcases List.mem_append.1 hu with hu | hu
      · exact Nat.le_trans (Nat.min_le_right _ _) (hx.low_le v k (.inr ⟨u, hu, huv⟩) hk')
      · exact Nat.le_trans (Nat.min_le_left _ _) (h.low_le v k (.inr ⟨u, hu, huv⟩) hk)

/-- The stack below `w` is untouched while the edges of `w` are followed. -/
theorem Following.stack_split (h : Following adj w s todo new low t) :
    t.stack = new ++ w :: s.stack :=
  h.stack_eq

/-- The mark of a node below `w` is untouched while the edges of `w` are followed. -/
theorem Following.old_below (h : Following adj w s todo new low t) (hns : ¬ s.Seen w) :
    ∀ v ∈ s.stack, t.marks[v]? = s.marks[v]? := by
  intro v hv
  rw [h.old v (List.mem_cons_of_mem _ hv), enter_marks_of_ne]
  rintro rfl
  exact hns (.inl hv)

/-- `w` and the new nodes lead to `w`. -/
theorem Following.back_all (h : Following adj w s todo new low t) :
    ∀ v ∈ new ++ [w], Reach adj v w := by
  intro v hv
  rcases List.mem_append.1 hv with hv | hv
  · exact h.back v hv
  · cases List.mem_singleton.1 hv
    exact .refl

/-- The edges of `w` and of the new nodes lead to nodes that have been met. -/
theorem Following.done_all (h : Following adj w s [] new low t) :
    ∀ v ∈ new ++ [w], ∀ u, Edge adj v u → t.Seen u := by
  intro v hv u hvu
  rcases List.mem_append.1 hv with hv | hv
  · exact h.done v hv u hvu
  · cases List.mem_singleton.1 hv
    exact (h.followed u hvu).resolve_left nofun

/-- No edge of `w` or of a new node leads to a node of the old stack older than `low`. -/
theorem Following.low_le_all (h : Following adj w s [] new low t) (hns : ¬ s.Seen w)
    (hs : s.Valid adj) :
    ∀ v ∈ new ++ [w], ∀ u k, Edge adj v u → s.marks[u]? = some (.onStack k) → low ≤ k := by
  intro v hv u k hvu hk
  have hne : u ≠ w := by
    rintro rfl
    exact hns (.inl ((hs.mem_stack u).2 ⟨k, hk⟩))
  refine h.low_le u k ?_ (by rw [enter_marks_of_ne hne]; exact hk)
  rcases List.mem_append.1 hv with hv | hv
  · exact .inr ⟨v, hv, hvu⟩
  · cases List.mem_singleton.1 hv
    exact .inl ⟨hvu, nofun⟩

/-- A search that got back to nothing older than `w` closes a component. -/
theorem Following.close (h : Following adj w s [] new s.met t) (hs : s.Valid adj)
    (hns : ¬ s.Seen w) : Explored adj w s [] adj.size (t.close w) := by
  have hst := h.stack_split
  have hedge : ∀ v ∈ new ++ [w], ∀ u, Edge adj v u →
      u ∈ new ++ [w] ∨ u ∈ t.components.flatten := by
    intro v hv u hvu
    rcases h.done_all v hv u hvu with hu | hu
    · rw [hst, List.append_cons, List.mem_append] at hu
      refine hu.imp_right fun hu => ?_
      -- A target below `w` is older than `w`, but the search got back to nothing older.
      obtain ⟨k, hk⟩ := (hs.mem_stack u).1 hu
      have h1 := h.low_le_all hns hs v hv u k hvu hk
      have h2 := hs.number_lt u k hk
      omega
    · exact .inr hu
  have hvalid := h.valid.close hst h.back_all hedge
  have hmem : w ∈ new ++ [w] := List.mem_append_right _ List.mem_cons_self
  have hclose := h.valid.close_eq hst
  refine
    { valid := hvalid, stack_eq := ?_, old := ?_, fresh := nofun, closed := ?_, met_le := ?_,
      done := nofun, seen := ?_, back := nofun, low_reach := .inl ⟨rfl, rfl⟩, low_le := ?_ }
  · rw [hclose]
    rfl
  · intro v hv
    have hvn : v ∉ new ++ [w] := fun hv' => (h.valid.nodup_stretch hst).2.2 v hv' hv
    rw [h.valid.close_marks hst, if_neg hvn, h.old_below hns v hv]
  · intro v hv
    rw [hclose, List.flatten_cons]
    exact List.mem_append_right _ (h.closed v hv)
  · rw [hclose]
    exact Nat.le_of_succ_le h.met_le
  · right
    rw [hclose, List.flatten_cons]
    exact List.mem_append_left _ hmem
  · rintro v k (rfl | ⟨u, hu, -⟩) hk
    · exact absurd (.inl ((hs.mem_stack v).2 ⟨k, hk⟩)) hns
    · cases hu

/-- A search that got back to something older than `w` leaves `w` on the stack. -/
theorem Following.keep (h : Following adj w s [] new low t) (hs : s.Valid adj)
    (hns : ¬ s.Seen w) (hw : w < adj.size) (hlow : low ≠ s.met) :
    Explored adj w s (new ++ [w]) low t where
  valid := h.valid
  stack_eq := by rw [h.stack_split, List.append_cons]
  old := h.old_below hns
  fresh v hv k hk := by
    rcases List.mem_append.1 hv with hv | hv
    · exact Nat.le_of_succ_le (h.fresh v hv k hk)
    · cases List.mem_singleton.1 hv
      rw [h.old w List.mem_cons_self, enter_marks_self hs hw] at hk
      cases hk
      exact Nat.le_refl _
  closed := h.closed
  met_le := Nat.le_of_succ_le h.met_le
  done := h.done_all
  seen := by
    left
    rw [h.stack_split]
    exact List.mem_append_right _ List.mem_cons_self
  back := h.back_all
  low_reach := by
    obtain ⟨v, hv, hvl, hwv⟩ := h.low_reach
    right
    rcases List.mem_cons.1 hv with rfl | hv
    · rw [enter_marks_self hs hw] at hvl
      cases hvl
      exact absurd rfl hlow
    · have hne : v ≠ w := fun hvw => hns (.inl (hvw ▸ hv))
      rw [enter_marks_of_ne hne] at hvl
      exact ⟨v, hv, hvl, hwv⟩
  low_le v k hv hk := by
    rcases hv with rfl | ⟨u, hu, huv⟩
    · exact absurd (.inl ((hs.mem_stack v).2 ⟨k, hk⟩)) hns
    · exact h.low_le_all hns hs u hu v k huv hk

/-- After all its edges `w` is left: closed with all above it, or kept for an older node. -/
theorem Following.leave (h : Following adj w s [] new low t) (hs : s.Valid adj)
    (hns : ¬ s.Seen w) (hw : w < adj.size) :
    ∃ new' low', Explored adj w s new' low' (if low = s.met then t.close w else t) ∧
      (low' = low ∨ low = s.met ∧ low' = adj.size) := by
  by_cases hlow : low = s.met
  · subst hlow
    rw [if_pos rfl]
    exact ⟨[], adj.size, h.close hs hns, .inr ⟨rfl, rfl⟩⟩
  · rw [if_neg hlow]
    exact ⟨new ++ [w], low, h.keep hs hns hw hlow, .inl rfl⟩

end

end

/-! ## Edges that need no search -/

/-- A node that is on the stack is explored by telling its number. -/
theorem Explored.ofStack {s : Search} {w k : Nat} (hs : s.Valid adj)
    (hw : s.marks[w]? = some (.onStack k)) : Explored adj w s [] k s where
  toGrown := .refl hs
  seen := .inl ((hs.mem_stack w).2 ⟨k, hw⟩)
  back := nofun
  low_reach := .inr ⟨w, (hs.mem_stack w).2 ⟨k, hw⟩, hw, .refl⟩
  low_le v j h hj := by
    rcases h with rfl | ⟨u, hu, -⟩
    · rw [hw] at hj
      cases hj
      exact Nat.le_refl _
    · cases hu

/-- A node of a closed component needs no exploring. -/
theorem Explored.ofClosed {s : Search} {w : Nat} (hs : s.Valid adj)
    (hw : s.marks[w]? = some .closed) : Explored adj w s [] adj.size s where
  toGrown := .refl hs
  seen := .inr ((hs.mem_closed w).2 hw)
  back := nofun
  low_reach := .inl ⟨rfl, rfl⟩
  low_le v j h hj := by
    rcases h with rfl | ⟨u, hu, -⟩
    · rw [hw] at hj
      cases hj
    · cases hu

end Search

end GoSurvey.Graph
