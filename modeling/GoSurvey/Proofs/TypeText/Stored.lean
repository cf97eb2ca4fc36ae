import Mathlib.Data.Finset.Card
import GoSurvey.Proofs.TypeText.Steps

/-!
# What a cache comes to hold

Rendering an expression renders everything below it first, but an expression that is found is not
looked into, and a full cache takes nothing more. So it is not plain which expressions are stored
in the end. As long as there is room, an expression is stored only when all below it are
(`Closed`), and then a hit leaves nothing out; once there is no room left, there never is any again.
Hence a computation that renders some expressions adds some of them to the cache, and all of them if
there is still room afterwards (`Gains`, `render_adds`). This settles how many texts a cache holds
(`size_renderAll`).
-/

namespace GoSurvey

namespace TypeExpr

mutual
/-- All expressions below an expression, in the order they are written. -/
def parts : TypeExpr → List TypeExpr
  | .ident _ | .literal _ | .unsupported _ => []
  | .pointer t | .slice t | .chan t | .variadic t | .selector t _ => t :: t.parts
  | .map key value => (key :: key.parts) ++ (value :: value.parts)
  | .func params results => partsOfBindings params ++ partsOfBindings results
  | .interface bs | .struct bs => partsOfBindings bs
  | .generic base args => (base :: base.parts) ++ partsOfArgs args

/-- The types of bindings and all below them. The names are no expressions. -/
def partsOfBindings : List (Binding TypeExpr) → List TypeExpr
  | [] => []
  | ⟨_, t⟩ :: bs => (t :: t.parts) ++ partsOfBindings bs

/-- Type arguments and all below them. -/
def partsOfArgs : List TypeExpr → List TypeExpr
  | [] => []
  | t :: ts => (t :: t.parts) ++ partsOfArgs ts
end

end TypeExpr

namespace TypeCache

/-- The expressions that have a text in a cache. -/
def keys (c : TypeCache) : List TypeExpr :=
  c.entries.map (·.1)

/-- As long as there is room in a cache, it holds everything below the expressions it holds. -/
def Closed (c : TypeCache) : Prop :=
  c.size < c.capacity → ∀ t ∈ c.keys, t.parts ⊆ c.keys

/-- Some of the expressions `ts` have been added to a cache, and all of them if there is still room.
Nothing else has been done to it. -/
structure Gains (ts : List TypeExpr) (c c' : TypeCache) : Prop where
  capacity_eq : c'.capacity = c.capacity
  suffix : c.entries <:+ c'.entries
  keys_subset : c'.keys ⊆ ts ++ c.keys
  subset_keys : c'.size < c'.capacity → ts ⊆ c'.keys

section
variable {c c' c'' : TypeCache} {t : TypeExpr} {ts us : List TypeExpr}

theorem closed_empty (capacity : Nat) : (empty capacity).Closed :=
  fun _ => nofun

/-- What is found in a cache is one of its keys. -/
theorem mem_keys_of_find? {text : String} (h : c.find? t = some text) : t ∈ c.keys := by
  obtain ⟨before, after, heq, -⟩ := List.lookup_eq_some_iff.1 h
  rw [keys, heq]
  simp

namespace Gains

theorem refl (c : TypeCache) : Gains [] c c where
  capacity_eq := rfl
  suffix := List.suffix_rfl
  keys_subset := List.Subset.refl _
  subset_keys _ := nofun

/-- Keys stay in a cache. -/
theorem keys_mono (h : Gains ts c c') : c.keys ⊆ c'.keys :=
  (h.suffix.map Prod.fst).subset

/-- If there is room in the end, there was before. -/
theorem hasRoom (h : Gains ts c c') (hroom : c'.size < c'.capacity) : c.size < c.capacity := by
  have hsize : c.size ≤ c'.size := h.suffix.length_le
  rw [← h.capacity_eq]
  exact Nat.lt_of_le_of_lt hsize hroom

theorem trans (h : Gains ts c c') (h' : Gains us c' c'') : Gains (ts ++ us) c c'' where
  capacity_eq := h'.capacity_eq.trans h.capacity_eq
  suffix := h.suffix.trans h'.suffix
  keys_subset u hu := by
    rcases List.mem_append.1 (h'.keys_subset hu) with hu | hu
    · exact List.mem_append_left _ (List.mem_append_right _ hu)
    · rcases List.mem_append.1 (h.keys_subset hu) with hu | hu
      · exact List.mem_append_left _ (List.mem_append_left _ hu)
      · exact List.mem_append_right _ hu
  subset_keys hroom := by
    refine List.append_subset.2 ⟨?_, h'.subset_keys hroom⟩
    exact List.Subset.trans (h.subset_keys (h'.hasRoom hroom)) h'.keys_mono

/-- The order of the expressions does not matter. -/
theorem perm (h : Gains ts c c') (hperm : ts.Perm us) : Gains us c c' where
  capacity_eq := h.capacity_eq
  suffix := h.suffix
  keys_subset := List.Subset.trans h.keys_subset (hperm.append_right _).subset
  subset_keys hroom := List.Subset.trans hperm.symm.subset (h.subset_keys hroom)

end Gains

/-- A cache that holds an expression has nothing to gain from it. -/
theorem Closed.gains_of_mem (hc : c.Closed) (ht : t ∈ c.keys) : Gains (t :: t.parts) c c where
  capacity_eq := rfl
  suffix := List.suffix_rfl
  keys_subset := List.subset_append_right _ _
  subset_keys hroom := List.cons_subset.2 ⟨ht, hc hroom t ht⟩

/-- Storing an expression adds it, and keeps a cache closed if everything below was stored while
there was room. -/
theorem Closed.store (hc : c.Closed) (hparts : c.size < c.capacity → t.parts ⊆ c.keys)
    (text : String) :
    Gains [t] c (c.store t text).2 ∧ (c.store t text).2.Closed := by
  obtain ⟨stored, hfind, heq⟩ | ⟨-, hfull, heq⟩ | ⟨-, hroom, heq⟩ := store_cases c t text
  all_goals rw [heq]
  · have ht := mem_keys_of_find? hfind
    exact ⟨⟨rfl, List.suffix_rfl, List.subset_append_right _ _,
      fun _ => List.cons_subset.2 ⟨ht, nofun⟩⟩, hc⟩
  · exact ⟨⟨rfl, List.suffix_rfl, List.subset_append_right _ _,
      fun hroom => absurd hroom (Nat.not_lt.2 hfull)⟩, hc⟩
  · refine ⟨⟨rfl, List.suffix_cons _ _, List.Subset.refl _,
      fun _ => List.cons_subset.2 ⟨List.mem_cons_self, nofun⟩⟩, fun _ => ?_⟩
    refine List.forall_mem_cons.2 ⟨?_, fun u hu => ?_⟩
    · exact List.subset_cons_of_subset _ (hparts hroom)
    · exact List.subset_cons_of_subset _ (hc hroom u hu)

end

/-! ## Rendering -/

/-- A computation that adds expressions to a cache and keeps it closed. -/
def Adds {α : Type} (m : TypeCache → α × TypeCache) (ts : List TypeExpr) : Prop :=
  ∀ c, c.Closed → Gains ts c (m c).2 ∧ (m c).2.Closed

namespace Adds

section
variable {α β : Type} {m : TypeCache → α × TypeCache} {ts us : List TypeExpr}

theorem pure (a : α) : Adds (fun c => (a, c)) [] :=
  fun c hc => ⟨.refl c, hc⟩

/-- One computation goes on with the value and the cache of another. -/
theorem andThen {next : α → TypeCache → β × TypeCache} (hm : Adds m ts)
    (hnext : ∀ a, Adds (next a) us) : Adds (fun c => next (m c).1 (m c).2) (ts ++ us) := by
  intro c hc
  obtain ⟨hgains, hclosed⟩ := hm c hc
  obtain ⟨hgains', hclosed'⟩ := hnext (m c).1 _ hclosed
  exact ⟨hgains.trans hgains', hclosed'⟩

/-- The order of the expressions does not matter. -/
theorem perm (hm : Adds m ts) (hperm : ts.Perm us) : Adds m us :=
  fun c hc => ⟨(hm c hc).1.perm hperm, (hm c hc).2⟩

/-- Something is made of the value of a computation. -/
theorem map (hm : Adds m ts) (f : α → β) : Adds (fun c => (f (m c).1, (m c).2)) ts :=
  hm

/-- An expression is remembered after all below it. -/
theorem remember {t : TypeExpr} {compute : TypeCache → String × TypeCache}
    (h : Adds compute t.parts) : Adds (fun c => c.remember t compute) (t :: t.parts) := by
  intro c hc
  change Gains _ c (c.remember t compute).2 ∧ (c.remember t compute).2.Closed
  unfold TypeCache.remember
  cases hfind : c.find? t with
  | some stored => exact ⟨hc.gains_of_mem (mem_keys_of_find? hfind), hc⟩
  | none =>
    obtain ⟨hparts, hclosed⟩ := h c hc
    obtain ⟨hself, hclosed'⟩ := hclosed.store hparts.subset_keys (compute c).1
    exact ⟨(hparts.trans hself).perm (List.perm_append_singleton t _), hclosed'⟩

end

end Adds

mutual
/-- Rendering adds an expression and everything below it. -/
theorem render_adds : ∀ t : TypeExpr, Adds (render t) (t :: t.parts)
  | .ident name => .remember (.pure name)
  | .pointer t => .remember ((render_adds t).map ("*" ++ ·))
  | .slice t => .remember ((render_adds t).map ("[]" ++ ·))
  | .map key value => .remember <|
    (render_adds key).andThen fun k => (render_adds value).map fun v => "map[" ++ k ++ "]" ++ v
  | .chan t => .remember ((render_adds t).map ("chan " ++ ·))
  | .func params results => .remember <|
    (renderBindings_adds params).andThen fun ps =>
      (renderBindings_adds results).map (TypeExpr.funcText ps)
  | .interface elems => .remember ((renderBindings_adds elems).map TypeExpr.interfaceText)
  | .struct fields => .remember ((renderBindings_adds fields).map TypeExpr.structText)
  | .literal text => .remember (.pure text)
  | .selector base member => .remember ((render_adds base).map (· ++ "." ++ member))
  | .variadic t => .remember ((render_adds t).map ("..." ++ ·))
  -- The arguments are rendered before the base, after which they are written.
  | .generic base args => .remember <|
    ((renderArgs_adds args).andThen fun as =>
      (render_adds base).map (TypeExpr.genericText · as)).perm List.perm_append_comm
  | .unsupported kind => .remember (.pure ("<" ++ kind ++ ">"))

/-- `render_adds` over the types of bindings. -/
theorem renderBindings_adds : ∀ bs : List (Binding TypeExpr),
    Adds (renderBindings bs) (TypeExpr.partsOfBindings bs)
  | [] => .pure []
  | ⟨_, t⟩ :: bs => (render_adds t).andThen fun s => (renderBindings_adds bs).map (s :: ·)

/-- `render_adds` over type arguments. -/
theorem renderArgs_adds : ∀ ts : List TypeExpr, Adds (renderArgs ts) (TypeExpr.partsOfArgs ts)
  | [] => .pure []
  | t :: ts => (render_adds t).andThen fun s => (renderArgs_adds ts).map (s :: ·)
end

/-- Rendering some expressions one after the other adds them and everything below them. -/
theorem Closed.renderAll {c : TypeCache} (hc : c.Closed) (ts : List TypeExpr) :
    Gains (ts.flatMap fun t => t :: t.parts) c (c.renderAll ts) ∧ (c.renderAll ts).Closed := by
  induction ts generalizing c with
  | nil => exact ⟨.refl c, hc⟩
  | cons t ts ih =>
    obtain ⟨hgains, hclosed⟩ := render_adds t c hc
    obtain ⟨hgains', hclosed'⟩ := ih hclosed
    exact ⟨hgains.trans hgains', hclosed'⟩

/-- **A cache holds all that was rendered, up to its capacity.** Let any expressions be rendered one
after the other with a new cache. The number of its texts is then the number of distinct
expressions among them and below them, or the capacity if that is smaller. -/
theorem size_renderAll (capacity : Nat) (ts : List TypeExpr) :
    ((empty capacity).renderAll ts).size =
      min capacity (ts.flatMap fun t => t :: t.parts).toFinset.card := by
  have hfaithful := (faithful_empty capacity).renderAll ts
  obtain ⟨hgains, -⟩ := (closed_empty capacity).renderAll ts
  generalize (empty capacity).renderAll ts = c at hfaithful hgains
  generalize (ts.flatMap fun t => t :: t.parts) = us at hgains
  have hcapacity : c.capacity = capacity := hgains.capacity_eq
  have hnodup : c.keys.Nodup := hfaithful.nodup_keys
  have hsize : c.size = c.keys.toFinset.card := by
    rw [List.toFinset_card_of_nodup hnodup]
    exact (List.length_map _).symm
  have hle : c.size ≤ us.toFinset.card := by
    rw [hsize]
    refine Finset.card_le_card fun u hu => ?_
    simpa [empty, keys] using hgains.keys_subset (List.mem_toFinset.1 hu)
  refine le_antisymm (le_min (hcapacity ▸ hfaithful.size_le) hle) ?_
  by_cases hroom : c.size < c.capacity
  · -- With room left nothing has been refused, so all expressions are there.
    refine (min_le_right _ _).trans (hsize ▸ Finset.card_le_card fun u hu => ?_)
    exact List.mem_toFinset.2 (hgains.subset_keys hroom (List.mem_toFinset.1 hu))
  · exact (min_le_left _ _).trans (hcapacity ▸ Nat.not_lt.1 hroom)

/-- Bindings that differ in their names alone are different expressions, with the same text. -/
example : ((empty 10).renderAll [.struct [⟨["a"], .pointer (.ident "int")⟩],
    .struct [⟨["b"], .pointer (.ident "int")⟩], .pointer (.ident "int")]).size = 4 := by
  decide

end TypeCache

end GoSurvey
