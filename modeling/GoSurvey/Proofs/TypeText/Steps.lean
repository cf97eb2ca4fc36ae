import Mathlib.Data.List.Nodup
import GoSurvey.TypeText.Cache

/-!
# Rendering step by step

A call of the renderer has hold of the cache at moments only: when it looks an expression up, and,
if that fails, when it stores the text that it has made of the texts of the parts. `Call.render` is
a call as these steps; carried out without a pause it is `TypeCache.render` (`render_stepwise`). In
between, others may have used the cache. This does no harm as long as the cache is faithful: it
holds, for each expression in it, the text that rendering afresh gives. Every step of a call keeps
it so and comes closer to the text that rendering afresh gives (`Call.Ends.step`), whatever was
stored in the meantime. For a call without a pause this says that the cache never changes a text
(`render_returns`).
-/

namespace GoSurvey.TypeCache

/-! ## Faithful caches -/

/-- A cache of texts that rendering afresh gives, too, with one text for an expression. -/
structure Faithful (c : TypeCache) : Prop where
  text_eq : ∀ e ∈ c.entries, e.2 = e.1.render
  nodup_keys : (c.entries.map (·.1)).Nodup
  size_le : c.size ≤ c.capacity

/-- A cache of the same capacity in which all that was found before is still found. -/
structure Extends (c' c : TypeCache) : Prop where
  capacity_eq : c'.capacity = c.capacity
  find?_eq : ∀ t text, c.find? t = some text → c'.find? t = some text

section
variable {c c' c'' : TypeCache} {t : TypeExpr} {text : String}

/-- A new cache is faithful. -/
theorem faithful_empty (capacity : Nat) : (empty capacity).Faithful where
  text_eq := nofun
  nodup_keys := .nil
  size_le := Nat.zero_le _

theorem Extends.refl (c : TypeCache) : c.Extends c :=
  ⟨rfl, fun _ _ h => h⟩

theorem Extends.trans (h : c''.Extends c') (h' : c'.Extends c) : c''.Extends c :=
  ⟨h.capacity_eq.trans h'.capacity_eq, fun t text hf => h.find?_eq t text (h'.find?_eq t text hf)⟩

/-- A text that is found is the text of its expression. -/
theorem Faithful.find?_eq (hc : c.Faithful) (h : c.find? t = some text) : text = t.render := by
  obtain ⟨before, after, heq, -⟩ := List.lookup_eq_some_iff.1 h
  refine hc.text_eq (t, text) ?_
  rw [heq]
  exact List.mem_append_right _ List.mem_cons_self

/-- All that storing a text can do: nothing if the expression has a text or the cache is full, and
otherwise it adds an entry. -/
theorem store_cases (c : TypeCache) (t : TypeExpr) (text : String) :
    (∃ stored, c.find? t = some stored ∧ c.store t text = (stored, c)) ∨
    (c.find? t = none ∧ c.capacity ≤ c.size ∧ c.store t text = (text, c)) ∨
    (c.find? t = none ∧ c.size < c.capacity ∧
      c.store t text = (text, { c with entries := (t, text) :: c.entries })) := by
  unfold store
  cases hfind : c.find? t with
  | some stored => exact .inl ⟨stored, rfl, rfl⟩
  | none =>
    by_cases hsize : c.size < c.capacity
    · exact .inr (.inr ⟨rfl, hsize, by simp [hsize]⟩)
    · exact .inr (.inl ⟨rfl, Nat.le_of_not_lt hsize, by simp [hsize]⟩)

/-- Storing the text of an expression gives that text and keeps a cache faithful. -/
theorem Faithful.store (hc : c.Faithful) (t : TypeExpr) :
    (c.store t t.render).1 = t.render ∧ (c.store t t.render).2.Faithful := by
  obtain ⟨stored, hfind, heq⟩ | ⟨-, -, heq⟩ | ⟨hfind, hsize, heq⟩ := store_cases c t t.render
  all_goals rw [heq]
  · exact ⟨hc.find?_eq hfind, hc⟩
  · exact ⟨rfl, hc⟩
  · refine ⟨rfl, ⟨?_, ?_, hsize⟩⟩
    · exact List.forall_mem_cons.2 ⟨rfl, hc.text_eq⟩
    · refine List.nodup_cons.2 ⟨fun hmem => ?_, hc.nodup_keys⟩
      obtain ⟨e, he, rfl⟩ := List.mem_map.1 hmem
      simpa using List.lookup_eq_none_iff.1 hfind e he

/-- Storing a text takes nothing away. -/
theorem extends_store (c : TypeCache) (t : TypeExpr) (text : String) :
    (c.store t text).2.Extends c := by
  obtain ⟨_, -, heq⟩ | ⟨-, -, heq⟩ | ⟨hfind, -, heq⟩ := store_cases c t text
  all_goals rw [heq]
  · exact .refl c
  · exact .refl c
  · refine ⟨rfl, fun u stored hu => ?_⟩
    have hne : (u == t) = false := by
      refine beq_false_of_ne fun h => ?_
      rw [h, hfind] at hu
      cases hu
    simpa [find?, List.lookup_cons, hne] using hu

end

/-! ## Calls as steps -/

/-- What is left to do of a call: it returns a text, or it asks the cache and goes on by the
answer. -/
inductive Call where
  | done (text : String)
  | find (t : TypeExpr) (next : Option String → Call)
  | store (t : TypeExpr) (text : String) (next : String → Call)

namespace Call

/-- Looks an expression up, and computes and stores its text if that fails. The text is given to
`k`. -/
def remember (t : TypeExpr) (compute : (String → Call) → Call) (k : String → Call) : Call :=
  .find t fun
    | some stored => k stored
    | none => compute fun text => .store t text k

mutual
/-- The steps to the text of an expression, which is given to `k`. -/
def render : TypeExpr → (String → Call) → Call
  | .ident name => remember (.ident name) fun k => k name
  | .pointer t => remember (.pointer t) fun k => render t fun s => k ("*" ++ s)
  | .slice t => remember (.slice t) fun k => render t fun s => k ("[]" ++ s)
  | .map key value => remember (.map key value) fun k =>
    render key fun s => render value fun s' => k ("map[" ++ s ++ "]" ++ s')
  | .chan t => remember (.chan t) fun k => render t fun s => k ("chan " ++ s)
  | .func params results => remember (.func params results) fun k =>
    renderBindings params fun ps => renderBindings results fun rs => k (TypeExpr.funcText ps rs)
  | .interface elems => remember (.interface elems) fun k =>
    renderBindings elems fun es => k (TypeExpr.interfaceText es)
  | .struct fields => remember (.struct fields) fun k =>
    renderBindings fields fun fs => k (TypeExpr.structText fs)
  | .literal text => remember (.literal text) fun k => k text
  | .selector base member => remember (.selector base member) fun k =>
    render base fun s => k (s ++ "." ++ member)
  | .variadic t => remember (.variadic t) fun k => render t fun s => k ("..." ++ s)
  | .generic base args => remember (.generic base args) fun k =>
    renderArgs args fun as => render base fun b => k (TypeExpr.genericText b as)
  | .unsupported kind => remember (.unsupported kind) fun k => k ("<" ++ kind ++ ">")

/-- `render` over the types of bindings, from left to right. -/
def renderBindings : List (Binding TypeExpr) → (List String → Call) → Call
  | [], k => k []
  | ⟨_, t⟩ :: bs, k => render t fun s => renderBindings bs fun ss => k (s :: ss)

/-- `render` over type arguments, from left to right. -/
def renderArgs : List TypeExpr → (List String → Call) → Call
  | [], k => k []
  | t :: ts, k => render t fun s => renderArgs ts fun ss => k (s :: ss)
end

/-- One step: what is asked is answered at once. -/
def step : Call → TypeCache → Call × TypeCache
  | .done text, c => (.done text, c)
  | .find t next, c => (next (c.find? t), c)
  | .store t text next, c => (next (c.store t text).1, (c.store t text).2)

/-- All steps without a pause. -/
def run : Call → TypeCache → String × TypeCache
  | .done text, c => (text, c)
  | .find t next, c => (next (c.find? t)).run c
  | .store t text next, c => (next (c.store t text).1).run (c.store t text).2

/-- A call that returns a certain text if it finds nothing or what rendering afresh gives. It stores
nothing else itself. -/
def Ends (goal : String) : Call → Prop
  | .done text => text = goal
  | .find t next => (next none).Ends goal ∧ (next (some t.render)).Ends goal
  | .store t text next => text = t.render ∧ (next t.render).Ends goal

section
variable {call : Call} {goal : String} {c : TypeCache}

/-- One step of a call keeps a cache faithful and takes nothing away from it, and what is left of
the call ends as the call does. -/
theorem Ends.step (h : call.Ends goal) (hc : c.Faithful) :
    (call.step c).1.Ends goal ∧ (call.step c).2.Faithful ∧ (call.step c).2.Extends c := by
  cases call with
  | done text => exact ⟨h, hc, .refl c⟩
  | find t next =>
    refine ⟨?_, hc, .refl c⟩
    change (next (c.find? t)).Ends goal
    cases hfind : c.find? t with
    | none => exact h.1
    | some text => exact hc.find?_eq hfind ▸ h.2
  | store t text next =>
    obtain ⟨rfl, hnext⟩ := h
    obtain ⟨htext, hcache⟩ := hc.store t
    refine ⟨?_, hcache, extends_store c t t.render⟩
    change (next (c.store t t.render).1).Ends goal
    rwa [htext]

/-- A call that is carried out without a pause ends with its text. -/
theorem Ends.run (h : call.Ends goal) (hc : c.Faithful) :
    (call.run c).1 = goal ∧ (call.run c).2.Faithful := by
  induction call generalizing c with
  | done text => exact ⟨h, hc⟩
  | find t next ih =>
    obtain ⟨hnext, hcache, -⟩ := h.step hc
    exact ih _ hnext hcache
  | store t text next ih =>
    obtain ⟨hnext, hcache, -⟩ := h.step hc
    exact ih _ hnext hcache

end

end Call

/-! ## Rendering -/

/-- A computation with a cache and the same as steps, which lead to a certain value. -/
structure Stepwise {α : Type} (m : TypeCache → α × TypeCache) (steps : (α → Call) → Call) (a : α) :
    Prop where
  run_eq : ∀ k c, (steps k).run c = (k (m c).1).run (m c).2
  ends : ∀ k goal, (k a).Ends goal → (steps k).Ends goal

namespace Stepwise

section
variable {α β : Type} {m : TypeCache → α × TypeCache} {steps : (α → Call) → Call} {a : α}

/-- Nothing is done to the cache. -/
theorem pure (a : α) : Stepwise (fun c => (a, c)) (fun k => k a) a :=
  ⟨fun _ _ => rfl, fun _ _ h => h⟩

/-- One computation goes on with the value and the cache of another. -/
theorem andThen {next : α → TypeCache → β × TypeCache} {more : α → (β → Call) → Call}
    {f : α → β} (h : Stepwise m steps a) (hnext : ∀ x, Stepwise (next x) (more x) (f x)) :
    Stepwise (fun c => next (m c).1 (m c).2) (fun k => steps fun x => more x k) (f a) where
  run_eq k c := by rw [h.run_eq, (hnext _).run_eq]
  ends k goal hk := h.ends _ goal ((hnext a).ends k goal hk)

/-- Something is made of the value of a computation. -/
theorem map (h : Stepwise m steps a) (f : α → β) :
    Stepwise (fun c => (f (m c).1, (m c).2)) (fun k => steps fun x => k (f x)) (f a) :=
  h.andThen fun x => pure (f x)

/-- A computation of the text of an expression is remembered. -/
theorem remember {t : TypeExpr} {compute : TypeCache → String × TypeCache}
    {steps : (String → Call) → Call} (h : Stepwise compute steps t.render) :
    Stepwise (fun c => c.remember t compute) (Call.remember t steps) t.render where
  run_eq k c := by
    simp only [Call.remember, Call.run, TypeCache.remember]
    cases c.find? t with
    | some stored => rfl
    | none => exact h.run_eq _ c
  ends k goal hk := ⟨h.ends _ goal ⟨rfl, hk⟩, hk⟩

end

end Stepwise

mutual
/-- The renderer takes the steps of `Call.render`, which lead to the text that rendering afresh
gives. -/
theorem render_stepwise : ∀ t : TypeExpr, Stepwise (render t) (Call.render t) t.render
  | .ident name => .remember (.pure name)
  | .pointer t => .remember ((render_stepwise t).map ("*" ++ ·))
  | .slice t => .remember ((render_stepwise t).map ("[]" ++ ·))
  | .map key value => .remember <|
    (render_stepwise key).andThen fun k =>
      (render_stepwise value).map fun v => "map[" ++ k ++ "]" ++ v
  | .chan t => .remember ((render_stepwise t).map ("chan " ++ ·))
  | .func params results => .remember <|
    (renderBindings_stepwise params).andThen fun ps =>
      (renderBindings_stepwise results).map (TypeExpr.funcText ps)
  | .interface elems => .remember ((renderBindings_stepwise elems).map TypeExpr.interfaceText)
  | .struct fields => .remember ((renderBindings_stepwise fields).map TypeExpr.structText)
  | .literal text => .remember (.pure text)
  | .selector base member => .remember ((render_stepwise base).map (· ++ "." ++ member))
  | .variadic t => .remember ((render_stepwise t).map ("..." ++ ·))
  | .generic base args => .remember <|
    (renderArgs_stepwise args).andThen fun as =>
      (render_stepwise base).map (TypeExpr.genericText · as)
  | .unsupported kind => .remember (.pure ("<" ++ kind ++ ">"))

/-- `render_stepwise` over the types of bindings. -/
theorem renderBindings_stepwise : ∀ bs : List (Binding TypeExpr),
    Stepwise (renderBindings bs) (Call.renderBindings bs) (TypeExpr.renderBindings bs)
  | [] => .pure []
  | ⟨_, t⟩ :: bs => (render_stepwise t).andThen fun s => (renderBindings_stepwise bs).map (s :: ·)

/-- `render_stepwise` over type arguments. -/
theorem renderArgs_stepwise : ∀ ts : List TypeExpr,
    Stepwise (renderArgs ts) (Call.renderArgs ts) (TypeExpr.renderArgs ts)
  | [] => .pure []
  | t :: ts => (render_stepwise t).andThen fun s => (renderArgs_stepwise ts).map (s :: ·)
end

/-- The steps of a call end with the text that rendering afresh gives. -/
theorem Call.render_ends (t : TypeExpr) : (Call.render t .done).Ends t.render :=
  (render_stepwise t).ends .done _ rfl

/-- The steps of a call without a pause are the call. -/
theorem Call.render_run (t : TypeExpr) (c : TypeCache) :
    (Call.render t .done).run c = TypeCache.render t c :=
  (render_stepwise t).run_eq .done c

/-- Rendering with a faithful cache gives the same text as rendering afresh, and leaves a faithful
cache behind. -/
theorem render_returns (t : TypeExpr) {c : TypeCache} (hc : c.Faithful) :
    (render t c).1 = t.render ∧ (render t c).2.Faithful := by
  rw [← Call.render_run]
  exact (Call.render_ends t).run hc

/-- A cache after some expressions have been rendered one after the other. -/
def renderAll (c : TypeCache) (ts : List TypeExpr) : TypeCache :=
  ts.foldl (fun c t => (render t c).2) c

/-- Rendering any number of expressions keeps a cache faithful. -/
theorem Faithful.renderAll {c : TypeCache} (hc : c.Faithful) (ts : List TypeExpr) :
    (c.renderAll ts).Faithful := by
  induction ts generalizing c with
  | nil => exact hc
  | cons t ts ih => exact ih (render_returns t hc).2

/-- Rendering in two parts. -/
theorem renderAll_append (c : TypeCache) (ts more : List TypeExpr) :
    c.renderAll (ts ++ more) = (c.renderAll ts).renderAll more :=
  List.foldl_append

end GoSurvey.TypeCache
