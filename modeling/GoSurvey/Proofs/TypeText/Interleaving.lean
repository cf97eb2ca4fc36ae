import Mathlib.Logic.Function.Iterate
import GoSurvey.Proofs.TypeText.Steps

/-!
# Workers that share a cache

Any number of workers render expressions with one cache, each of them one expression after the
other. They take turns in any order, and between two steps of a call the others may have looked up,
stored and filled the cache as they like. A worker is on track if its answers are the texts of the
calls it has made and its present call will end with the text of its expression. A step of one
worker keeps all of them on track and the cache faithful (`System.Sound.step`), and so does every
run (`System.Sound.run`). A worker that is left alone makes its calls as `TypeCache.render` does
(`Worker.alone_all`).
-/

namespace GoSurvey.TypeCache

/-- A worker: the expressions it has yet to render, what is left of its present call, and the texts
that its calls have returned so far. -/
structure Worker where
  waiting : List TypeExpr
  present : Option Call
  answers : List String

namespace Worker

/-- One step: a worker begins its next call, goes on with its present call, or notes what that has
returned. -/
def step (w : Worker) (c : TypeCache) : Worker × TypeCache :=
  match w.present, w.waiting with
  | none, [] => (w, c)
  | none, t :: ts => (⟨ts, some (Call.render t .done), w.answers⟩, c)
  | some (.done text), ts => (⟨ts, none, w.answers ++ [text]⟩, c)
  | some call, ts => (⟨ts, some (call.step c).1, w.answers⟩, (call.step c).2)

/-- A worker has returned the right texts for the first of some expressions, and will do so for
the one it is at; the others are still waiting. -/
inductive OnTrack (ts : List TypeExpr) : Worker → Prop
  | idle {before after : List TypeExpr} : ts = before ++ after →
      OnTrack ts ⟨after, none, before.map (·.render)⟩
  | busy {before after : List TypeExpr} {t : TypeExpr} {call : Call} :
      ts = before ++ t :: after → call.Ends t.render →
      OnTrack ts ⟨after, some call, before.map (·.render)⟩

section
variable {ts : List TypeExpr} {w : Worker} {c : TypeCache}

/-- The answers of a worker on track are the texts of its first expressions. -/
theorem OnTrack.prefix_answers (h : OnTrack ts w) : w.answers <+: ts.map (·.render) := by
  cases h with
  | idle hts | busy hts _ =>
    rw [hts, List.map_append]
    exact List.prefix_append _ _

/-- A step of a worker on track keeps it there. It keeps a cache faithful and takes nothing away
from it. -/
theorem OnTrack.step (h : OnTrack ts w) (hc : c.Faithful) :
    OnTrack ts (w.step c).1 ∧ (w.step c).2.Faithful ∧ (w.step c).2.Extends c := by
  cases h with
  | @idle before after hts =>
    cases after with
    | nil => exact ⟨.idle hts, hc, .refl c⟩
    | cons t after => exact ⟨.busy hts (Call.render_ends t), hc, .refl c⟩
  | @busy before after t call hts hends =>
    obtain ⟨hnext, hcache, hextends⟩ := hends.step hc
    cases call with
    | done text =>
      refine ⟨?_, hc, .refl c⟩
      have htext : before.map (·.render) ++ [text] = (before ++ [t]).map (·.render) := by
        rw [List.map_append, List.map_singleton, show text = t.render from hends]
      change OnTrack ts ⟨after, none, before.map (·.render) ++ [text]⟩
      rw [htext]
      exact .idle (by rw [hts, List.append_assoc]; rfl)
    | find u next => exact ⟨.busy hts hnext, hcache, hextends⟩
    | store u text next => exact ⟨.busy hts hnext, hcache, hextends⟩

end

end Worker

/-- Workers that share a cache. -/
structure System (ι : Type) where
  cache : TypeCache
  workers : ι → Worker

namespace System

variable {ι : Type}

/-- Workers with their expressions at a new cache. -/
def start (capacity : Nat) (calls : ι → List TypeExpr) : System ι :=
  ⟨.empty capacity, fun i => ⟨calls i, none, []⟩⟩

variable [DecidableEq ι]

/-- One worker takes a step. -/
def step (s : System ι) (i : ι) : System ι :=
  ⟨((s.workers i).step s.cache).2, Function.update s.workers i ((s.workers i).step s.cache).1⟩

/-- Workers take steps in the given order. -/
def run (s : System ι) (schedule : List ι) : System ι :=
  schedule.foldl step s

/-- All workers are on track, and the cache is faithful. -/
structure Sound (capacity : Nat) (calls : ι → List TypeExpr) (s : System ι) : Prop where
  faithful : s.cache.Faithful
  capacity_eq : s.cache.capacity = capacity
  onTrack : ∀ i, (s.workers i).OnTrack (calls i)

section
variable {capacity : Nat} {calls : ι → List TypeExpr} {s : System ι}

omit [DecidableEq ι] in
theorem sound_start (capacity : Nat) (calls : ι → List TypeExpr) :
    Sound capacity calls (start capacity calls) where
  faithful := faithful_empty capacity
  capacity_eq := rfl
  onTrack i := @Worker.OnTrack.idle (calls i) [] (calls i) rfl

/-- A step of one worker leaves the others as they are. -/
theorem Sound.step (h : Sound capacity calls s) (i : ι) :
    Sound capacity calls (s.step i) ∧ (s.step i).cache.Extends s.cache := by
  obtain ⟨hworker, hcache, hextends⟩ := (h.onTrack i).step h.faithful
  refine ⟨⟨hcache, hextends.capacity_eq.trans h.capacity_eq, fun j => ?_⟩, hextends⟩
  by_cases hj : j = i
  · subst hj
    simpa only [System.step, Function.update_self] using hworker
  · simpa only [System.step, Function.update_of_ne hj] using h.onTrack j

/-- Every run keeps the workers on track and the cache faithful, and takes nothing away from the
cache. -/
theorem Sound.run (h : Sound capacity calls s) (schedule : List ι) :
    Sound capacity calls (s.run schedule) ∧ (s.run schedule).cache.Extends s.cache := by
  induction schedule generalizing s with
  | nil => exact ⟨h, .refl _⟩
  | cons i schedule ih =>
    obtain ⟨hstep, hextends⟩ := h.step i
    obtain ⟨hrun, hextends'⟩ := ih hstep
    exact ⟨hrun, hextends'.trans hextends⟩

end

end System

/-! ## A worker left alone -/

namespace Worker

/-- One step of a worker that has a cache for itself. -/
def stepAlone (p : Worker × TypeCache) : Worker × TypeCache :=
  p.1.step p.2

/-- A worker that is left alone brings its present call to its end. -/
theorem alone_call (ts : List TypeExpr) (answers : List String) (call : Call) (c : TypeCache) :
    ∃ n, stepAlone^[n] (⟨ts, some call, answers⟩, c) =
      (⟨ts, none, answers ++ [(call.run c).1]⟩, (call.run c).2) := by
  induction call generalizing c with
  | done text => exact ⟨1, rfl⟩
  | find t next ih =>
    obtain ⟨n, hn⟩ := ih (c.find? t) c
    exact ⟨n + 1, hn⟩
  | store t text next ih =>
    obtain ⟨n, hn⟩ := ih (c.store t text).1 (c.store t text).2
    exact ⟨n + 1, hn⟩

/-- A worker that is left alone renders its expressions one after the other. -/
theorem alone_all (ts : List TypeExpr) (answers : List String) {c : TypeCache} (hc : c.Faithful) :
    ∃ n, stepAlone^[n] (⟨ts, none, answers⟩, c) =
      (⟨[], none, answers ++ ts.map (·.render)⟩, c.renderAll ts) := by
  induction ts generalizing answers c with
  | nil => exact ⟨0, by simp [renderAll]⟩
  | cons t ts ih =>
    obtain ⟨htext, hcache⟩ := render_returns t hc
    obtain ⟨n, hn⟩ := alone_call ts answers (Call.render t .done) c
    rw [Call.render_run, htext] at hn
    obtain ⟨m, hm⟩ := ih (answers ++ [t.render]) hcache
    refine ⟨m + (n + 1), ?_⟩
    rw [Function.iterate_add_apply]
    -- The first step begins the call, and `n` steps bring it to its end.
    change stepAlone^[m] (stepAlone^[n] (⟨ts, some (Call.render t .done), answers⟩, c)) = _
    rw [hn, hm, List.append_assoc]
    rfl

end Worker

namespace System

variable {ι : Type} [DecidableEq ι]

/-- While one worker takes all the turns, the others stay as they are. -/
theorem run_replicate (s : System ι) (i : ι) (n : Nat) :
    s.run (List.replicate n i) =
      ⟨(Worker.stepAlone^[n] (s.workers i, s.cache)).2,
        Function.update s.workers i (Worker.stepAlone^[n] (s.workers i, s.cache)).1⟩ := by
  induction n generalizing s with
  | zero => simp [run]
  | succ n ih =>
    rw [List.replicate_succ]
    change (s.step i).run _ = _
    rw [ih]
    simp only [step, Function.update_self, Function.update_idem, Function.iterate_succ_apply]
    rfl

/-- **Workers that share a cache do not disturb each other.** Let any number of workers render any
expressions with a cache of any capacity, and let them take their steps in any order. Each call
that has ended has returned the text that rendering afresh gives. Each entry of the cache is such a
text, there is one for an expression, and no more of them than the cache may hold; what the cache
has for an expression stays, whatever steps follow. A worker that is left alone makes its calls one
after the other. -/
theorem run_faithful (capacity : Nat) (calls : ι → List TypeExpr) (schedule : List ι) :
    let s := (start capacity calls).run schedule
    (∀ i, (s.workers i).answers <+: (calls i).map (·.render)) ∧
      (∀ e ∈ s.cache.entries, e.2 = e.1.render) ∧
      (s.cache.entries.map (·.1)).Nodup ∧
      s.cache.size ≤ capacity ∧
      (∀ more t text, s.cache.find? t = some text → (s.run more).cache.find? t = some text) ∧
      ∀ i, ∃ n, ((start capacity calls).run (List.replicate n i)).cache =
          renderAll (.empty capacity) (calls i) ∧
        (((start capacity calls).run (List.replicate n i)).workers i).answers =
          (calls i).map (·.render) := by
  intro s
  have hs : Sound capacity calls s := ((sound_start capacity calls).run schedule).1
  refine ⟨fun i => (hs.onTrack i).prefix_answers, hs.faithful.text_eq, hs.faithful.nodup_keys,
    hs.capacity_eq ▸ hs.faithful.size_le, fun more => (hs.run more).2.find?_eq, fun i => ?_⟩
  obtain ⟨n, hn⟩ := Worker.alone_all (calls i) [] (faithful_empty capacity)
  refine ⟨n, ?_⟩
  rw [run_replicate]
  simp only [start, hn, Function.update_self, List.nil_append, and_self]

end System

end GoSurvey.TypeCache
