import Mathlib
import GoSurvey.Go.Grammar.Reading

/-!
# Triples for readers

A triple `⦃⌜True⌝⦄ p ⦃⇓ a => ⌜P a⌝⦄` says that every result of the reader `p` has the property `P`.
A reader is put together from others, so its triple follows from theirs by the rules of sequences
(`WPMonad`), of choices (`orElse_spec`) and of loops (`iterate_spec`). A reader that refuses a token
has no result, and any triple holds of it.
-/

namespace GoSurvey.Go.Reader

open Std.Do

set_option mvcgen.warning false

/-- What readers depend on and change: the tokens ahead, and the farthest place that was refused. -/
abbrev Shape : PostShape :=
  .arg (List Token) (.arg Nat .pure)

section
variable {α β : Type}

/-- That an assertion holds after a reader, if the reader gives a result. -/
def after (p : Reader α) (post : α → Assertion Shape) : Assertion Shape :=
  fun ts reach =>
    match p ts reach with
    | (some (a, rest), reach) => post a rest reach
    | (none, _) => ⟨True⟩

theorem after_of_some {p : Reader α} {ts rest : List Token} {reach reach' : Nat} {a : α}
    (h : p ts reach = (some (a, rest), reach')) (post : α → Assertion Shape) :
    after p post ts reach = post a rest reach' := by
  rw [after, h]

theorem after_of_none {p : Reader α} {ts : List Token} {reach reach' : Nat}
    (h : p ts reach = (none, reach')) (post : α → Assertion Shape) :
    after p post ts reach = ⟨True⟩ := by
  rw [after, h]

theorem bind_of_some {p : Reader α} {ts rest : List Token} {reach reach' : Nat} {a : α}
    (h : p ts reach = (some (a, rest), reach')) (f : α → Reader β) :
    (p >>= f) ts reach = f a rest reach' := by
  simp only [Bind.bind, h]

theorem bind_of_none {p : Reader α} {ts : List Token} {reach reach' : Nat}
    (h : p ts reach = (none, reach')) (f : α → Reader β) : (p >>= f) ts reach = (none, reach') := by
  simp only [Bind.bind, h]

/-- A reader refuses a token or gives a result. -/
theorem apply_cases (p : Reader α) (ts : List Token) (reach : Nat) :
    (∃ reach', p ts reach = (none, reach')) ∨
      ∃ a rest reach', p ts reach = (some (a, rest), reach') := by
  rcases h : p ts reach with ⟨_ | ⟨a, rest⟩, reach'⟩
  · exact .inl ⟨reach', rfl⟩
  · exact .inr ⟨a, rest, reach', rfl⟩

end

instance : LawfulMonad Reader :=
  LawfulMonad.mk' Reader
    (fun p => by
      funext ts reach
      change (p >>= pure) ts reach = p ts reach
      obtain ⟨reach', h⟩ | ⟨a, rest, reach', h⟩ := apply_cases p ts reach
      · rw [bind_of_none h, h]
      · rw [bind_of_some h, h]
        rfl)
    (fun _ _ => rfl)
    (fun p f g => by
      funext ts reach
      obtain ⟨reach', h⟩ | ⟨a, rest, reach', h⟩ := apply_cases p ts reach
      · rw [bind_of_none (bind_of_none h f), bind_of_none h]
      · rw [bind_of_some h]
        simp only [Bind.bind, h])

instance : WP Reader Shape where
  wp p :=
    { trans := fun post => after p post.1
      conjunctiveRaw := by
        intro post post'
        refine SPred.bientails.of_eq ?_
        funext ts reach
        obtain ⟨reach', h⟩ | ⟨a, rest, reach', h⟩ := apply_cases p ts reach
        · simp [after_of_none h]
        · simp [after_of_some h] }

instance : WPMonad Reader Shape where
  wp_pure _ := rfl
  wp_bind p f := by
    ext post ts reach
    change (after (p >>= f) post.1 ts reach).down ↔
      (after p (fun a => after (f a) post.1) ts reach).down
    obtain ⟨reach', h⟩ | ⟨a, rest, reach', h⟩ := apply_cases p ts reach
    · rw [after_of_none h, after_of_none (bind_of_none h f)]
    · rw [after_of_some h, after, after, bind_of_some h]

section
variable {α : Type} {P : α → Prop}

/-- What a triple says about the results of a reader. -/
theorem triple_iff {p : Reader α} : ⦃⌜True⌝⦄ p ⦃⇓ a => ⌜P a⌝⦄ ↔
    ∀ ts reach a rest reach', p ts reach = (some (a, rest), reach') → P a := by
  constructor
  · intro h ts reach a rest reach' heq
    have hafter : (after p (fun a => ⌜P a⌝) ts reach).down := h ts reach trivial
    rwa [after_of_some heq] at hafter
  · intro h ts reach _
    change (after p (fun a => ⌜P a⌝) ts reach).down
    obtain ⟨reach', heq⟩ | ⟨a, rest, reach', heq⟩ := apply_cases p ts reach
    · rw [after_of_none heq]
      trivial
    · rw [after_of_some heq]
      exact h ts reach a rest reach' heq

/-- Nothing is said about the results of a reader. -/
theorem triple_true (p : Reader α) : ⦃⌜True⌝⦄ p ⦃⇓ _ => ⌜True⌝⦄ :=
  triple_iff.2 fun _ _ _ _ _ _ => trivial

@[spec]
theorem peek_spec : ⦃⌜True⌝⦄ peek ⦃⇓ _ => ⌜True⌝⦄ :=
  triple_true peek

@[spec]
theorem next_spec : ⦃⌜True⌝⦄ next ⦃⇓ _ => ⌜True⌝⦄ :=
  triple_true next

@[spec]
theorem ahead_spec : ⦃⌜True⌝⦄ ahead ⦃⇓ _ => ⌜True⌝⦄ :=
  triple_true ahead

@[spec]
theorem push_spec (t : Token) : ⦃⌜True⌝⦄ push t ⦃⇓ _ => ⌜True⌝⦄ :=
  triple_true (push t)

@[spec]
theorem refuse_spec : ⦃⌜True⌝⦄ (refuse : Reader α) ⦃⇓ _ => ⌜False⌝⦄ :=
  triple_iff.2 fun _ _ _ _ _ h => nomatch h

@[spec]
theorem ofOption_spec (o : Option α) : ⦃⌜True⌝⦄ ofOption o ⦃⇓ a => ⌜o = some a⌝⦄ := by
  cases o with
  | none =>
    mvcgen [ofOption]
    simp
  | some a => mvcgen [ofOption]

@[spec]
theorem orElse_spec {p q : Reader α} (hp : ⦃⌜True⌝⦄ p ⦃⇓ a => ⌜P a⌝⦄)
    (hq : ⦃⌜True⌝⦄ q ⦃⇓ a => ⌜P a⌝⦄) : ⦃⌜True⌝⦄ (p <|> q) ⦃⇓ a => ⌜P a⌝⦄ := by
  rw [triple_iff] at *
  intro ts reach a rest reach' h
  change orElse p (fun _ => q) ts reach = _ at h
  unfold orElse at h
  split at h
  · exact hq _ _ _ _ _ h
  · exact hp _ _ _ _ _ h

variable (P) {step : α → Reader (Option α)}

/-- What every step keeps is kept by a loop. -/
theorem iterateUpTo_spec (hstep : ∀ a, P a → ⦃⌜True⌝⦄ step a ⦃⇓ b => ⌜∀ a ∈ b, P a⌝⦄) (n : Nat)
    (a : α) (ha : P a) : ⦃⌜True⌝⦄ iterateUpTo step n a ⦃⇓ b => ⌜P b⌝⦄ := by
  induction n generalizing a with
  | zero => mvcgen [iterateUpTo]
  | succ n ih =>
    mvcgen [iterateUpTo, hstep, ih]
    all_goals simp_all

theorem iterate_spec (hstep : ∀ a, P a → ⦃⌜True⌝⦄ step a ⦃⇓ b => ⌜∀ a ∈ b, P a⌝⦄) (a : α)
    (ha : P a) : ⦃⌜True⌝⦄ iterate step a ⦃⇓ b => ⌜P b⌝⦄ := by
  have hloop := fun n => iterateUpTo_spec P hstep n a ha
  mvcgen [iterate, hloop]

end

end GoSurvey.Go.Reader
