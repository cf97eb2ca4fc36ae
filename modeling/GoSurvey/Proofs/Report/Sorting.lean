import Mathlib.Data.List.Basic
import GoSurvey.Report.Basic

/-!
# What a sorted list depends on

The sorts of a report are stable: elements that the order does not tell apart stay in place
(`filter_mergeSort`). Hence a sorted list depends only on how such elements follow each other, and
not on how they are mixed with the others (`mergeSort_eq_of_ties`). Where elements that the order
does not tell apart are always of one file, it is enough that the elements of each file are the
same, in the same order (`mergeSort_eq_of_files`).
-/

namespace GoSurvey

section
variable {α : Type} {cmp : α → α → Ordering} [Std.TransCmp cmp]

/-- Of two elements one comes first. -/
theorem isLE_total (a b : α) : ((cmp a b).isLE || (cmp b a).isLE) = true := by
  have hswap : cmp b a = (cmp a b).swap := Std.OrientedCmp.eq_swap
  rw [hswap]
  cases cmp a b <;> rfl

/-- A sorted list is in order. -/
theorem pairwise_mergeSort_isLE (l : List α) :
    (l.mergeSort fun a b => (cmp a b).isLE).Pairwise fun a b => (cmp a b).isLE = true :=
  List.pairwise_mergeSort (fun _ _ _ => Std.TransCmp.isLE_trans) isLE_total l

/-- Sorting leaves the elements that the order does not tell from a given one in place. -/
theorem filter_mergeSort (l : List α) (a : α) :
    (l.mergeSort fun a b => (cmp a b).isLE).filter (cmp a · = .eq) =
      l.filter (cmp a · = .eq) := by
  have hties : (l.filter (cmp a · = .eq)).Pairwise fun a b => (cmp a b).isLE = true := by
    refine List.pairwise_of_forall_mem_list fun b hb c hc => ?_
    have hb : cmp a b = .eq := of_decide_eq_true (List.mem_filter.1 hb).2
    have hc : cmp a c = .eq := of_decide_eq_true (List.mem_filter.1 hc).2
    rw [Std.TransCmp.eq_trans (Std.OrientedCmp.eq_symm hb) hc]
    rfl
  -- The ties are in order as they stand, so they are a part of the sorted list, and all there is.
  have hsub := (List.sublist_mergeSort (fun _ _ _ => Std.TransCmp.isLE_trans) isLE_total hties
    List.filter_sublist).filter (cmp a · = .eq)
  rw [List.filter_filter] at hsub
  simp only [Bool.and_self] at hsub
  refine (hsub.eq_of_length ?_).symm
  exact ((List.mergeSort_perm l _).filter _).length_eq.symm

/-- The first elements of two ordered lists with the same members are not told apart. -/
theorem compare_head_eq {a b : α} {l₁ l₂ : List α}
    (h₁ : (a :: l₁).Pairwise fun a b => (cmp a b).isLE = true)
    (h₂ : (b :: l₂).Pairwise fun a b => (cmp a b).isLE = true)
    (ha : a ∈ b :: l₂) (hb : b ∈ a :: l₁) : cmp a b = .eq := by
  rcases List.mem_cons.1 ha with rfl | ha
  · exact Std.ReflCmp.compare_self
  rcases List.mem_cons.1 hb with rfl | hb
  · exact Std.ReflCmp.compare_self
  exact Std.OrientedCmp.isLE_antisymm ((List.pairwise_cons.1 h₁).1 b hb)
    ((List.pairwise_cons.1 h₂).1 a ha)

/-- Lists with the same ties have the same members. -/
theorem mem_of_ties {l₁ l₂ : List α}
    (h : ∀ a, l₁.filter (cmp a · = .eq) = l₂.filter (cmp a · = .eq)) {a : α} (ha : a ∈ l₁) :
    a ∈ l₂ := by
  have hmem : a ∈ l₁.filter (cmp a · = .eq) :=
    List.mem_filter.2 ⟨ha, decide_eq_true Std.ReflCmp.compare_self⟩
  rw [h a] at hmem
  exact (List.mem_filter.1 hmem).1

/-- Two ordered lists are equal if the elements that are not told apart follow each other in the
same way in both. -/
theorem eq_of_pairwise_of_ties : ∀ {l₁ l₂ : List α},
    l₁.Pairwise (fun a b => (cmp a b).isLE = true) →
    l₂.Pairwise (fun a b => (cmp a b).isLE = true) →
    (∀ a, l₁.filter (cmp a · = .eq) = l₂.filter (cmp a · = .eq)) → l₁ = l₂
  | [], [], _, _, _ => rfl
  | [], b :: _, _, _, h => nomatch mem_of_ties (fun a => (h a).symm) (List.mem_cons_self (a := b))
  | a :: _, [], _, _, h => nomatch mem_of_ties h (List.mem_cons_self (a := a))
  | a :: l₁, b :: l₂, h₁, h₂, h => by
    have hab : cmp a b = .eq := compare_head_eq h₁ h₂ (mem_of_ties h List.mem_cons_self)
      (mem_of_ties (fun a => (h a).symm) List.mem_cons_self)
    have hhead := h a
    rw [List.filter_cons_of_pos (by simpa using Std.ReflCmp.compare_self),
      List.filter_cons_of_pos (by simpa using hab)] at hhead
    obtain rfl := (List.cons.inj hhead).1
    rw [eq_of_pairwise_of_ties (List.pairwise_cons.1 h₁).2 (List.pairwise_cons.1 h₂).2 fun c => ?_]
    have htail := h c
    by_cases hc : cmp c a = .eq
    · rw [List.filter_cons_of_pos (by simpa using hc),
        List.filter_cons_of_pos (by simpa using hc)] at htail
      exact (List.cons.inj htail).2
    · rwa [List.filter_cons_of_neg (by simpa using hc),
        List.filter_cons_of_neg (by simpa using hc)] at htail

/-- A sorted list depends only on how the elements that are not told apart follow each other. -/
theorem mergeSort_eq_of_ties {l₁ l₂ : List α}
    (h : ∀ a, l₁.filter (cmp a · = .eq) = l₂.filter (cmp a · = .eq)) :
    (l₁.mergeSort fun a b => (cmp a b).isLE) = l₂.mergeSort fun a b => (cmp a b).isLE := by
  refine eq_of_pairwise_of_ties (pairwise_mergeSort_isLE l₁) (pairwise_mergeSort_isLE l₂) ?_
  intro a
  rw [filter_mergeSort, filter_mergeSort, h a]

/-- Elements can be left out before sorting or after. -/
theorem mergeSort_filter (p : α → Bool) (l : List α) :
    ((l.filter p).mergeSort fun a b => (cmp a b).isLE) =
      (l.mergeSort fun a b => (cmp a b).isLE).filter p := by
  refine eq_of_pairwise_of_ties (pairwise_mergeSort_isLE _)
    ((pairwise_mergeSort_isLE l).filter p) fun a => ?_
  rw [filter_mergeSort, List.filter_comm, ← filter_mergeSort, List.filter_comm]

variable (cmp) in
/-- A sorted list depends only on the elements of each file, if elements that are not told apart are
of one file. -/
theorem mergeSort_eq_of_files {file : α → String} (hfile : ∀ a b, cmp a b = .eq → file a = file b)
    {l₁ l₂ : List α} (h : ∀ p, l₁.filter (file · = p) = l₂.filter (file · = p)) :
    (l₁.mergeSort fun a b => (cmp a b).isLE) = l₂.mergeSort fun a b => (cmp a b).isLE := by
  refine mergeSort_eq_of_ties fun a => ?_
  have hties : ∀ l : List α,
      l.filter (cmp a · = .eq) = (l.filter (file · = file a)).filter (cmp a · = .eq) := by
    intro l
    rw [List.filter_filter]
    refine List.filter_congr fun b _ => ?_
    by_cases hb : cmp a b = .eq
    · simp [hb, hfile a b hb]
    · simp [hb]
  rw [hties l₁, hties l₂, h]

end

section
variable {α : Type} {first second : α → String}

/-- A list sorted by two keys depends only on the elements of each file, if the file is one of the
keys. -/
theorem sortByKeys_eq_of_files {file : α → String} (hfile : file = first ∨ file = second)
    {l₁ l₂ : List α} (h : ∀ p, l₁.filter (file · = p) = l₂.filter (file · = p)) :
    sortByKeys first second l₁ = sortByKeys first second l₂ := by
  refine mergeSort_eq_of_files (compareLex (compareOn first) (compareOn second)) ?_ h
  intro a b hab
  obtain ⟨h1, h2⟩ := Ordering.then_eq_eq.1 hab
  rcases hfile with rfl | rfl
  · exact Std.LawfulEqCmp.eq_of_compare h1
  · exact Std.LawfulEqCmp.eq_of_compare h2

/-- A change that leaves the keys alone can be made before sorting or after. -/
theorem map_sortByKeys {f : α → α} (hfirst : ∀ a, first (f a) = first a)
    (hsecond : ∀ a, second (f a) = second a) (l : List α) :
    (sortByKeys first second l).map f = sortByKeys first second (l.map f) := by
  refine List.map_mergeSort fun a _ b _ => ?_
  rw [hfirst, hfirst, hsecond, hsecond]

/-- Sorting by two keys keeps the elements. -/
theorem sortByKeys_perm (l : List α) : (sortByKeys first second l).Perm l :=
  List.mergeSort_perm l _

/-- One element may stand before another: its first key is less, or the first keys are the same and
its second key is not greater. -/
def InKeyOrder (first second : α → String) (a b : α) : Prop :=
  compare (first a) (first b) = .lt ∨
    first a = first b ∧ (compare (second a) (second b)).isLE = true

/-- A list sorted by two keys is in their order. -/
theorem pairwise_sortByKeys (l : List α) :
    (sortByKeys first second l).Pairwise (InKeyOrder first second) := by
  have hsorted : (sortByKeys first second l).Pairwise fun a b =>
      (compareLex (compareOn first) (compareOn second) a b).isLE = true :=
    pairwise_mergeSort_isLE l
  refine hsorted.imp fun {a b} hab => ?_
  cases hfirst : compare (first a) (first b) with
  | lt => exact .inl hfirst
  | eq =>
    refine .inr ⟨Std.LawfulEqCmp.eq_of_compare hfirst, ?_⟩
    simpa [compareLex, compareOn, hfirst] using hab
  | gt => simp [compareLex, compareOn, hfirst] at hab

end

end GoSurvey
