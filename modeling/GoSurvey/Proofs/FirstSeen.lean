import Mathlib.Data.List.Induction

/-!
# Items in the order they are first seen

Several parts of the survey collect items one after the other and leave out those they have already.
What they end up with is `List.eraseDups` of all items. The lemmas here are about that list when one
more item comes last (`eraseDups_concat_of_mem`, `eraseDups_concat_of_notMem`), so that they follow
the loops that collect (`foldl_eraseDups`).
-/

namespace GoSurvey

variable {α β : Type} [BEq α] [BEq β]

/-- A loop whose rounds each add an item unless it is there adds up all items it goes over. -/
theorem foldl_eraseDups {add : List α → α → List α}
    (hadd : ∀ xs x, add xs.eraseDups x = (xs ++ [x]).eraseDups) (xs ys : List α) :
    ys.foldl add xs.eraseDups = (xs ++ ys).eraseDups := by
  induction ys generalizing xs with
  | nil => rw [List.foldl_nil, List.append_nil]
  | cons y ys ih => rw [List.foldl_cons, hadd, ih, List.append_assoc, List.singleton_append]

variable [LawfulBEq α] [LawfulBEq β]

/-- An item that was seen before is left out. -/
theorem eraseDups_concat_of_mem {xs : List α} {x : α} (h : x ∈ xs) :
    (xs ++ [x]).eraseDups = xs.eraseDups := by
  rw [List.eraseDups_append]
  simp [List.removeAll, h]

/-- A new item comes last. -/
theorem eraseDups_concat_of_notMem {xs : List α} {x : α} (h : x ∉ xs) :
    (xs ++ [x]).eraseDups = xs.eraseDups ++ [x] := by
  rw [List.eraseDups_append]
  simp [List.removeAll, h, List.eraseDups_cons]

/-- No item is left twice. -/
theorem nodup_eraseDups (xs : List α) : xs.eraseDups.Nodup := by
  induction xs using List.reverseRecOn with
  | nil => exact List.nodup_nil
  | append_singleton xs x ih =>
    by_cases h : x ∈ xs
    · rw [eraseDups_concat_of_mem h]
      exact ih
    · rw [eraseDups_concat_of_notMem h, List.nodup_append]
      refine ⟨ih, List.pairwise_singleton _ x, fun y hy z hz hyz => ?_⟩
      rw [List.mem_singleton] at hz
      rw [List.mem_eraseDups, hyz, hz] at hy
      exact h hy

/-- Items can be seen through a partial function that takes no two items to the same value. -/
theorem filterMap_eraseDups {f : α → Option β}
    (hf : ∀ x y b, f x = some b → f y = some b → x = y) (xs : List α) :
    xs.eraseDups.filterMap f = (xs.filterMap f).eraseDups := by
  induction xs using List.reverseRecOn with
  | nil => rfl
  | append_singleton xs x ih =>
    rw [List.filterMap_append]
    cases hx : f x with
    | none =>
      rw [List.filterMap_cons_none hx, List.filterMap_nil, List.append_nil, ← ih]
      by_cases h : x ∈ xs
      · rw [eraseDups_concat_of_mem h]
      · rw [eraseDups_concat_of_notMem h, List.filterMap_append, List.filterMap_cons_none hx,
          List.filterMap_nil, List.append_nil]
    | some b =>
      rw [List.filterMap_cons_some hx, List.filterMap_nil]
      -- The value of `x` was seen before exactly if `x` was.
      have hmem : b ∈ xs.filterMap f ↔ x ∈ xs := by
        rw [List.mem_filterMap]
        constructor
        · rintro ⟨y, hy, hyb⟩
          rw [hf x y b hx hyb]
          exact hy
        · intro h
          exact ⟨x, h, hx⟩
      by_cases h : x ∈ xs
      · rw [eraseDups_concat_of_mem h, eraseDups_concat_of_mem (hmem.2 h), ih]
      · rw [eraseDups_concat_of_notMem h, eraseDups_concat_of_notMem (mt hmem.1 h),
          List.filterMap_append, ih, List.filterMap_cons_some hx, List.filterMap_nil]

end GoSurvey
