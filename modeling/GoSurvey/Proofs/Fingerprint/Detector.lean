import Mathlib.Data.Finset.Card
import GoSurvey.Fingerprint.Detector

/-!
# A detector is a finite set of texts

`Holds` says that a detector stands for a finite set: a text of the set is in the bucket of its own
hash, once, and nothing else is in any bucket. So the lengths of the buckets add up to the number of
members (`Holds.size_eq`). Checking a text asks whether it is in the set and adds it
(`Holds.check`), so that hashes play no part in any answer. What the detector has seen after a list
of texts is the set of these texts, whatever their order (`Holds.feed`).
-/

namespace GoSurvey

namespace Detector

/-- A detector stands for a finite set of texts. -/
structure Holds (d : Detector) (texts : Finset String) : Prop where
  mem_bucket_iff : ∀ hash t, t ∈ d.bucket hash ↔ t ∈ texts ∧ rollingHash t = hash
  nodup_bucket : ∀ hash, (d.bucket hash).Nodup

/-- A detector that has seen some more texts. -/
def feed (d : Detector) (texts : List String) : Detector :=
  texts.foldl (fun d t => (d.check t).2) d

/-- All texts, bucket by bucket. -/
def texts (d : Detector) : List String :=
  d.buckets.toList.flatMap (·.2)

section
variable {d : Detector} {texts : Finset String} {t : String}

/-! ## The number of texts -/

/-- The size counts the texts of all buckets. -/
theorem size_eq_length (d : Detector) : d.size = d.texts.length := by
  have hfold : ∀ (entries : List (UInt64 × List String)) (count : Nat),
      entries.foldl (fun count e => count + e.2.length) count =
        count + (entries.flatMap (·.2)).length := by
    intro entries
    induction entries with
    | nil => intro count; rfl
    | cons e entries ih =>
      intro count
      rw [List.foldl_cons, ih, List.flatMap_cons, List.length_append, Nat.add_assoc]
  rw [size, Std.HashMap.fold_eq_foldl_toList, hfold, Nat.zero_add, Detector.texts]

/-- An entry of the table is the bucket of its hash. -/
theorem bucket_of_mem {e : UInt64 × List String} (he : e ∈ d.buckets.toList) :
    d.bucket e.1 = e.2 := by
  rw [bucket, Std.HashMap.getD_eq_getD_getElem?,
    Std.HashMap.mem_toList_iff_getElem?_eq_some.1 he, Option.getD_some]

/-- A text is in the table if it is in some bucket. -/
theorem mem_texts_iff : t ∈ d.texts ↔ ∃ hash, t ∈ d.bucket hash := by
  rw [Detector.texts, List.mem_flatMap]
  constructor
  · rintro ⟨e, he, ht⟩
    exact ⟨e.1, (bucket_of_mem he).symm ▸ ht⟩
  · rintro ⟨hash, ht⟩
    rw [bucket, Std.HashMap.getD_eq_getD_getElem?] at ht
    cases hfound : d.buckets[hash]? with
    | none => simp [hfound] at ht
    | some found =>
      rw [hfound] at ht
      exact ⟨(hash, found), Std.HashMap.mem_toList_iff_getElem?_eq_some.2 hfound, ht⟩

/-- No text stands twice, since it is in one bucket only and once there. -/
theorem Holds.nodup_texts (h : d.Holds texts) : d.texts.Nodup := by
  refine List.nodup_flatMap.2 ⟨fun e he => bucket_of_mem he ▸ h.nodup_bucket e.1, ?_⟩
  refine Std.HashMap.distinct_keys_toList.imp_of_mem fun {e e'} he he' hne => ?_
  intro t (ht : t ∈ e.2) (ht' : t ∈ e'.2)
  rw [← bucket_of_mem he, h.mem_bucket_iff] at ht
  rw [← bucket_of_mem he', h.mem_bucket_iff] at ht'
  simp [← ht.2, ← ht'.2] at hne

/-- The lengths of the buckets add up to the number of texts. -/
theorem Holds.size_eq (h : d.Holds texts) : d.size = texts.card := by
  have hset : d.texts.toFinset = texts := by
    ext t
    simp [mem_texts_iff, h.mem_bucket_iff]
  rw [size_eq_length, ← hset, List.toFinset_card_of_nodup h.nodup_texts]

/-! ## Checking texts -/

/-- A new detector stands for the empty set. -/
theorem holds_empty : Holds empty ∅ where
  mem_bucket_iff hash t := by simp [bucket, empty]
  nodup_bucket hash := by simp [bucket, empty]

/-- It is enough to look for a text in the bucket of its own hash. -/
theorem Holds.mem_own_bucket_iff (h : d.Holds texts) (t : String) :
    t ∈ d.bucket (rollingHash t) ↔ t ∈ texts := by
  simp [h.mem_bucket_iff]

/-- A text in the bucket of its hash is a repeated one. -/
theorem check_of_mem (h : t ∈ d.bucket (rollingHash t)) : d.check t = (true, d) :=
  if_pos h

/-- Any other text is put into that bucket. -/
theorem check_of_notMem (h : t ∉ d.bucket (rollingHash t)) :
    d.check t =
      (false, ⟨d.buckets.insert (rollingHash t) (d.bucket (rollingHash t) ++ [t])⟩) :=
  if_neg h

/-- Adding a text changes the bucket of its hash only. -/
theorem bucket_check (h : t ∉ d.bucket (rollingHash t)) (hash : UInt64) :
    (d.check t).2.bucket hash =
      if rollingHash t = hash then d.bucket hash ++ [t] else d.bucket hash := by
  rw [check_of_notMem h]
  simp only [bucket, Std.HashMap.getD_insert, beq_iff_eq]
  split
  next heq => rw [heq]
  next => rfl

/-- The answer for a text is whether it is in the set. -/
theorem Holds.check_fst (h : d.Holds texts) (t : String) : (d.check t).1 = decide (t ∈ texts) := by
  by_cases hin : t ∈ d.bucket (rollingHash t)
  · rw [check_of_mem hin, decide_eq_true ((h.mem_own_bucket_iff t).1 hin)]
  · rw [check_of_notMem hin, decide_eq_false (mt (h.mem_own_bucket_iff t).2 hin)]

/-- Checking a text adds it to the set. -/
theorem Holds.check (h : d.Holds texts) (t : String) : (d.check t).2.Holds (insert t texts) := by
  by_cases hin : t ∈ d.bucket (rollingHash t)
  · rw [Finset.insert_eq_of_mem ((h.mem_own_bucket_iff t).1 hin), check_of_mem hin]
    exact h
  refine ⟨fun hash u => ?_, fun hash => ?_⟩
  · rw [bucket_check hin, Finset.mem_insert, or_and_right, ← h.mem_bucket_iff hash u]
    split
    next heq =>
      rw [List.mem_append, List.mem_singleton, or_comm]
      exact or_congr_left ⟨fun hu => ⟨hu, hu ▸ heq⟩, And.left⟩
    next hne =>
      refine (or_iff_right ?_).symm
      rintro ⟨rfl, heq⟩
      exact hne heq
  · rw [bucket_check hin]
    split
    next heq =>
      refine List.nodup_append.2 ⟨h.nodup_bucket hash, List.nodup_singleton t, ?_⟩
      intro u hu v hv huv
      rw [List.mem_singleton.1 hv] at huv
      exact hin (heq ▸ huv ▸ hu)
    next => exact h.nodup_bucket hash

/-- A text counts as repeated, or else the detector grows by one. -/
theorem Holds.size_check (h : d.Holds texts) (t : String) :
    (d.check t).2.size + (d.check t).1.toNat = d.size + 1 := by
  rw [(h.check t).size_eq, h.check_fst, h.size_eq]
  by_cases hin : t ∈ texts
  · simp [hin]
  · simp [hin, Finset.card_insert_of_notMem hin]

/-- Texts are added to the set one after the other. -/
theorem Holds.feed (h : d.Holds texts) (more : List String) :
    (d.feed more).Holds (texts ∪ more.toFinset) := by
  induction more generalizing d texts with
  | nil => simpa [Detector.feed] using h
  | cons t more ih =>
    rw [List.toFinset_cons, Finset.union_insert, ← Finset.insert_union]
    exact ih (h.check t)

/-- The number of texts that a detector has seen does not depend on their order. -/
theorem size_feed_perm {more more' : List String} (h : more.Perm more') :
    (empty.feed more).size = (empty.feed more').size := by
  rw [(holds_empty.feed more).size_eq, (holds_empty.feed more').size_eq,
    List.toFinset_eq_of_perm _ _ h]

end

end Detector

end GoSurvey
