import GoSurvey.Proofs.Report.Sorting

/-!
# Which pairs of struct and interface are found

Sorting the pairs leaves the same pairs, in strictly increasing order, so that the result depends
only on which pairs there are (`sortImplements_congr`). `mem_inferImplements` says which pairs are
found; it speaks of structs, interfaces and method sets only by what is among them, and neither
their order nor their number counts (`inferImplements_congr`).
-/

namespace GoSurvey

/-! ## The order of pairs -/

instance : Std.TransCmp ImplementsRecord.order :=
  inferInstanceAs (Std.TransCmp
    (compareLex (compareOn ImplementsRecord.structName) (compareOn ImplementsRecord.interface)))

instance : Std.LawfulEqCmp ImplementsRecord.order where
  eq_of_compare {a b} h := by
    obtain ⟨hstruct, hinterface⟩ := Ordering.then_eq_eq.1 h
    cases a
    cases b
    congr 1
    · exact Std.LawfulEqCmp.eq_of_compare hstruct
    · exact Std.LawfulEqCmp.eq_of_compare hinterface

section
variable {α : Type} [DecidableEq α]

/-- Only repetitions are dropped. -/
theorem mem_dropRepeats {a : α} {l : List α} : a ∈ dropRepeats l ↔ a ∈ l := by
  fun_induction dropRepeats l with
  | case1 => rfl
  | case2 => rfl
  | case3 b rest ih => simp [ih]
  | case4 b c rest hne ih => rw [List.mem_cons, ih, ← List.mem_cons]

/-- Without its repetitions a sorted list is strictly increasing. -/
theorem pairwise_dropRepeats {cmp : α → α → Ordering} [Std.TransCmp cmp] [Std.LawfulEqCmp cmp]
    {l : List α} (h : l.Pairwise fun a b => (cmp a b).isLE = true) :
    (dropRepeats l).Pairwise fun a b => cmp a b = .lt := by
  fun_induction dropRepeats l with
  | case1 => exact .nil
  | case2 a => exact List.pairwise_singleton _ a
  | case3 b rest ih => exact ih (List.pairwise_cons.1 h).2
  | case4 a b rest hne ih =>
    obtain ⟨hle, hrest⟩ := List.pairwise_cons.1 h
    refine List.pairwise_cons.2 ⟨fun c hc => ?_, ih hrest⟩
    have hab : cmp a b = .lt := by
      have hab := hle b List.mem_cons_self
      cases hcmp : cmp a b with
      | lt => rfl
      | eq => exact absurd (Std.LawfulEqCmp.eq_of_compare hcmp) hne
      | gt => simp [hcmp] at hab
    rcases List.mem_cons.1 (mem_dropRepeats.1 hc) with rfl | hc
    · exact hab
    · exact Std.TransCmp.lt_of_lt_of_isLE hab ((List.pairwise_cons.1 hrest).1 c hc)

end

/-- Sorting the pairs keeps them. -/
theorem mem_sortImplements {r : ImplementsRecord} {found : List ImplementsRecord} :
    r ∈ sortImplements found ↔ r ∈ found := by
  rw [sortImplements, mem_dropRepeats, List.mem_mergeSort]

/-- Sorted pairs are strictly increasing. -/
theorem pairwise_sortImplements (found : List ImplementsRecord) :
    (sortImplements found).Pairwise fun a b => a.order b = .lt :=
  pairwise_dropRepeats (pairwise_mergeSort_isLE found)

/-- Sorted pairs depend only on which pairs there are. -/
theorem sortImplements_congr {found found' : List ImplementsRecord}
    (h : ∀ r, r ∈ found ↔ r ∈ found') : sortImplements found = sortImplements found' := by
  have hnodup : ∀ l, (sortImplements l).Nodup := fun l =>
    (pairwise_sortImplements l).imp fun {a b} hlt heq => by
      subst heq
      exact nomatch hlt.symm.trans Std.ReflCmp.compare_self
  have hperm : (sortImplements found).Perm (sortImplements found') :=
    (List.perm_ext_iff_of_nodup (hnodup _) (hnodup _)).2 fun r => by
      rw [mem_sortImplements, mem_sortImplements, h r]
  refine hperm.eq_of_pairwise (fun a b _ _ hab hba => ?_) (pairwise_sortImplements found)
    (pairwise_sortImplements found')
  rw [Std.OrientedCmp.gt_of_lt hab] at hba
  cases hba

/-! ## What is found -/

/-- A method is declared if some method set of the struct has it. -/
theorem declares_iff {sets : List MethodSet} {package structName method : String} :
    declares sets package structName method = true ↔
      ∃ s ∈ sets, s.package = package ∧ s.structName = structName ∧ method ∈ s.methods := by
  simp [declares, and_assoc]

/-- A struct and an interface of one package are found if the interface names a method and the
struct declares all that it names. -/
theorem mem_inferImplements {structs : List StructRecord} {interfaces : List InterfaceRecord}
    {sets : List MethodSet} {r : ImplementsRecord} :
    r ∈ inferImplements structs interfaces sets ↔
      ∃ s ∈ structs, ∃ i ∈ interfaces, i.methods ≠ [] ∧ s.package = i.package ∧
        (∀ m ∈ i.methods, ∃ set ∈ sets,
          set.package = s.package ∧ set.structName = s.name ∧ m ∈ set.methods) ∧
        r = ⟨s.name, i.name⟩ := by
  rw [inferImplements, mem_sortImplements]
  simp only [List.mem_flatMap, List.mem_map, List.mem_filter, Bool.and_eq_true, beq_iff_eq,
    List.all_eq_true, declares_iff, Bool.not_eq_true', List.isEmpty_eq_false_iff]
  constructor
  · rintro ⟨i, ⟨hi, hne⟩, s, ⟨hs, hpackage, hall⟩, rfl⟩
    exact ⟨s, hs, i, hi, hne, hpackage, hall, rfl⟩
  · rintro ⟨s, hs, i, hi, hne, hpackage, hall, rfl⟩
    exact ⟨i, ⟨hi, hne⟩, s, ⟨hs, hpackage, hall⟩, rfl⟩

/-- What is found depends only on which structs, interfaces and method sets there are. -/
theorem inferImplements_congr {structs structs' : List StructRecord}
    {interfaces interfaces' : List InterfaceRecord} {sets sets' : List MethodSet}
    (hstructs : ∀ s, s ∈ structs ↔ s ∈ structs')
    (hinterfaces : ∀ i, i ∈ interfaces ↔ i ∈ interfaces') (hsets : ∀ m, m ∈ sets ↔ m ∈ sets') :
    inferImplements structs interfaces sets = inferImplements structs' interfaces' sets' := by
  have hmem : ∀ r, r ∈ inferImplements structs interfaces sets ↔
      r ∈ inferImplements structs' interfaces' sets' := fun r => by
    simp only [mem_inferImplements, hstructs, hinterfaces, hsets]
  simp only [inferImplements, mem_sortImplements] at hmem
  exact sortImplements_congr hmem

end GoSurvey
