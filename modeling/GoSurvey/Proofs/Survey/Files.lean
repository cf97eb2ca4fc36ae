import Mathlib.Data.List.Nodup
import GoSurvey.Proofs.FileName
import GoSurvey.Proofs.Report.Sorting
import GoSurvey.Survey.Files

/-!
# The files of a survey

Files come in the order of their paths, component by component (`FileTree.collect_eq`). In a tree
whose siblings have different names no two files are reached by the same names, so that of any two
files one comes before the other (`FileTree.WellNamed.pairwise_collect`). A survey of a tree from
which some files are removed sees the other files in the same order as before
(`FileTree.collect_retain`).
-/

namespace GoSurvey

/-- Names are compared one after the other. -/
theorem namesLE_eq : ∀ a b : List FileName, namesLE a b = (compare a b).isLE
  | [], [] | [], _ :: _ | _ :: _, [] => rfl
  | a :: as, b :: bs => by
    rw [namesLE, namesLE_eq as bs, List.compare_cons_cons]
    by_cases hab : a = b
    · subst hab
      simp [Std.ReflCmp.compare_self]
    · have hne : compare a b ≠ .eq := fun h => hab (Std.LawfulEqCmp.eq_of_compare h)
      rw [if_neg (by simpa using hab)]
      cases h : compare a b with
      | lt | gt => rfl
      | eq => exact absurd h hne

/-- One file comes before another: the first difference between their names decides. -/
def Listed.Before (a b : Listed) : Prop :=
  compare a.names b.names = .lt

instance (a b : Listed) : Decidable (a.Before b) :=
  inferInstanceAs (Decidable (compare a.names b.names = .lt))

theorem Listed.Before.names_ne {a b : Listed} (h : a.Before b) : a.names ≠ b.names := by
  intro heq
  simp [Before, heq, Std.ReflCmp.compare_self] at h

namespace FileTree

/-- The files of a survey are sorted by their names. -/
theorem collect_eq (f : Filter) (root : String) (t : FileTree) :
    t.collect f root = ((listFrom [] t).filter (f.accepts root)).mergeSort fun a b =>
      (compareOn Listed.names a b).isLE := by
  simp only [collect, namesLE_eq]
  rfl

/-! ## Different files have different names -/

mutual
/-- Files and directories in the same place have different names. -/
def WellNamed : FileTree → Prop
  | .file _ _ => True
  | .directory _ children => (children.map (·.name)).Nodup ∧ AllWellNamed children

/-- `WellNamed` of all that a directory holds. -/
def AllWellNamed : List FileTree → Prop
  | [] => True
  | t :: ts => t.WellNamed ∧ AllWellNamed ts
end

mutual
/-- The names of a file start with the names that lead to the tree. -/
theorem prefix_of_mem_listFrom {names : List FileName} {l : Listed} : ∀ {t : FileTree},
    l ∈ listFrom names t → names.reverse <+: l.names
  | .file _ _, h => by
    obtain rfl := List.mem_singleton.1 h
    exact List.prefix_refl _
  | .directory _ _, h => by
    obtain ⟨t, -, hprefix⟩ := prefix_of_mem_listBelow h
    exact (List.prefix_append _ _).trans hprefix

/-- A file in a directory has the name of some part of it next. -/
theorem prefix_of_mem_listBelow {names : List FileName} {l : Listed} : ∀ {ts : List FileTree},
    l ∈ listBelow names ts → ∃ t ∈ ts, names.reverse ++ [t.name] <+: l.names
  | t :: ts, h => by
    rcases List.mem_append.1 h with h | h
    · refine ⟨t, List.mem_cons_self, ?_⟩
      rw [← List.reverse_cons]
      split at h
      · cases h
      · exact prefix_of_mem_listFrom h
    · obtain ⟨t', ht', hprefix⟩ := prefix_of_mem_listBelow h
      exact ⟨t', List.mem_cons_of_mem t ht', hprefix⟩
end

mutual
/-- No two files of a tree are reached by the same names. -/
theorem WellNamed.nodup_listFrom (names : List FileName) : ∀ {t : FileTree}, t.WellNamed →
    ((listFrom names t).map (·.names)).Nodup
  | .file _ _, _ => List.nodup_singleton _
  | .directory _ _, h => AllWellNamed.nodup_listBelow names h.2 h.1

/-- `WellNamed.nodup_listFrom` over what a directory holds. -/
theorem AllWellNamed.nodup_listBelow (names : List FileName) : ∀ {ts : List FileTree},
    AllWellNamed ts → (ts.map (·.name)).Nodup → ((listBelow names ts).map (·.names)).Nodup
  | [], _, _ => .nil
  | t :: ts, h, hnodup => by
    obtain ⟨hname, hnodup⟩ := List.nodup_cons.1 hnodup
    rw [listBelow, List.map_append]
    refine List.nodup_append.2 ⟨?_, AllWellNamed.nodup_listBelow names h.2 hnodup, ?_⟩
    · split
      · exact .nil
      · exact WellNamed.nodup_listFrom _ h.1
    -- A file of `t` has the name of `t` where a file of the others has another name.
    · rintro _ ha _ hb rfl
      obtain ⟨l, hl, rfl⟩ := List.mem_map.1 ha
      obtain ⟨l', hl', heq⟩ := List.mem_map.1 hb
      have hprefix : names.reverse ++ [t.name] <+: l.names := by
        rw [← List.reverse_cons]
        split at hl
        · cases hl
        · exact prefix_of_mem_listFrom hl
      obtain ⟨t', ht', hprefix'⟩ := prefix_of_mem_listBelow hl'
      rw [heq] at hprefix'
      have hsame : names.reverse ++ [t.name] = names.reverse ++ [t'.name] :=
        (List.prefix_of_prefix_length_le hprefix hprefix' (by simp)).eq_of_length (by simp)
      refine hname (List.mem_map.2 ⟨t', ht', ?_⟩)
      simpa using hsame.symm
end

/-- The files of a survey come strictly one after the other. -/
theorem WellNamed.pairwise_collect {t : FileTree} (h : t.WellNamed) (f : Filter) (root : String) :
    (t.collect f root).Pairwise Listed.Before := by
  have hnodup : (t.collect f root).Pairwise fun a b => a.names ≠ b.names := by
    rw [collect, ← List.pairwise_map (f := Listed.names)]
    refine ((List.mergeSort_perm _ _).map _).nodup_iff.2 ?_
    exact (h.nodup_listFrom []).sublist (List.filter_sublist.map _)
  rw [collect_eq] at hnodup ⊢
  refine List.Pairwise.imp₂ (fun a b hle hne => ?_) (pairwise_mergeSort_isLE _) hnodup
  have hne : compare a.names b.names ≠ .eq := fun heq => hne (Std.LawfulEqCmp.eq_of_compare heq)
  exact (Ordering.isLE_iff_eq_lt_or_eq_eq.1 hle).resolve_right hne

/-! ## Removing files -/

mutual
/-- What is left of a tree if only the files with certain contents stay; nothing is left of any
other file. -/
def retain? (p : List UInt8 → Bool) : FileTree → Option FileTree
  | .file name content => if p content then some (.file name content) else none
  | .directory name children => some (.directory name (retainAll p children))

/-- What is left of what a directory holds. -/
def retainAll (p : List UInt8 → Bool) : List FileTree → List FileTree
  | [] => []
  | t :: ts => (retain? p t).toList ++ retainAll p ts
end

/-- A tree without the files that have other contents. If the root is such a file, an empty
directory takes its place. -/
def retain (p : List UInt8 → Bool) (t : FileTree) : FileTree :=
  (t.retain? p).getD (.directory t.name [])

/-- What is left of a file or directory has the same name and is of the same kind. -/
theorem retain?_same {p : List UInt8 → Bool} {t t' : FileTree} (h : t.retain? p = some t') :
    t'.name = t.name ∧ t'.isDirectory = t.isDirectory := by
  cases t with
  | file name content =>
    obtain ⟨-, h⟩ := Option.ite_none_right_eq_some.1 h
    cases h
    exact ⟨rfl, rfl⟩
  | directory name children =>
    cases h
    exact ⟨rfl, rfl⟩

mutual
/-- What is left of a tree holds the files that are to stay. -/
theorem listFrom_retain? (p : List UInt8 → Bool) (names : List FileName) : ∀ t : FileTree,
    (t.retain? p).elim [] (listFrom names) = (listFrom names t).filter fun l => p l.content
  | .file name content => by
    cases hp : p content <;> simp [retain?, listFrom, hp]
  | .directory name children => listBelow_retainAll p names children

/-- `listFrom_retain?` over what a directory holds. -/
theorem listBelow_retainAll (p : List UInt8 → Bool) (names : List FileName) : ∀ ts : List FileTree,
    listBelow names (retainAll p ts) = (listBelow names ts).filter fun l => p l.content
  | [] => rfl
  | t :: ts => by
    have ht := listFrom_retain? p (t.name :: names) t
    have hts := listBelow_retainAll p names ts
    rw [retainAll, listBelow, List.filter_append, ← hts]
    cases h : t.retain? p with
    | none =>
      rw [h] at ht
      have hnone : ((if t.isDirectory && isSkipped t.name then []
          else listFrom (t.name :: names) t).filter fun l => p l.content) = [] := by
        split
        · rfl
        · exact ht.symm
      rw [hnone]
      rfl
    | some t' =>
      obtain ⟨hname, hkind⟩ := retain?_same h
      rw [h] at ht
      change listFrom _ t' = _ at ht
      rw [Option.toList_some, List.singleton_append, listBelow, hname, hkind, ht]
      split <;> rfl
end

/-- A survey of a tree without some files sees the other files, in the same order. -/
theorem collect_retain (f : Filter) (root : String) (p : List UInt8 → Bool) (t : FileTree) :
    (t.retain p).collect f root = (t.collect f root).filter fun l => p l.content := by
  have hlist : listFrom [] (t.retain p) = (listFrom [] t).filter fun l => p l.content := by
    rw [← listFrom_retain?, retain]
    cases t.retain? p <;> rfl
  rw [collect_eq, collect_eq, ← mergeSort_filter, hlist, List.filter_comm]

end FileTree

end GoSurvey
