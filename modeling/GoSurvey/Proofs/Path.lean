import Mathlib.Data.List.Basic
import Mathlib.Data.List.TakeWhile
import Mathlib.Tactic.Conv
import GoSurvey.Path

/-!
# Components of paths

The components of a path are what its segments stand for, after what it starts with
(`Path.components_eq`). A path that is joined with a proper name has one component more
(`Path.components_join`).
-/

namespace GoSurvey.Path

/-- The component that a segment stands for, other than at the start. Empty segments and single dots
do not count. -/
def ofSegment? (s : List Char) : Option Component :=
  if s = [] ∨ s = ['.'] then none
  else if s = ['.', '.'] then some .parent
  else some (.name s)

/-- The components that the segments of a text stand for. -/
def inner (cs : List Char) : List Component :=
  (cs.splitOn '/').filterMap ofSegment?

/-- What a path starts with, if that is a component of its own: a slash or a single dot. -/
def lead (cs : List Char) : List Component :=
  if cs.head? = some '/' then [.root]
  else if (segment cs).1 = ['.'] then [.current]
  else []

/-! ## Segments -/

@[simp]
theorem inner_nil : inner [] = [] :=
  rfl

theorem inner_append_slash (cs ds : List Char) :
    inner (cs ++ '/' :: ds) = inner cs ++ inner ds := by
  rw [inner, List.splitOn_append_cons_self, List.filterMap_append]
  rfl

@[simp]
theorem inner_slash (cs : List Char) : inner ('/' :: cs) = inner cs :=
  inner_append_slash [] cs

/-- A text without slashes is one segment. -/
theorem inner_of_notMem {cs : List Char} (h : '/' ∉ cs) : inner cs = (ofSegment? cs).toList := by
  rw [inner, List.splitOn_eq_singleton h]
  cases hs : ofSegment? cs <;> simp [hs]

theorem segment_append (cs : List Char) : (segment cs).1 ++ (segment cs).2 = cs :=
  List.takeWhile_append_dropWhile

theorem notMem_segment (cs : List Char) : '/' ∉ (segment cs).1 := by
  intro h
  simpa using List.mem_takeWhile_imp h

/-- What follows a segment is nothing, or starts with a slash. -/
theorem segment_snd_cases (cs : List Char) :
    (segment cs).2 = [] ∨ ∃ ds, (segment cs).2 = '/' :: ds := by
  have hhead := List.head?_dropWhile_not (· != '/') cs
  cases h : (segment cs).2 with
  | nil => exact .inl rfl
  | cons d ds =>
    rw [show cs.dropWhile (· != '/') = d :: ds from h] at hhead
    exact .inr ⟨ds, by simpa using hhead⟩

/-- The first segment comes first. -/
theorem inner_segment (cs : List Char) :
    inner cs = (ofSegment? (segment cs).1).toList ++ inner (segment cs).2 := by
  have hfirst := inner_of_notMem (notMem_segment cs)
  conv_lhs => rw [← segment_append cs]
  obtain hnil | ⟨ds, hslash⟩ := segment_snd_cases cs
  · rw [hnil, List.append_nil, hfirst, inner_nil, List.append_nil]
  · rw [hslash, inner_append_slash, hfirst, inner_slash]

/-! ## Trimming -/

/-- A text that is empty or starts with a segment that counts. -/
def Trimmed (cs : List Char) : Prop :=
  cs = [] ∨ (segment cs).1 ≠ [] ∧ (segment cs).1 ≠ ['.']

theorem length_trimStart_le (fuel : Nat) (cs : List Char) :
    (trimStart fuel cs).length ≤ cs.length := by
  fun_induction trimStart fuel cs with
  | case1 => exact Nat.le_refl _
  | case2 fuel rest ih => exact Nat.le_succ_of_le ih
  | case3 => exact Nat.zero_le _
  | case4 fuel rest ih => exact Nat.le_succ_of_le (Nat.le_succ_of_le ih)
  | case5 => exact Nat.le_refl _

/-- What is trimmed does not count. -/
theorem inner_trimStart (fuel : Nat) (cs : List Char) : inner (trimStart fuel cs) = inner cs := by
  fun_induction trimStart fuel cs with
  | case1 => rfl
  | case2 fuel rest ih => rw [ih, inner_slash]
  | case3 => rfl
  | case4 fuel rest ih =>
    rw [ih]
    exact (inner_append_slash ['.'] rest).symm
  | case5 => rfl

theorem trimmed_trimStart {fuel : Nat} {cs : List Char} (h : cs.length ≤ fuel) :
    Trimmed (trimStart fuel cs) := by
  fun_induction trimStart fuel cs with
  | case1 cs => exact .inl (List.eq_nil_of_length_eq_zero (Nat.le_zero.1 h))
  | case2 fuel rest ih => exact ih (Nat.le_of_succ_le_succ h)
  | case3 => exact .inl rfl
  | case4 fuel rest ih => exact ih (by simp at h; omega)
  | case5 fuel cs hslash hdot hdotslash =>
    cases cs with
    | nil => exact .inl rfl
    | cons c cs =>
      have hc : c ≠ '/' := fun heq => hslash cs (by rw [heq])
      refine .inr ⟨by simp [segment, hc], fun heq => ?_⟩
      have htail : c = '.' ∧ cs.takeWhile (· != '/') = [] := by simpa [segment, hc] using heq
      obtain ⟨rfl, htail⟩ := htail
      cases cs with
      | nil => exact hdot rfl
      | cons d ds =>
        have hd : d = '/' := by simpa [List.takeWhile_cons] using htail
        exact hdotslash ds (by rw [hd])

/-! ## Components -/

/-- The first segment of a path that does not start with a slash. -/
theorem first?_eq {cs : List Char} (hne : cs ≠ []) (hslash : cs.head? ≠ some '/') :
    first? cs = some
      (if (segment cs).1 = ['.'] then .current
        else if (segment cs).1 = ['.', '.'] then .parent else .name (segment cs).1,
        trimStart (segment cs).2.length (segment cs).2) := by
  unfold first?
  split
  · exact absurd rfl hne
  · exact absurd rfl hslash
  · rfl

theorem segment_ne_nil {cs : List Char} (hne : cs ≠ []) (hslash : cs.head? ≠ some '/') :
    (segment cs).1 ≠ [] := by
  cases cs with
  | nil => exact absurd rfl hne
  | cons c cs =>
    have hc : c ≠ '/' := fun heq => hslash (by rw [heq]; rfl)
    simp [segment, hc]

theorem length_segment_snd_lt {cs : List Char} (h : (segment cs).1 ≠ []) :
    (segment cs).2.length < cs.length := by
  have hlength := congrArg List.length (segment_append cs)
  rw [List.length_append] at hlength
  have hpos := List.length_pos_iff.2 h
  omega

/-- Components are read segment by segment. -/
theorem componentsFrom_eq {fuel : Nat} {cs : List Char} (hcs : Trimmed cs) (h : cs.length ≤ fuel) :
    componentsFrom fuel cs = inner cs := by
  induction fuel generalizing cs with
  | zero =>
    obtain rfl := List.eq_nil_of_length_eq_zero (Nat.le_zero.1 h)
    rfl
  | succ fuel ih =>
    obtain rfl | ⟨hempty, hdot⟩ := hcs
    · rfl
    have hne : cs ≠ [] := by
      rintro rfl
      exact hempty rfl
    have hslash : cs.head? ≠ some '/' := by
      intro hhead
      obtain ⟨ds, rfl⟩ := List.head?_eq_some_iff.1 hhead
      exact hempty rfl
    have hlt := length_segment_snd_lt hempty
    have hle := length_trimStart_le (segment cs).2.length (segment cs).2
    rw [componentsFrom, first?_eq hne hslash, inner_segment cs, if_neg hdot]
    dsimp only
    rw [ih (trimmed_trimStart (Nat.le_refl _)) (by omega), inner_trimStart]
    simp only [ofSegment?, hempty, hdot, or_self, if_false]
    split <;> rfl

/-- What follows a component stands for the components after it. -/
theorem componentsFrom_trimStart {fuel : Nat} {cs : List Char} (h : cs.length ≤ fuel) :
    componentsFrom fuel (trimStart cs.length cs) = inner cs := by
  have hle := length_trimStart_le cs.length cs
  rw [componentsFrom_eq (trimmed_trimStart (Nat.le_refl _)) (by omega), inner_trimStart]

/-- The components of a path: what it starts with, and what its segments stand for. -/
theorem components_eq (path : String) :
    components path = lead path.toList ++ inner path.toList := by
  rw [components, ← String.length_toList]
  generalize path.toList = cs
  cases cs with
  | nil => rfl
  | cons c cs =>
    by_cases hc : c = '/'
    · subst hc
      rw [List.length_cons, componentsFrom, first?]
      dsimp only
      rw [componentsFrom_trimStart (Nat.le_refl _), inner_slash]
      rfl
    have hslash : (c :: cs).head? ≠ some '/' := by simpa using hc
    have hempty := segment_ne_nil (List.cons_ne_nil c cs) hslash
    by_cases hdot : (segment (c :: cs)).1 = ['.']
    · have hlt := length_segment_snd_lt hempty
      rw [List.length_cons] at hlt
      rw [List.length_cons, componentsFrom, first?_eq (List.cons_ne_nil c cs) hslash, if_pos hdot]
      dsimp only
      rw [componentsFrom_trimStart (Nat.le_of_lt_succ hlt), inner_segment (c :: cs), hdot, lead,
        if_neg hslash, if_pos hdot]
      rfl
    · rw [componentsFrom_eq (.inr ⟨hempty, hdot⟩) (Nat.le_refl _), lead, if_neg hslash, if_neg hdot]
      rfl

/-! ## Joining -/

theorem startsWith_iff_exists {s p : String} : s.startsWith p = true ↔ ∃ rest, s = p ++ rest := by
  rw [String.startsWith_string_iff]
  constructor
  · rintro ⟨cs, hcs⟩
    exact ⟨String.ofList cs, String.toList_injective (by simp [hcs])⟩
  · rintro ⟨rest, rfl⟩
    exact ⟨rest.toList, String.toList_append.symm⟩

theorem endsWith_iff_exists {s p : String} : s.endsWith p = true ↔ ∃ stem, s = stem ++ p := by
  rw [String.endsWith, String.Slice.endsWith_string_iff, String.copy_toSlice]
  constructor
  · rintro ⟨cs, hcs⟩
    exact ⟨String.ofList cs, String.toList_injective (by simp [hcs])⟩
  · rintro ⟨stem, rfl⟩
    exact ⟨stem.toList, String.toList_append.symm⟩

/-- A name that a file or a directory below a root can have. -/
structure ProperName (name : String) : Prop where
  ne_empty : name ≠ ""
  ne_current : name ≠ "."
  ne_parent : name ≠ ".."
  no_slash : '/' ∉ name.toList

instance (name : String) : Decidable (ProperName name) :=
  decidable_of_iff (name ≠ "" ∧ name ≠ "." ∧ name ≠ ".." ∧ '/' ∉ name.toList)
    ⟨fun ⟨h₁, h₂, h₃, h₄⟩ => ⟨h₁, h₂, h₃, h₄⟩, fun ⟨h₁, h₂, h₃, h₄⟩ => ⟨h₁, h₂, h₃, h₄⟩⟩

/-- A proper name is one component. -/
theorem ProperName.inner_eq {name : String} (h : ProperName name) :
    inner name.toList = [.name name.toList] := by
  have hempty : name.toList ≠ [] := fun heq => h.ne_empty (String.toList_injective heq)
  have hcurrent : name.toList ≠ ['.'] := fun heq => h.ne_current (String.toList_injective heq)
  have hparent : name.toList ≠ ['.', '.'] := fun heq => h.ne_parent (String.toList_injective heq)
  rw [inner_of_notMem h.no_slash, ofSegment?, if_neg (by simp [hempty, hcurrent]), if_neg hparent]
  rfl

/-- A text without slashes is its own first segment. -/
theorem segment_of_notMem {cs : List Char} (h : '/' ∉ cs) : (segment cs).1 = cs := by
  refine List.takeWhile_eq_self_iff.2 fun c hc => ?_
  have hne : c ≠ '/' := fun heq => h (heq ▸ hc)
  simpa using hne

theorem ProperName.lead_eq {name : String} (h : ProperName name) : lead name.toList = [] := by
  have hslash : name.toList.head? ≠ some '/' := fun heq => h.no_slash (List.mem_of_head? heq)
  have hcurrent : name.toList ≠ ['.'] := fun heq => h.ne_current (String.toList_injective heq)
  rw [lead, if_neg hslash, segment_of_notMem h.no_slash, if_neg hcurrent]

/-- More text does not change what a path starts with, unless it makes the first segment longer. -/
theorem lead_append {cs ds : List Char} (hne : cs ≠ []) (h : '/' ∈ cs ∨ ds.head? = some '/') :
    lead (cs ++ ds) = lead cs := by
  have hsegment : (segment (cs ++ ds)).1 = (segment cs).1 := by
    obtain hmem | hhead := h
    · obtain ⟨as, bs, rfl⟩ := List.append_of_mem hmem
      simp [segment, List.takeWhile_append]
    · obtain ⟨ds, rfl⟩ := List.head?_eq_some_iff.1 hhead
      simp only [segment, List.takeWhile_append, List.takeWhile_cons]
      split
      case isTrue hlength => simp [(List.takeWhile_prefix _).eq_of_length hlength]
      case isFalse => rfl
  rw [lead, lead, hsegment, List.head?_append_of_ne_nil cs hne]

/-- A path below another one has one component more. -/
theorem components_join (base : String) {name : String} (h : ProperName name) :
    components (join base name) = components base ++ [.name name.toList] := by
  have hrelative : ¬ name.startsWith "/" = true := by
    intro hstart
    obtain ⟨rest, rfl⟩ := startsWith_iff_exists.1 hstart
    exact h.no_slash (by simp)
  rw [join, if_neg hrelative]
  by_cases hbase : base = ""
  · subst hbase
    rw [if_pos (by simp), String.empty_append, components_eq name, h.lead_eq, h.inner_eq]
    rfl
  have hne : base.toList ≠ [] := fun heq => hbase (String.toList_injective heq)
  split
  case isTrue hend =>
    -- The slash at the end of the path is the one before the name.
    obtain ⟨stem, hstem⟩ : ∃ stem, base = stem ++ "/" :=
      endsWith_iff_exists.1 (by simpa [hbase] using hend)
    have hcs : base.toList = stem.toList ++ ['/'] := by rw [hstem, String.toList_append]; rfl
    rw [components_eq, components_eq, String.toList_append,
      lead_append hne (.inl (hcs ▸ by simp)), hcs, List.append_assoc, List.singleton_append,
      inner_append_slash, inner_append_slash, h.inner_eq, inner_nil, List.append_nil,
      List.append_assoc]
  case isFalse =>
    rw [components_eq, components_eq, String.toList_append, String.toList_append,
      List.append_assoc, lead_append hne (.inr rfl)]
    change _ ++ inner (base.toList ++ '/' :: name.toList) = _
    rw [inner_append_slash, h.inner_eq, List.append_assoc]

/-! ## Order -/

/-- The place of a component among those of other kinds. -/
def Component.rank : Component → Nat
  | .root => 0
  | .current => 1
  | .parent => 2
  | .name _ => 3

/-- One component comes before another: the kinds decide, and the bytes of two names. -/
inductive Component.Before : Component → Component → Prop
  | rank {c d : Component} (h : c.rank < d.rank) : Before c d
  | name {s t : List Char}
      (h : compare (s.flatMap String.utf8EncodeChar) (t.flatMap String.utf8EncodeChar) = .lt) :
      Before (.name s) (.name t)

theorem Component.Before.irrefl (c : Component) : ¬ c.Before c := by
  rintro (h | h)
  · exact Nat.lt_irrefl _ h
  · exact Ordering.noConfusion (Std.ReflCmp.compare_self.symm.trans h)

/-- One path comes before another: the first difference between their components decides. -/
def Before (p q : String) : Prop :=
  List.Lex Component.Before (components p) (components q)

theorem Before.ne {p q : String} (h : Before p q) : p ≠ q := by
  rintro rfl
  exact List.lex_irrefl Component.Before.irrefl _ h

end GoSurvey.Path
