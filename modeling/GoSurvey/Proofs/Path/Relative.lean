import Mathlib.Data.List.Induction
import Mathlib.Data.List.Infix
import GoSurvey.Proofs.Path

/-!
# Paths as seen from a root

A path below a root ends with names that have slashes between them (`Path.joined`). Taking the
components of the root away leaves a text at the end of the path that stands for these names
(`Path.exists_dropComponents?`), and only one text there does (`Path.eq_joined_of_suffix`). So what
is left of the path are the names as they were put together, before backslashes are replaced.
-/

namespace GoSurvey.Path

/-- Names with slashes between them. -/
def joined (names : List String) : List Char :=
  ['/'].intercalate (names.map (·.toList))

@[simp]
theorem joined_singleton (name : String) : joined [name] = name.toList :=
  List.intercalate_singleton

theorem joined_cons (name : String) {names : List String} (h : names ≠ []) :
    joined (name :: names) = name.toList ++ '/' :: joined names := by
  obtain ⟨second, rest, rfl⟩ := List.exists_cons_of_ne_nil h
  rw [joined, List.map_cons, List.map_cons, List.intercalate_cons_cons, List.append_assoc]
  rfl

theorem joined_concat {names : List String} (h : names ≠ []) (name : String) :
    joined (names ++ [name]) = joined names ++ '/' :: name.toList := by
  induction names with
  | nil => exact absurd rfl h
  | cons first names ih =>
    by_cases hnames : names = []
    · subst hnames
      rw [List.singleton_append, joined_cons first (List.cons_ne_nil _ _), joined_singleton,
        joined_singleton]
    · rw [List.cons_append, joined_cons first (by simp), ih hnames, joined_cons first hnames,
        List.append_assoc]
      rfl

/-- Proper names are the components of the text that they make. -/
theorem inner_joined {names : List String} (h : ∀ n ∈ names, ProperName n) :
    inner (joined names) = names.map fun n => .name n.toList := by
  induction names with
  | nil => rfl
  | cons first names ih =>
    obtain ⟨hfirst, h⟩ := List.forall_mem_cons.1 h
    by_cases hnames : names = []
    · subst hnames
      rw [joined_singleton, hfirst.inner_eq]
      rfl
    · rw [joined_cons first hnames, inner_append_slash, hfirst.inner_eq, ih h]
      rfl

/-! ## The text of a path -/

/-- A text that a name can follow directly. -/
def IsBase (cs : List Char) : Prop :=
  cs = [] ∨ ∃ ds, cs = ds ++ ['/']

/-- A path that is joined with a proper name ends with it. -/
theorem toList_join (base : String) {name : String} (h : ProperName name) :
    IsBase base.toList ∧ (join base name).toList = base.toList ++ name.toList ∨
      ¬ IsBase base.toList ∧ (join base name).toList = base.toList ++ '/' :: name.toList := by
  have hrelative : ¬ name.startsWith "/" = true := by
    intro hstart
    obtain ⟨rest, rfl⟩ := startsWith_iff_exists.1 hstart
    exact h.no_slash (by simp)
  have hbase : (base.isEmpty || base.endsWith "/") = true ↔ IsBase base.toList := by
    rw [Bool.or_eq_true, String.isEmpty_iff, endsWith_iff_exists, IsBase, String.toList_eq_nil_iff]
    refine or_congr_right ⟨?_, ?_⟩
    · rintro ⟨stem, rfl⟩
      exact ⟨stem.toList, String.toList_append⟩
    · rintro ⟨ds, hds⟩
      exact ⟨String.ofList ds, String.toList_injective (by simp [hds])⟩
  rw [join, if_neg hrelative]
  split
  case isTrue h => exact .inl ⟨hbase.1 h, String.toList_append⟩
  case isFalse h => exact .inr ⟨fun hb => h (hbase.2 hb), by simp⟩

/-- A text that ends with a proper name ends with no slash. -/
theorem not_isBase_append (cs : List Char) {name : String} (h : ProperName name) :
    ¬ IsBase (cs ++ name.toList) := by
  have hne : name.toList ≠ [] := fun heq => h.ne_empty (String.toList_injective heq)
  rintro (hnil | ⟨ds, hds⟩)
  · exact hne (List.append_eq_nil_iff.1 hnil).2
  · have hlast := congrArg List.getLast? hds
    rw [List.getLast?_append_of_ne_nil _ hne, List.getLast?_concat] at hlast
    exact h.no_slash (List.mem_of_getLast? hlast)

/-- The path that names lead to from a root ends with these names. -/
theorem exists_toList_foldl_join (root : String) {names : List String} (hne : names ≠ [])
    (h : ∀ n ∈ names, ProperName n) :
    ∃ cs, IsBase cs ∧ (names.foldl join root).toList = cs ++ joined names := by
  induction names using List.reverseRecOn with
  | nil => exact absurd rfl hne
  | append_singleton names name ih =>
    obtain ⟨h, hname⟩ := List.forall_mem_append.1 h
    have hname := hname name (List.mem_singleton_self name)
    rw [List.foldl_append, List.foldl_cons, List.foldl_nil]
    by_cases hnames : names = []
    · subst hnames
      obtain ⟨hbase, heq⟩ | ⟨-, heq⟩ := toList_join root hname
      · exact ⟨root.toList, hbase, by simpa using heq⟩
      · exact ⟨root.toList ++ ['/'], .inr ⟨root.toList, rfl⟩, by simpa using heq⟩
    · obtain ⟨cs, hcs, hpath⟩ := ih hnames h
      -- The last of the names before is a proper one, so a slash is put in.
      have hopen : ¬ IsBase (names.foldl join root).toList := by
        obtain ⟨before, last, rfl⟩ := (List.eq_nil_or_concat' names).resolve_left hnames
        rw [List.foldl_append, List.foldl_cons, List.foldl_nil]
        have hlast := h last (by simp)
        obtain ⟨-, heq⟩ | ⟨-, heq⟩ := toList_join (before.foldl join root) hlast
        · exact heq ▸ not_isBase_append _ hlast
        · rw [heq, ← List.singleton_append, ← List.append_assoc]
          exact not_isBase_append _ hlast
      obtain ⟨hbase, -⟩ | ⟨-, heq⟩ := toList_join (names.foldl join root) hname
      · exact absurd hbase hopen
      · exact ⟨cs, hcs, by rw [heq, hpath, joined_concat hnames, List.append_assoc]⟩

/-! ## What is left of a path -/

theorem trimStart_suffix (fuel : Nat) (cs : List Char) : trimStart fuel cs <:+ cs := by
  fun_induction trimStart fuel cs with
  | case1 => exact List.suffix_refl _
  | case2 fuel rest ih => exact ih.trans (List.suffix_cons _ _)
  | case3 => exact List.nil_suffix
  | case4 fuel rest ih => exact ih.trans ((List.suffix_cons _ _).trans (List.suffix_cons _ _))
  | case5 => exact List.suffix_refl _

/-- Only empty segments and single dots do not count. -/
theorem ofSegment?_ne_none {cs : List Char} (hempty : cs ≠ []) (hdot : cs ≠ ['.']) :
    ofSegment? cs ≠ none := by
  rw [ofSegment?, if_neg (by simp [hempty, hdot])]
  split <;> simp

/-- A slash ends the first segment. -/
theorem segment_append_slash (cs ds : List Char) :
    (segment (cs ++ '/' :: ds)).1 = (segment cs).1 := by
  simp only [segment, List.takeWhile_append, List.takeWhile_cons]
  split
  case isTrue hlength => simp [(List.takeWhile_prefix _).eq_of_length hlength]
  case isFalse => rfl

/-- Nothing is trimmed from a text that starts with a segment that counts. -/
theorem Trimmed.trimStart_eq {cs : List Char} (h : Trimmed cs) (fuel : Nat) :
    trimStart fuel cs = cs := by
  obtain rfl | ⟨hempty, hdot⟩ := h
  · cases fuel <;> rfl
  unfold trimStart
  split
  · rfl
  split
  · exact absurd rfl hempty
  · exact absurd rfl hdot
  · exact absurd rfl hdot
  · rfl

theorem Trimmed.lead_eq {cs : List Char} (h : Trimmed cs) : lead cs = [] := by
  obtain rfl | ⟨hempty, hdot⟩ := h
  · rfl
  have hslash : cs.head? ≠ some '/' := by
    intro hhead
    obtain ⟨ds, rfl⟩ := List.head?_eq_some_iff.1 hhead
    exact hempty rfl
  rw [lead, if_neg hslash, if_neg hdot]

theorem Trimmed.withoutEnd_eq {cs : List Char} (h : Trimmed cs) : withoutEnd cs = trimEnd cs := by
  obtain rfl | ⟨hempty, hdot⟩ := h
  · rfl
  unfold withoutEnd
  split
  · exact absurd rfl hempty
  · exact absurd rfl hdot
  · exact absurd rfl hdot
  · rfl

/-- The first component of a path, and a text at its end that stands for the others. -/
theorem exists_first? {cs : List Char} (hne : cs ≠ []) :
    ∃ c rest, first? cs = some (c, trimStart rest.length rest) ∧
      lead cs ++ inner cs = c :: inner rest ∧ rest <:+ cs := by
  by_cases hslash : cs.head? = some '/'
  · obtain ⟨rest, rfl⟩ := List.head?_eq_some_iff.1 hslash
    refine ⟨.root, rest, rfl, ?_, List.suffix_cons _ _⟩
    rw [lead, if_pos hslash, inner_slash]
    rfl
  have hempty := segment_ne_nil hne hslash
  have hsuffix : (segment cs).2 <:+ cs := ⟨_, segment_append cs⟩
  refine ⟨_, (segment cs).2, first?_eq hne hslash, ?_, hsuffix⟩
  rw [lead, if_neg hslash, inner_segment cs, ofSegment?]
  by_cases hdot : (segment cs).1 = ['.']
  · simp [hdot]
  · by_cases hparent : (segment cs).1 = ['.', '.'] <;> simp [hempty, hdot, hparent]

/-- What is left after the first components of a path stands for the others. -/
theorem exists_dropAll? {c : Component} {before after : List Component} {cs : List Char}
    (h : lead cs ++ inner cs = c :: before ++ after) :
    ∃ rest, dropAll? (c :: before) cs = some (trimEnd rest) ∧ Trimmed rest ∧
      inner rest = after ∧ rest <:+ cs := by
  induction before generalizing c cs with
  | nil =>
    have hne : cs ≠ [] := by
      rintro rfl
      cases h
    obtain ⟨d, rest, hfirst, heq, hsuffix⟩ := exists_first? hne
    obtain ⟨rfl, hrest⟩ := List.cons.inj (heq.symm.trans h)
    refine ⟨trimStart rest.length rest, ?_, trimmed_trimStart (Nat.le_refl _),
      (inner_trimStart _ _).trans hrest, (trimStart_suffix _ _).trans hsuffix⟩
    simp [dropAll?, hfirst]
  | cons e before ih =>
    have hne : cs ≠ [] := by
      rintro rfl
      cases h
    obtain ⟨d, rest, hfirst, heq, hsuffix⟩ := exists_first? hne
    obtain ⟨rfl, hrest⟩ := List.cons.inj (heq.symm.trans h)
    have htrimmed : Trimmed (trimStart rest.length rest) := trimmed_trimStart (Nat.le_refl _)
    obtain ⟨left, hdrop, hleft⟩ := ih (by rw [htrimmed.lead_eq, inner_trimStart, hrest]; rfl)
    refine ⟨left, ?_, hleft.1, hleft.2.1, ?_⟩
    · rw [dropAll?, hfirst]
      simpa using hdrop
    · exact hleft.2.2.trans ((trimStart_suffix _ _).trans hsuffix)

/-- A path starts with a component of its own or with a segment that counts, unless it is empty. -/
theorem lead_cases (cs : List Char) :
    lead cs = [.root] ∨ lead cs = [.current] ∨ lead cs = [] ∧ Trimmed cs := by
  by_cases hnil : cs = []
  · exact .inr (.inr ⟨hnil ▸ rfl, .inl hnil⟩)
  by_cases hslash : cs.head? = some '/'
  · exact .inl (if_pos hslash)
  have hempty := segment_ne_nil hnil hslash
  by_cases hdot : (segment cs).1 = ['.']
  · exact .inr (.inl (by rw [lead, if_neg hslash, if_pos hdot]))
  · exact .inr (.inr ⟨by rw [lead, if_neg hslash, if_neg hdot], .inr ⟨hempty, hdot⟩⟩)

/-- What is left of a path below a root without the components of the root stands for the names that
lead to it. -/
theorem exists_dropComponents? {root path : String} {names : List String}
    (h : components path = components root ++ names.map fun n => .name n.toList) :
    ∃ rest, dropComponents? (components root) path.toList = some (trimEnd rest) ∧ Trimmed rest ∧
      (inner rest = names.map fun n => .name n.toList) ∧ rest <:+ path.toList := by
  rw [components_eq path] at h
  cases hroot : components root with
  | cons c before =>
    rw [hroot] at h
    exact exists_dropAll? h
  | nil =>
    -- The path does not start with a component of its own, because a name comes first.
    rw [hroot, List.nil_append] at h
    obtain hlead | hlead | ⟨hlead, htrimmed⟩ := lead_cases path.toList
    · cases names <;> simp [hlead] at h
    · cases names <;> simp [hlead] at h
    · rw [hlead] at h
      exact ⟨path.toList, congrArg some htrimmed.withoutEnd_eq, htrimmed, h, List.suffix_refl _⟩

/-! ## Only one text stands for names -/

/-- How many characters components take, with a slash for each of them. -/
def width : List Component → Nat
  | [] => 0
  | .name text :: cs => text.length + 1 + width cs
  | _ :: cs => 1 + width cs

theorem width_append (as bs : List Component) : width (as ++ bs) = width as + width bs := by
  induction as with
  | nil => exact (Nat.zero_add _).symm
  | cons a as ih =>
    cases a <;> simp only [List.cons_append, width, ih, Nat.add_assoc]

/-- A text is at least as long as what it stands for. -/
theorem width_inner_le (cs : List Char) : width (inner cs) ≤ cs.length + 1 := by
  induction hn : cs.length using Nat.strong_induction_on generalizing cs with
  | _ n ih =>
    subst hn
    have hsegment : width (ofSegment? (segment cs).1).toList ≤ (segment cs).1.length + 1 := by
      unfold ofSegment?
      split
      · exact Nat.zero_le _
      split <;> simp [width]
    have hlength := congrArg List.length (segment_append cs)
    rw [List.length_append] at hlength
    rw [inner_segment, width_append]
    obtain hnil | ⟨ds, hslash⟩ := segment_snd_cases cs
    · rw [hnil, List.length_nil] at hlength
      rw [hnil, inner_nil, width]
      omega
    · rw [hslash, List.length_cons] at hlength
      have hds := ih ds.length (by omega) ds rfl
      rw [hslash, inner_slash]
      omega

theorem width_names {names : List String} (hne : names ≠ []) :
    width (names.map fun n => .name n.toList) = (joined names).length + 1 := by
  induction names with
  | nil => exact absurd rfl hne
  | cons first names ih =>
    by_cases hnames : names = []
    · subst hnames
      rw [joined_singleton]
      rfl
    · rw [joined_cons first hnames, List.map_cons, width, ih hnames]
      simp
      omega

section
variable {names : List String} (hne : names ≠ []) (h : ∀ n ∈ names, ProperName n)
include hne h

/-- Names with slashes between them end with a segment that counts. -/
theorem trimEnd_joined : trimEnd (joined names) = joined names := by
  obtain ⟨before, last, rfl⟩ := (List.eq_nil_or_concat' names).resolve_left hne
  have hlast := h last (by simp)
  have hslash : '/' ∉ last.toList.reverse := by simpa using hlast.no_slash
  have hsegment : (segment (joined (before ++ [last])).reverse).1 = last.toList.reverse := by
    by_cases hbefore : before = []
    · subst hbefore
      rw [List.nil_append, joined_singleton, segment_of_notMem hslash]
    · rw [joined_concat hbefore, List.reverse_append, List.reverse_cons, List.append_assoc,
        List.singleton_append, segment_append_slash, segment_of_notMem hslash]
  have htrimmed : Trimmed (joined (before ++ [last])).reverse := by
    refine .inr ⟨hsegment ▸ fun heq => ?_, hsegment ▸ fun heq => ?_⟩
    · exact hlast.ne_empty (String.toList_injective (List.reverse_eq_nil_iff.1 heq))
    · exact hlast.ne_current (String.toList_injective (List.reverse_eq_iff.1 heq))
  rw [trimEnd, htrimmed.trimStart_eq, List.reverse_reverse]

/-- Of the texts at the end of a path, only the names themselves stand for them and start with a
segment that counts. -/
theorem eq_joined_of_suffix {cs rest : List Char} (hcs : IsBase cs)
    (hsuffix : rest <:+ cs ++ joined names) (htrimmed : Trimmed rest)
    (hinner : inner rest = names.map fun n => .name n.toList) : rest = joined names := by
  obtain hshort | hlong := List.suffix_or_suffix_of_suffix hsuffix (List.suffix_append cs _)
  · -- A shorter text has too few characters for the names.
    have hwidth := width_inner_le rest
    rw [hinner, width_names hne] at hwidth
    exact hshort.eq_of_length_le (by omega)
  · -- A longer text starts with segments that do not count.
    obtain ⟨ds, rfl⟩ := hlong
    have hds : ds <:+ cs := ((List.suffix_append_inj_of_length_eq rfl).1 hsuffix).1
    by_cases hnil : ds = []
    · rw [hnil, List.nil_append]
    exfalso
    obtain ⟨es, rfl⟩ : ∃ es, ds = es ++ ['/'] := by
      obtain rfl | ⟨bs, rfl⟩ := hcs
      · exact absurd (List.suffix_nil.1 hds) hnil
      · obtain ⟨es, last, rfl⟩ := (List.eq_nil_or_concat' ds).resolve_left hnil
        have hlength : [last].length = ['/'].length := rfl
        exact ⟨es, by rw [((List.suffix_append_inj_of_length_eq hlength).1 hds).2]⟩
    rw [List.append_assoc, List.singleton_append] at hinner htrimmed
    rw [inner_append_slash, inner_joined h, List.append_left_eq_self, inner_segment,
      List.append_eq_nil_iff] at hinner
    obtain hnil | ⟨hempty, hdot⟩ := htrimmed
    · simp at hnil
    · rw [segment_append_slash] at hempty hdot
      exact ofSegment?_ne_none hempty hdot (Option.toList_eq_nil_iff.1 hinner.1)

end

/-! ## Backslashes -/

/-- Names cut at their backslashes. -/
def pieces (names : List String) : List (List Char) :=
  names.flatMap fun n => n.toList.splitOn '\\'

/-- Without backslashes the pieces are the names themselves. -/
theorem pieces_eq_map {names : List String} (h : ∀ n ∈ names, '\\' ∉ n.toList) :
    pieces names = names.map (·.toList) := by
  rw [pieces, List.map_eq_flatMap]
  exact List.flatMap_congr fun n hn => List.splitOn_eq_singleton (h n hn)

/-- The segments of a normalized text without slashes are what its backslashes cut it into. -/
theorem splitOn_map_slash {cs : List Char} (h : '/' ∉ cs) :
    (cs.map fun c => if c = '\\' then '/' else c).splitOn '/' = cs.splitOn '\\' := by
  induction cs with
  | nil => rfl
  | cons c cs ih =>
    have hc : c ≠ '/' := fun heq => h (heq ▸ List.mem_cons_self)
    have ih := ih fun hmem => h (List.mem_cons_of_mem c hmem)
    simp only [List.splitOn, List.map_cons, List.splitOnP_cons_eq_if_modifyHead] at ih ⊢
    by_cases hback : c = '\\'
    · simp [hback, ih]
    · simp [hback, hc, ih]

/-- The segments of normalized names are their pieces. -/
theorem splitOn_normalize {names : List String} (hne : names ≠ [])
    (h : ∀ n ∈ names, '/' ∉ n.toList) :
    (normalize (String.ofList (joined names))).toList.splitOn '/' = pieces names := by
  rw [normalize, String.toList_ofList, String.toList_ofList]
  induction names with
  | nil => exact absurd rfl hne
  | cons first names ih =>
    obtain ⟨hfirst, h⟩ := List.forall_mem_cons.1 h
    by_cases hnames : names = []
    · subst hnames
      rw [joined_singleton, splitOn_map_slash hfirst, pieces, List.flatMap_singleton]
    · rw [joined_cons first hnames, List.map_append, List.map_cons, if_neg (by decide),
        List.splitOn_append_cons_self, splitOn_map_slash hfirst, ih hnames h, pieces, pieces,
        List.flatMap_cons]

/-- Names look the same after normalization if they have the same pieces. -/
theorem normalize_joined_eq_iff {names names' : List String} (hne : names ≠ []) (hne' : names' ≠ [])
    (h : ∀ n ∈ names, '/' ∉ n.toList) (h' : ∀ n ∈ names', '/' ∉ n.toList) :
    normalize (String.ofList (joined names)) = normalize (String.ofList (joined names')) ↔
      pieces names = pieces names' := by
  rw [← splitOn_normalize hne h, ← splitOn_normalize hne' h']
  refine ⟨fun heq => by rw [heq], fun heq => String.toList_injective ?_⟩
  have hjoin := congrArg ['/'].intercalate heq
  rwa [List.intercalate_splitOn, List.intercalate_splitOn] at hjoin

end GoSurvey.Path
