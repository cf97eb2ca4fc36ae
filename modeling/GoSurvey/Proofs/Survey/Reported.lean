import GoSurvey.Proofs.Path.Relative
import GoSurvey.Proofs.Survey.Collected
import GoSurvey.Proofs.Survey.Merge
import GoSurvey.Proofs.Survey.Outcomes

/-!
# Under which path a file is reported

A file below the root is reported by the names that lead to it as they are shown, with slashes
between them and in place of backslashes (`Listed.reported_eq`). All records and errors of the file
carry that path (`Config.examineAll_files`). Two files share a path exactly if their names are shown
by the same pieces when they are cut at backslashes (`FileTree.collect_reported`): with names that
are texts without backslashes each file has a path of its own, but a file `a\b.go` is taken for the
file `b.go` in the directory `a` (`FileTree.collect_reported_backslash`).
-/

namespace GoSurvey

namespace Listed

/-- A file below the root is reported by its names, as they are shown. -/
theorem reported_eq (root : String) {l : Listed} (hne : l.names ≠ [])
    (h : ∀ n ∈ l.names, n.Proper) :
    l.reported root = Path.normalize (String.ofList (Path.joined l.shown)) := by
  have hshown := properName_of_mem_shown h
  have hne' : l.shown ≠ [] := fun heq => hne (List.map_eq_nil_iff.1 heq)
  obtain ⟨cs, hcs, hpath⟩ := Path.exists_toList_foldl_join root hne' hshown
  obtain ⟨rest, hdrop, htrimmed, hinner, hsuffix⟩ :=
    Path.exists_dropComponents? (components_path root h)
  obtain rfl := Path.eq_joined_of_suffix hne' hshown hcs (hpath ▸ hsuffix) htrimmed hinner
  rw [Path.trimEnd_joined hne' hshown] at hdrop
  rw [reported, Path.relative, hdrop]
  split
  next hnone => cases hnone
  next hempty =>
    rw [Option.some.inj hempty] at hinner
    exact absurd (List.map_eq_nil_iff.1 hinner.symm) hne'
  next heq => rw [← Option.some.inj heq]

/-- Two files below the root are reported by the same path if their names are shown by the same
pieces. -/
theorem reported_eq_iff (root : String) {a b : Listed} (ha : a.names ≠ []) (hb : b.names ≠ [])
    (hproper : ∀ n ∈ a.names, n.Proper) (hproper' : ∀ n ∈ b.names, n.Proper) :
    a.reported root = b.reported root ↔ Path.pieces a.shown = Path.pieces b.shown := by
  rw [reported_eq root ha hproper, reported_eq root hb hproper']
  exact Path.normalize_joined_eq_iff (by simpa [shown] using ha) (by simpa [shown] using hb)
    (fun s hs => (properName_of_mem_shown hproper s hs).no_slash)
    fun s hs => (properName_of_mem_shown hproper' s hs).no_slash

end Listed

/-! ## Records and errors -/

namespace FileFacts

theorem file_of_mem_allGlobals {file package : String} {specs : List ValueSpec} {c : TypeCache}
    {g : GlobalRecord} (hg : g ∈ (allGlobals file package specs c).1) : g.file = file := by
  induction specs generalizing c with
  | nil => cases hg
  | cons spec specs ih =>
    obtain hg | hg := List.mem_append.1 hg
    · obtain ⟨_, _, rfl⟩ := List.mem_map.1 hg
      rfl
    · exact ih hg

theorem file_of_mem_allFunctions {file package : String} {scope : Scope} {decls : List FuncDecl}
    {c : TypeCache} {f : FunctionRecord} (hf : f ∈ (allFunctions file package scope decls c).1) :
    f.file = file := by
  induction decls generalizing c with
  | nil => cases hf
  | cons decl decls ih =>
    obtain rfl | hf := List.mem_cons.1 hf
    · rfl
    · exact ih hf

theorem file_of_mem_structsOf {file package : String} {specs : List TypeSpec} {r : StructRecord}
    (hr : r ∈ structsOf file package specs) : r.file = file := by
  obtain ⟨spec, -, hr⟩ := List.mem_filterMap.1 hr
  split at hr
  · cases hr
    rfl
  · cases hr

theorem file_of_mem_interfacesOf {file package : String} {specs : List TypeSpec}
    {r : InterfaceRecord} (hr : r ∈ interfacesOf file package specs) : r.file = file := by
  obtain ⟨spec, -, hr⟩ := List.mem_filterMap.1 hr
  split at hr
  · cases hr
    rfl
  · cases hr

/-- All records of a file carry the path that the file is reported by. -/
theorem file_of_mem_files_extract {file : SourceFile} {path p : String} {c : TypeCache}
    (hp : p ∈ (extract file path c).1.files) : p = path := by
  obtain ⟨files, hfiles, hp⟩ := List.mem_flatten.1 hp
  simp only [List.mem_cons, List.not_mem_nil, or_false] at hfiles
  obtain rfl | rfl | rfl | rfl | rfl := hfiles
  all_goals obtain ⟨r, hr, rfl⟩ := List.mem_map.1 hp
  · exact file_of_mem_allFunctions hr
  · exact file_of_mem_structsOf hr
  · exact file_of_mem_interfacesOf hr
  · exact file_of_mem_allGlobals hr
  · obtain ⟨i, -, rfl⟩ := List.mem_map.1 hr
    rfl

end FileFacts

/-- An outcome with the facts of a file and its error carries the path of the file and no other. -/
theorem Outcome.file_of_mem_files {file : SourceFile} {path : String} {c : TypeCache} {o : Outcome}
    (hfacts : ∀ facts ∈ o.facts, facts = (FileFacts.extract file path c).1)
    (herror : ∀ e ∈ o.error, e.file = path) : ∀ p ∈ o.files, p = path := by
  intro p hp
  obtain hp | hp := List.mem_append.1 hp
  · obtain ⟨facts, hmem, hp⟩ := List.mem_flatMap.1 hp
    rw [hfacts facts (Option.mem_toList.1 hmem)] at hp
    exact FileFacts.file_of_mem_files_extract hp
  · obtain ⟨e, he, rfl⟩ := List.mem_map.1 hp
    exact herror e (Option.mem_toList.1 he)

/-- The entry for a failure carries the path that the file is reported by. -/
theorem SurveyError.file_of_toFileError? {e : SurveyError} {file : String} {entry : FileError}
    (h : e.toFileError? file = some entry) : entry.file = file := by
  cases e with
  | read | parse =>
    cases h
    rfl
  | _ => cases h

namespace Config

/-- Whatever comes of a file, it carries the path that the file is reported by. -/
theorem file_of_mem_files_settle {c : Config} {path reported : String} {content : List UInt8}
    {cache : TypeCache} {o : Outcome}
    (h : c.settle reported (c.examine path reported content cache).1 = .ok o) :
    ∀ p ∈ o.files, p = reported := by
  have hfiles := @Outcome.file_of_mem_files ((Go.Source.read content).toSourceFile path) reported
    cache o
  unfold examine at h
  dsimp only at h
  split at h
  next =>
    -- The file failed, and the failure became an entry.
    unfold settle at h
    dsimp only at h
    split at h
    next entry _ hentry =>
      cases h
      exact hfiles (by simp) (by simp [SurveyError.file_of_toFileError? hentry])
    next => cases h
  next =>
    cases h
    refine hfiles (fun facts hfacts => (Option.some.inj hfacts).symm) fun e he => ?_
    obtain ⟨failure, -, hentry⟩ := Option.bind_eq_some_iff.1 he
    exact SurveyError.file_of_toFileError? hentry

/-- Of each file that a survey reads comes something that carries the path of that file. -/
theorem examineAll_files {c : Config} {root : String} {files : List Listed} {cache : TypeCache}
    {outcomes : List Outcome} (h : c.examineAll root files cache = .ok outcomes) :
    List.Forall₂ (fun l o => ∀ p ∈ o.files, p = l.reported root) files outcomes := by
  induction files generalizing cache outcomes with
  | nil =>
    cases h
    exact .nil
  | cons l files ih =>
    unfold examineAll at h
    dsimp only at h
    split at h
    next => cases h
    next o ho =>
      obtain ⟨rest, hrest, rfl⟩ := except_map_eq_ok_iff.1 h
      exact .cons (file_of_mem_files_settle ho) (ih hrest)

end Config

/-- What comes of files with different paths shares no path. -/
theorem Listed.pairwise_disjoint {root : String} {files : List Listed} {outcomes : List Outcome}
    (h : List.Forall₂ (fun l o => ∀ p ∈ o.files, p = l.reported root) files outcomes)
    (hpaths : files.Pairwise fun a b => a.reported root ≠ b.reported root) :
    outcomes.Pairwise fun o o' => o.files.Disjoint o'.files := by
  obtain ⟨hlength, hfiles⟩ := List.forall₂_iff_get.1 h
  rw [List.pairwise_iff_getElem] at hpaths ⊢
  intro i j hi hj hij p hp hp'
  have hi' : i < files.length := by omega
  have hj' : j < files.length := by omega
  have hfile : p = files[i].reported root := hfiles i hi' hi p hp
  have hfile' : p = files[j].reported root := hfiles j hj' hj p hp'
  exact hpaths i j hi' hj' hij (hfile.symm.trans hfile')

/-! ## Files that share a path -/

/-- The name of a text without backslashes. -/
def FileName.IsPlain (n : FileName) : Prop :=
  n.IsText ∧ '\\' ∉ n.shown.toList

instance (n : FileName) : Decidable n.IsPlain :=
  inferInstanceAs (Decidable (n.IsText ∧ '\\' ∉ n.shown.toList))

namespace Listed

variable {l : Listed} (h : ∀ n ∈ l.names, n.IsPlain)
include h

theorem no_backslash : ∀ s ∈ l.shown, '\\' ∉ s.toList := by
  intro s hs
  obtain ⟨n, hn, rfl⟩ := List.mem_map.1 hs
  exact (h n hn).2

theorem map_ofString_shown : l.shown.map .ofString = l.names := by
  have hid : ∀ n ∈ l.names, (FileName.ofString ∘ fun n => n.shown) n = n := fun n hn =>
    (h n hn).1.ofString_shown
  rw [shown, List.map_map, List.map_congr_left hid, List.map_id']

end Listed

namespace FileTree

/-- Names lead either to all files of a tree or to none. -/
theorem Holds.names_eq_nil_iff {t : FileTree} {names names' : List FileName}
    {content content' : List UInt8} (h : t.Holds names content) (h' : t.Holds names' content') :
    names = [] ↔ names' = [] := by
  have heq := h.isDirectory_eq.symm.trans h'.isDirectory_eq
  rw [Bool.not_inj_iff] at heq
  rw [← List.isEmpty_iff, ← List.isEmpty_iff, heq]

section
variable {t : FileTree} (hproper : t.ProperlyNamed) {f : Filter} {root : String} {a b : Listed}
  (ha : a ∈ t.collect f root) (hb : b ∈ t.collect f root)
include hproper ha hb

/-- Two files of a survey are reported by the same path if their names are shown by the same
pieces. -/
theorem reported_eq_iff_of_mem_collect :
    a.reported root = b.reported root ↔ Path.pieces a.shown = Path.pieces b.shown := by
  have hheld := ((mem_collect_iff f root).1 ha).held
  have hheld' := ((mem_collect_iff f root).1 hb).held
  have hempty := hheld.names_eq_nil_iff hheld'
  by_cases hnames : a.names = []
  · -- The root itself is the file.
    have hsame : a.shown = b.shown := by rw [Listed.shown, Listed.shown, hnames, hempty.1 hnames]
    rw [Listed.reported, Listed.reported, Listed.path, Listed.path, hsame]
    exact iff_of_true rfl rfl
  · exact Listed.reported_eq_iff root hnames (hempty.not.1 hnames) (hheld.proper hproper)
      (hheld'.proper hproper)

/-- Files whose names are texts without backslashes share a path only if they have the same
names. -/
theorem names_eq_of_reported_eq (hplain : ∀ n ∈ a.names ++ b.names, n.IsPlain)
    (h : a.reported root = b.reported root) : a.names = b.names := by
  obtain ⟨hplain, hplain'⟩ := List.forall_mem_append.1 hplain
  have hshown : a.shown = b.shown := by
    rw [reported_eq_iff_of_mem_collect hproper ha hb,
      Path.pieces_eq_map (Listed.no_backslash hplain),
      Path.pieces_eq_map (Listed.no_backslash hplain')] at h
    exact List.map_injective_iff.2 (fun _ _ => String.toList_injective) h
  rw [← Listed.map_ofString_shown hplain, hshown, Listed.map_ofString_shown hplain']

end

/-- **Files are reported by different paths, up to backslashes and what is no text.** Two files that
a survey sees below any root share a reported path exactly if their names are shown by the same
pieces when they are cut at backslashes; so two different files whose names are texts without
backslashes never do. Whatever comes of a file, records or an error, carries the path of that file
and no other, so that with such names nothing that comes of one file is attributed to another. -/
theorem collect_reported {t : FileTree} (hdistinct : t.WellNamed) (hproper : t.ProperlyNamed)
    (f : Filter) (root : String) :
    let files := t.collect f root
    (∀ a ∈ files, ∀ b ∈ files,
      a.reported root = b.reported root ↔ Path.pieces a.shown = Path.pieces b.shown) ∧
    (∀ a ∈ files, ∀ b ∈ files, a ≠ b → (∀ n ∈ a.names ++ b.names, n.IsPlain) →
      a.reported root ≠ b.reported root) ∧
    ∀ (c : Config) (cache : TypeCache) (outcomes : List Outcome),
      c.examineAll root files cache = .ok outcomes →
        List.Forall₂ (fun l o => ∀ p ∈ o.files, p = l.reported root) files outcomes ∧
        ((∀ l ∈ files, ∀ n ∈ l.names, n.IsPlain) →
          outcomes.Pairwise fun o o' => o.files.Disjoint o'.files) := by
  intro files
  have hnodup : (files.map (·.names)).Nodup :=
    List.pairwise_map.2 ((hdistinct.pairwise_collect f root).imp Listed.Before.names_ne)
  refine ⟨fun a ha b hb => reported_eq_iff_of_mem_collect hproper ha hb,
    fun a ha b hb hne hplain heq => ?_, fun c cache outcomes h => ?_⟩
  · have hnames := names_eq_of_reported_eq hproper ha hb hplain heq
    exact hne (List.inj_on_of_nodup_map hnodup ha hb hnames)
  · have hfiles := Config.examineAll_files h
    refine ⟨hfiles, fun hplain => Listed.pairwise_disjoint hfiles ?_⟩
    refine (List.pairwise_map.1 hnodup).imp_of_mem fun {a b} ha hb hne heq => hne ?_
    exact names_eq_of_reported_eq hproper ha hb
      (List.forall_mem_append.2 ⟨hplain a ha, hplain b hb⟩) heq

/-- A directory with a file in it, a file whose name has a backslash in place of the slash, and
another file. -/
def lookalikes : FileTree :=
  .directory "r" [.directory "a" [.file "b.go" []], .file "a\\b.go" [], .file "c.go" []]

theorem wellNamed_lookalikes : lookalikes.WellNamed := by
  simp [lookalikes, WellNamed, AllWellNamed, name]

theorem properlyNamed_lookalikes : lookalikes.ProperlyNamed := by
  simp only [lookalikes, ProperlyNamed, AllProperlyNamed, name]
  decide +kernel

/-- A survey of the three files sees all of them. -/
theorem mem_collect_lookalikes {names : List FileName} (hheld : lookalikes.Holds names [])
    (hentered : ∀ d ∈ names.dropLast, isSkipped d = false)
    (haccepts : Filter.accepts ⟨false, []⟩ "r" ⟨names, []⟩ = true) :
    ⟨names, []⟩ ∈ lookalikes.collect ⟨false, []⟩ "r" := by
  rw [collect, List.mem_mergeSort, List.mem_filter, mem_listFrom_iff]
  exact ⟨⟨names, rfl, hheld, hentered⟩, haccepts⟩

theorem holds_lookalikes : lookalikes.Holds ["a", "b.go"] [] ∧ lookalikes.Holds ["a\\b.go"] [] ∧
    lookalikes.Holds ["c.go"] [] :=
  ⟨.directory "r" (t := .directory "a" [.file "b.go" []]) (by simp)
      (.directory "a" (t := .file "b.go" []) (by simp) (.file _ _)),
    .directory "r" (t := .file "a\\b.go" []) (by simp) (.file _ _),
    .directory "r" (t := .file "c.go" []) (by simp) (.file _ _)⟩

/-- Two files without backslashes in their names, next to one with a backslash. -/
theorem collect_reported_plain :
    let files := lookalikes.collect ⟨false, []⟩ "r"
    lookalikes.WellNamed ∧ lookalikes.ProperlyNamed ∧
      ⟨["a", "b.go"], []⟩ ∈ files ∧ ⟨["c.go"], []⟩ ∈ files ∧
      Listed.reported "r" ⟨["a", "b.go"], []⟩ ≠ Listed.reported "r" ⟨["c.go"], []⟩ := by
  intro files
  obtain ⟨hheld, -, hheld'⟩ := holds_lookalikes
  have hfirst : ⟨["a", "b.go"], []⟩ ∈ files :=
    mem_collect_lookalikes hheld (by decide +kernel) (by decide +kernel)
  have hsecond : ⟨["c.go"], []⟩ ∈ files :=
    mem_collect_lookalikes hheld' (by decide +kernel) (by decide +kernel)
  obtain ⟨-, hne, -⟩ :=
    collect_reported wellNamed_lookalikes properlyNamed_lookalikes ⟨false, []⟩ "r"
  exact ⟨wellNamed_lookalikes, properlyNamed_lookalikes, hfirst, hsecond,
    hne _ hfirst _ hsecond (by decide +kernel) (by decide +kernel)⟩

/-- **A backslash in a name is taken for a slash.** A survey sees the file `a\b.go` and the file
`b.go` in the directory `a`, and reports both by one path. -/
theorem collect_reported_backslash :
    lookalikes.WellNamed ∧ lookalikes.ProperlyNamed ∧
      ∃ a ∈ lookalikes.collect ⟨false, []⟩ "r", ∃ b ∈ lookalikes.collect ⟨false, []⟩ "r",
        a ≠ b ∧ a.path "r" ≠ b.path "r" ∧ a.reported "r" = b.reported "r" := by
  obtain ⟨hheld, hheld', -⟩ := holds_lookalikes
  refine ⟨wellNamed_lookalikes, properlyNamed_lookalikes, ⟨["a", "b.go"], []⟩, ?_,
    ⟨["a\\b.go"], []⟩, ?_, by decide +kernel, by decide +kernel, by decide +kernel⟩
  · exact mem_collect_lookalikes hheld (by decide +kernel) (by decide +kernel)
  · exact mem_collect_lookalikes hheld' (by decide +kernel) (by decide +kernel)

end FileTree

end GoSurvey
