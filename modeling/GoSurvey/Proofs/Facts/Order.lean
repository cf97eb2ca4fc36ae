import Mathlib.Data.List.FinRange
import Mathlib.Logic.Equiv.Fin.Rotate
import GoSurvey.Proofs.Facts

/-!
# The order of declarations

Extraction collects the imports, values and types of a file before it reads a function, so a
function sees all of them wherever they are declared. What matters is only the order among
declarations of one kind: a reordering that keeps it (`Decl.Reordered`) does not change the facts of
the file (`FileFacts.extract_reordered`).
-/

namespace GoSurvey

namespace Decl

/-- The kinds of declarations. -/
inductive Kind where
  | func
  | type
  | value
  | imported
deriving DecidableEq, Repr

/-- The kind of a declaration. -/
def kind : Decl → Kind
  | .func _ => .func
  | .type _ => .type
  | .value _ => .value
  | .imported _ => .imported

/-- The same declarations at other places, where those of one kind follow each other as before. -/
def Reordered (ds ds' : List Decl) : Prop :=
  ∃ place : Fin ds.length ≃ Fin ds'.length, (∀ i, ds'.get (place i) = ds.get i) ∧
    ∀ i j, (ds.get i).kind = (ds.get j).kind → i < j → place i < place j

/-- The places of the declarations of a kind, in ascending order. -/
def placesOf (kind : Kind) (ds : List Decl) : List (Fin ds.length) :=
  (List.finRange ds.length).filter fun i => (ds.get i).kind = kind

theorem mem_placesOf {kind : Kind} {ds : List Decl} {i : Fin ds.length} :
    i ∈ placesOf kind ds ↔ (ds.get i).kind = kind := by
  simp [placesOf]

theorem pairwise_placesOf (kind : Kind) (ds : List Decl) :
    (placesOf kind ds).Pairwise (· < ·) :=
  (List.pairwise_lt_finRange ds.length).filter _

/-- The declarations of a kind are those at its places. -/
theorem filter_kind (kind : Kind) (ds : List Decl) :
    ds.filter (·.kind = kind) = (placesOf kind ds).map ds.get := by
  conv_lhs => rw [← List.map_get_finRange ds, List.filter_map]
  rfl

section
variable {ds ds' : List Decl} {place : Fin ds.length ≃ Fin ds'.length}
  (hsame : ∀ i, ds'.get (place i) = ds.get i)
  (horder : ∀ i j, (ds.get i).kind = (ds.get j).kind → i < j → place i < place j)
include hsame horder

/-- The new places of the declarations of a kind are in ascending order too. -/
theorem placesOf_reordered (kind : Kind) : placesOf kind ds' = (placesOf kind ds).map place := by
  have hascending : ((placesOf kind ds).map place).Pairwise (· < ·) := by
    refine List.pairwise_map.2 ((pairwise_placesOf kind ds).imp_of_mem fun hi hj hlt => ?_)
    exact horder _ _ ((mem_placesOf.1 hi).trans (mem_placesOf.1 hj).symm) hlt
  have hmem (j : Fin ds'.length) : j ∈ placesOf kind ds' ↔ j ∈ (placesOf kind ds).map place := by
    obtain ⟨i, rfl⟩ := place.surjective j
    simp [mem_placesOf, hsame, -List.get_eq_getElem]
  have hascending' := pairwise_placesOf kind ds'
  have hperm := (List.perm_ext_iff_of_nodup (hascending'.imp Fin.ne_of_lt)
    (hascending.imp Fin.ne_of_lt)).2 hmem
  exact hperm.eq_of_pairwise (fun _ _ _ _ h h' => absurd h (Fin.lt_asymm h')) hascending'
    hascending

end

/-- A reordering leaves the declarations of every kind as they are. -/
theorem Reordered.filter_kind_eq {ds ds' : List Decl} (h : Reordered ds ds') (kind : Kind) :
    ds'.filter (·.kind = kind) = ds.filter (·.kind = kind) := by
  obtain ⟨place, hsame, horder⟩ := h
  rw [filter_kind, filter_kind, placesOf_reordered hsame horder, List.map_map]
  exact List.map_congr_left fun i _ => hsame i

/-- What is picked from declarations of one kind is picked again after a reordering. -/
theorem Reordered.filterMap_eq {α : Type} {ds ds' : List Decl} (h : Reordered ds ds')
    {pick : Decl → Option α} (kind : Kind) (hpick : ∀ d, d.kind ≠ kind → pick d = none) :
    ds'.filterMap pick = ds.filterMap pick := by
  have hfilter (ds : List Decl) :
      ds.filterMap pick = (ds.filter (·.kind = kind)).filterMap pick := by
    rw [List.filterMap_filter]
    refine congrArg (List.filterMap · ds) (funext fun d => ?_)
    by_cases hd : d.kind = kind
    · simp [hd]
    · simp [hd, hpick d hd]
  rw [hfilter ds', h.filter_kind_eq, ← hfilter]

end Decl

namespace SourceFile

section
variable (file : SourceFile) {ds : List Decl} (h : Decl.Reordered file.decls ds)
include h

theorem imports_reordered : { file with decls := ds }.imports = file.imports :=
  h.filterMap_eq .imported fun
    | .imported _, hd => absurd rfl hd
    | .func _, _ | .type _, _ | .value _, _ => rfl

theorem functions_reordered : { file with decls := ds }.functions = file.functions :=
  h.filterMap_eq .func fun
    | .func _, hd => absurd rfl hd
    | .imported _, _ | .type _, _ | .value _, _ => rfl

theorem types_reordered : { file with decls := ds }.types = file.types :=
  h.filterMap_eq .type fun
    | .type _, hd => absurd rfl hd
    | .imported _, _ | .func _, _ | .value _, _ => rfl

theorem values_reordered : { file with decls := ds }.values = file.values :=
  h.filterMap_eq .value fun
    | .value _, hd => absurd rfl hd
    | .imported _, _ | .func _, _ | .type _, _ => rfl

end

end SourceFile

namespace FileFacts

/-- What is extracted from a file depends on its package and on the lists of its declarations of
each kind. -/
theorem extract_congr {file file' : SourceFile} (hpackage : file'.package = file.package)
    (himports : file'.imports = file.imports) (hfunctions : file'.functions = file.functions)
    (htypes : file'.types = file.types) (hvalues : file'.values = file.values) (path : String)
    (c : TypeCache) : extract file' path c = extract file path c := by
  simp only [extract, hpackage, himports, hfunctions, htypes, hvalues]

/-- **The order of declarations of different kinds does not matter.** If the declarations of a file
are put in another order, but those of one kind follow each other as before, then the same facts are
extracted. This does not depend on the caches that are used: they can have any capacities and any
expressions can have been rendered with them before. -/
theorem extract_reordered (file : SourceFile) {ds : List Decl}
    (h : Decl.Reordered file.decls ds) (path : String) (capacity capacity' : Nat)
    (earlier earlier' : List TypeExpr) :
    (extract { file with decls := ds } path ((TypeCache.empty capacity).renderAll earlier)).1 =
      (extract file path ((TypeCache.empty capacity').renderAll earlier')).1 := by
  have hsame (c : TypeCache) : extract { file with decls := ds } path c = extract file path c :=
    extract_congr (by rfl) (file.imports_reordered h) (file.functions_reordered h)
      (file.types_reordered h) (file.values_reordered h) path c
  obtain ⟨facts, later, hextract⟩ := extract_steady file path
  rw [hsame, hextract _ ((TypeCache.faithful_empty capacity).renderAll earlier),
    hextract _ ((TypeCache.faithful_empty capacity').renderAll earlier')]

/-- A function that refers to a global and to an import, before and after their declarations. -/
theorem extract_reordered_function :
    let body : Block := ⟨⟨0, 9, 1, 1, 1, 10⟩, [.call (.selector (.ident "y") "G") [.ident "v"]]⟩
    let f : Decl := .func ⟨"f", none, [], [], some body, ⟨0, 9, 1, 1, 1, 10⟩⟩
    let v : Decl := .value ⟨.var, ["v", "w"], none, [.ident "a"], ⟨0, 9, 2, 1, 2, 10⟩⟩
    let i : Decl := .imported ⟨"x/y", none, ⟨0, 9, 3, 1, 3, 10⟩⟩
    let file : SourceFile := ⟨"a.go", "p", [f, v, i], false⟩
    let facts := (extract file "a.go" ((TypeCache.empty 0).renderAll [])).1
    let facts' := (extract { file with decls := [v, i, f] } "a.go"
      ((TypeCache.empty 8).renderAll [.ident "a"])).1
    Decl.Reordered file.decls [v, i, f] ∧ facts' = facts ∧
      facts.functions.map (fun f => (f.referencedGlobals, f.dependencies)) =
        [(["v"], ["x/y"])] := by
  intro body f v i file facts facts'
  have hreordered : Decl.Reordered file.decls [v, i, f] := by
    refine ⟨(finRotate 3).symm, fun | 0 => rfl | 1 => rfl | 2 => rfl, by decide⟩
  exact ⟨hreordered, extract_reordered file hreordered "a.go" 8 0 [.ident "a"] [],
    by decide +kernel⟩

end FileFacts

end GoSurvey
