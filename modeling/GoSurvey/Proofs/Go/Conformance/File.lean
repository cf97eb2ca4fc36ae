import GoSurvey.Proofs.Go.Conformance.Statements

/-!
# Source files conform

All rules conform, by induction on their fuel, whether separators may be forgotten or not. What they
read still conforms when comments are put in and tokens get their places, so the tree of every
source in which no place is a syntax error conforms to the grammar (`Source.conforms_tree`).
-/

namespace GoSurvey.Go

open Std.Do Reader

set_option mvcgen.warning false

namespace Grammar

section
variable {self : Grammar} [Grammar.Conforms self]

/-- One step of the rules keeps them conforming. -/
theorem conforms_step (lenient : Bool) : Grammar.Conforms (step lenient self) where
  expr := expressionAt_spec
  type := anyType_spec
  parameters := parameterList_spec
  literalValue := literalValue_spec
  block := blockOf_spec
  statement := statementOf_spec lenient

@[spec]
theorem functionItem_spec : ⦃⌜True⌝⦄ functionItem self ⦃⇓ r => ⌜r.Conforms⌝⦄ := by
  mvcgen [functionItem]
  all_goals simp_all

@[spec]
theorem item_spec : ⦃⌜True⌝⦄ item self ⦃⇓ r => ⌜r.Conforms⌝⦄ := by
  mvcgen [item]

@[spec]
theorem items_spec (lenient : Bool) :
    ⦃⌜True⌝⦄ items self lenient ⦃⇓ rs => ⌜Reading.AllParts rs⌝⦄ := by
  mvcgen [items, iterate_allParts]
  all_goals simp_all

@[spec]
theorem sourceFile_spec (lenient : Bool) :
    ⦃⌜True⌝⦄ sourceFile self lenient ⦃⇓ t => ⌜t.Conforms false⌝⦄ := by
  mvcgen [sourceFile]
  next rs _ _ hrs _ _ _ _ =>
    have hfile : (Reading.node .sourceFile 0 rs).Conforms := by simpa
    exact hfile.isPart
  all_goals simp_all

end

/-- The grammar conforms, however deep its rules are used. -/
instance conforms_rules (lenient : Bool) (fuel : Nat) :
    Grammar.Conforms (rules lenient fuel) := by
  induction fuel with
  | zero =>
    constructor
    all_goals
      intros
      exact triple_iff.2 fun _ _ _ _ _ h => nomatch h
  | succ fuel ih => exact conforms_step lenient

theorem conforms_of_parseWhole? {tokens : List Token} {tree : Tree}
    (h : parseWhole? tokens = some tree) : tree.Conforms false := by
  unfold parseWhole? at h
  split at h
  next found left reach hfile =>
    cases h
    exact triple_iff.1 (sourceFile_spec false) _ _ _ _ _ hfile
  next => cases h

theorem conforms_of_parse {lenient : Bool} {tokens : List Token} {tree : Tree}
    (h : parse lenient tokens = .ok tree) : tree.Conforms false := by
  unfold parse at h
  split at h
  next found left reach hfile =>
    cases h
    exact triple_iff.1 (sourceFile_spec lenient) _ _ _ _ _ hfile
  next => cases h

end Grammar

/-! ## Comments and places -/

namespace Tree

@[simp]
theorem head_withComments (key : Comment → Nat) (cs : List Comment) (t : Tree) :
    (t.withComments key cs).head = t.head := by
  cases t <;> rfl

@[simp]
theorem head_locate (tokens : Array Token) (t : Tree) : (t.locate tokens).head = t.head := by
  cases t <;> rfl

theorem filter_comments (cs : List Comment) :
    (cs.map Comment.tree).filter (!·.isComment) = [] := by
  induction cs with
  | nil => rfl
  | cons c cs ih => exact ih

/-- Comments apart, the parts keep their heads. -/
theorem heads_place (key : Comment → Nat) (cs : List Comment) (ts : List Tree) :
    ((place key cs ts).filter (!·.isComment)).map head = (ts.filter (!·.isComment)).map head := by
  induction ts generalizing cs with
  | nil => rw [place, filter_comments]; rfl
  | cons t ts ih =>
    simp only [place, List.filter_append, filter_comments, List.nil_append, List.filter_cons,
      isComment_withComments]
    split <;> simp [ih]

theorem locateAll_eq_map (tokens : Array Token) (ts : List Tree) :
    locateAll tokens ts = ts.map (·.locate tokens) := by
  induction ts with
  | nil => rfl
  | cons t ts ih => rw [locateAll, ih, List.map_cons]

theorem conforms_comments (cs : List Comment) : ∀ t ∈ cs.map Comment.tree, t.Conforms true := by
  intro t ht
  obtain ⟨c, _, rfl⟩ := List.mem_map.1 ht
  exact .comment _ _ rfl

mutual
/-- Comments may be put in everywhere. -/
theorem Conforms.withComments {key : Comment → Nat} :
    ∀ {t : Tree} (cs : List Comment), t.Conforms false → (t.withComments key cs).Conforms true
  | .leaf _ _ _ _, _, .leaf _ _ _ _ hkind => .leaf _ _ _ _ hkind
  | .mark _ _ _, _, .mark _ _ _ htext => .mark _ _ _ htext
  | .absent _, _, _ => .absent _
  | .node _ _ _ children, cs, .node _ _ _ _ hadmits hchildren =>
    .node _ _ _ _ (heads_place key cs children ▸ hadmits) (Conforms.place cs hchildren)
  | .comment _ _, _, .comment _ _ h => nomatch h

/-- `withComments` over the parts of a node. -/
theorem Conforms.place {key : Comment → Nat} :
    ∀ {ts : List Tree} (cs : List Comment), (∀ t ∈ ts, t.Conforms false) →
      ∀ t ∈ place key cs ts, t.Conforms true
  | [], cs, _ => conforms_comments cs
  | t :: ts, cs, h => by
    simp only [Tree.place, List.forall_mem_append, List.forall_mem_cons]
    exact ⟨conforms_comments _, Conforms.withComments _ (h t List.mem_cons_self),
      Conforms.place _ fun u hu => h u (List.mem_cons_of_mem t hu)⟩
end

/-- Places do not matter. -/
theorem Conforms.locate {comments : Bool} (tokens : Array Token) {t : Tree}
    (h : t.Conforms comments) : (t.locate tokens).Conforms comments := by
  induction h with
  | leaf _ _ _ _ hkind => exact .leaf _ _ _ _ hkind
  | mark _ _ _ htext => exact .mark _ _ _ htext
  | absent => exact .absent _
  | comment _ _ h => exact .comment _ _ h
  | node label kind span children hadmits _ ih =>
    refine .node _ _ _ _ ?_ ?_
    · rw [locateAll_eq_map, List.filter_map, List.map_map]
      simpa [Function.comp_def] using hadmits
    · rw [locateAll_eq_map]
      intro t ht
      obtain ⟨u, hu, rfl⟩ := List.mem_map.1 ht
      exact ih u hu

end Tree

namespace Source

/-- **The tree of a source conforms to the grammar unless some place in it is a syntax error.**
Forgotten separators are no such places. -/
theorem conforms_tree {bytes : List UInt8} (h : (read bytes).firstError = none) :
    (read bytes).tree.Conforms true := by
  unfold read at h ⊢
  dsimp only at h ⊢
  split
  next tree htree =>
    obtain ⟨bare, hbare, rfl⟩ := Option.map_eq_some_iff.1 htree
    exact ((Grammar.conforms_of_parseWhole? hbare).withComments _).locate _
  next hwhole =>
    rw [hwhole] at h
    split
    next tree htree => exact (Grammar.conforms_of_parse htree).withComments _
    next place hplace =>
      rw [hplace] at h
      cases h

/-- A source without syntax errors has no place of one. -/
theorem firstError_of_hasErrors {bytes : List UInt8} (h : (read bytes).hasErrors = false) :
    (read bytes).firstError = none := by
  obtain ⟨tree, htree⟩ := parseWhole?_of_hasErrors h
  rw [read_of_parseWhole? htree]

theorem conforms_read {bytes : List UInt8} (h : (read bytes).hasErrors = false) :
    (read bytes).tree.Conforms true :=
  conforms_tree (firstError_of_hasErrors h)

end Source

end GoSurvey.Go
