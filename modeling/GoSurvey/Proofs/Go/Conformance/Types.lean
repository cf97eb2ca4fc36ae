import GoSurvey.Proofs.Go.Conformance

/-!
# Types and parameters conform

A list of names with commas between them has the heads that a field or a parameter may start with
(`names_spec`). Everything else in a type only has to be made of parts that conform.
-/

namespace GoSurvey.Go

open Std.Do Reader

set_option mvcgen.warning false

namespace Grammar

section
variable {self : Grammar} [Grammar.Conforms self]

@[simp]
theorem tree_typeName (r : Reading) : (typeName r).tree = r.tree := by
  unfold typeName
  split <;> rfl

@[simp]
theorem conforms_typeName {r : Reading} : (typeName r).Conforms ↔ r.Conforms := by
  rw [Reading.Conforms, tree_typeName]
  rfl

@[spec]
theorem typeElem_spec {kind : Kind} (hkind : ∀ heads, Tree.Admits kind heads) (lines : Bool) :
    ⦃⌜True⌝⦄ typeElem self kind lines ⦃⇓ r => ⌜r.Conforms⌝⦄ := by
  mvcgen [typeElem, iterate_allParts]
  all_goals simp_all

@[spec]
theorem commaList_spec (closing : String) {item : Reader Reading}
    (hitem : ⦃⌜True⌝⦄ item ⦃⇓ r => ⌜r.Conforms⌝⦄) :
    ⦃⌜True⌝⦄ commaList closing item ⦃⇓ rs => ⌜Reading.AllParts rs⌝⦄ := by
  mvcgen [commaList, hitem, iterate_allParts]
  all_goals simp_all

@[spec]
theorem typeArguments_spec : ⦃⌜True⌝⦄ typeArguments self ⦃⇓ r => ⌜r.Conforms⌝⦄ := by
  mvcgen [typeArguments]
  all_goals simp_all

@[spec]
theorem typeBase_spec (lines : Bool) : ⦃⌜True⌝⦄ typeBase lines ⦃⇓ r => ⌜r.Conforms⌝⦄ := by
  mvcgen [typeBase]
  all_goals simp_all [qualified]

@[spec]
theorem namedType_spec (lines : Bool) : ⦃⌜True⌝⦄ namedType self lines ⦃⇓ r => ⌜r.Conforms⌝⦄ := by
  mvcgen [namedType]
  all_goals simp_all [instantiate]

@[spec]
theorem atResult_spec (lines : Bool) : ⦃⌜True⌝⦄ atResult lines ⦃⇓ _ => ⌜True⌝⦄ :=
  triple_true (atResult lines)

@[spec]
theorem result_spec (lines : Bool) :
    ⦃⌜True⌝⦄ result self lines ⦃⇓ rs => ⌜Reading.AllParts rs⌝⦄ := by
  mvcgen [result]
  all_goals simp_all

@[spec]
theorem signature_spec (lines : Bool) :
    ⦃⌜True⌝⦄ signature self lines ⦃⇓ rs => ⌜Reading.AllParts rs⌝⦄ := by
  mvcgen [signature]
  all_goals simp_all

@[spec]
theorem functionType_spec (lines : Bool) :
    ⦃⌜True⌝⦄ functionType self lines ⦃⇓ r => ⌜r.Conforms⌝⦄ := by
  mvcgen [functionType]
  all_goals simp_all

@[spec]
theorem mapType_spec (lines : Bool) : ⦃⌜True⌝⦄ mapType self lines ⦃⇓ r => ⌜r.Conforms⌝⦄ := by
  mvcgen [mapType]
  all_goals simp_all

@[spec]
theorem channelType_spec (lines : Bool) :
    ⦃⌜True⌝⦄ channelType self lines ⦃⇓ r => ⌜r.Conforms⌝⦄ := by
  mvcgen [channelType]
  all_goals simp_all

@[spec]
theorem pointerType_spec (lines : Bool) :
    ⦃⌜True⌝⦄ pointerType self lines ⦃⇓ r => ⌜r.Conforms⌝⦄ := by
  mvcgen [pointerType]
  all_goals simp_all

@[spec]
theorem negatedType_spec (lines : Bool) :
    ⦃⌜True⌝⦄ negatedType self lines ⦃⇓ r => ⌜r.Conforms⌝⦄ := by
  mvcgen [negatedType]
  all_goals simp_all

@[spec]
theorem parenthesizedType_spec : ⦃⌜True⌝⦄ parenthesizedType self ⦃⇓ r => ⌜r.Conforms⌝⦄ := by
  mvcgen [parenthesizedType]
  all_goals simp_all

@[spec]
theorem expression_spec (mode : Mode) :
    ⦃⌜True⌝⦄ expression self mode ⦃⇓ r => ⌜r.Conforms⌝⦄ := by
  mvcgen [expression, exprOf]
  next o _ _ ho r =>
  intro _ _ hr
  exact ho.expr r hr

@[spec]
theorem sequenceType_spec (lines : Bool) :
    ⦃⌜True⌝⦄ sequenceType self lines ⦃⇓ r => ⌜r.Conforms⌝⦄ := by
  mvcgen [sequenceType]
  all_goals simp_all

@[spec]
theorem names_spec {kind : Kind} (hkind : Tree.Admits kind []) :
    ⦃⌜True⌝⦄ names kind
    ⦃⇓ rs => ⌜Reading.AllFields rs ∧
      ∃ ns ≠ [], rs.map (·.tree.head) = Tree.nameHeads none kind ns⌝⦄ := by
  have hloop := @iterate_spec _ fun rs : List Reading => Reading.AllFields rs ∧
    ∃ ns ≠ [], rs.map (·.tree.head) = Tree.nameHeads none kind ns
  mvcgen [names, hloop]
  all_goals clear hloop
  case vc3 =>
    next parts hparts _ _ _ _ _ _ comma _ _ hcomma name _ _ hname =>
    obtain ⟨hfields, ns, hns, hheads⟩ := hparts
    rintro _ ⟨⟩
    refine ⟨by simp_all, ns ++ [name.tree.text], by simp, ?_⟩
    simp [Tree.nameHeads_concat _ _ hns, hheads, hcomma.2, hname.2, Tree.comma, Tree.as_leaf]
  case vc4 => simp
  case vc5 =>
    next name =>
    intro _ _ hname hhead
    exact ⟨by simp [hname], [name.tree.text], by simp,
      by simp [hhead, Tree.nameHeads, Tree.as_leaf]⟩

@[spec]
theorem namedFields_spec : ⦃⌜True⌝⦄ namedFields self ⦃⇓ rs => ⌜Reading.AllParts rs⌝⦄ := by
  mvcgen [namedFields]
  all_goals simp_all

@[spec]
theorem embeddedField_spec : ⦃⌜True⌝⦄ embeddedField self ⦃⇓ rs => ⌜Reading.AllParts rs⌝⦄ := by
  mvcgen [embeddedField]
  all_goals simp_all [instantiate]

@[spec]
theorem stringLiteral_spec : ⦃⌜True⌝⦄ stringLiteral ⦃⇓ r => ⌜r.Conforms⌝⦄ := by
  mvcgen [stringLiteral]
  all_goals simp_all

@[spec]
theorem atFieldEnd_spec : ⦃⌜True⌝⦄ atFieldEnd ⦃⇓ _ => ⌜True⌝⦄ :=
  triple_true atFieldEnd

@[spec]
theorem fieldDeclaration_spec : ⦃⌜True⌝⦄ fieldDeclaration self ⦃⇓ r => ⌜r.Conforms⌝⦄ := by
  simp only [fieldDeclaration]
  mvcgen
  all_goals simp_all

@[spec]
theorem structType_spec : ⦃⌜True⌝⦄ structType self ⦃⇓ r => ⌜r.Conforms⌝⦄ := by
  mvcgen [structType]
  all_goals simp_all +zetaDelta

@[spec]
theorem methodElem_spec : ⦃⌜True⌝⦄ methodElem self ⦃⇓ r => ⌜r.Conforms⌝⦄ := by
  mvcgen [methodElem]
  all_goals simp_all

@[spec]
theorem interfaceElem_spec : ⦃⌜True⌝⦄ interfaceElem self ⦃⇓ r => ⌜r.Conforms⌝⦄ := by
  mvcgen [interfaceElem]
  all_goals simp_all

@[spec]
theorem interfaceType_spec : ⦃⌜True⌝⦄ interfaceType self ⦃⇓ r => ⌜r.Conforms⌝⦄ := by
  mvcgen [interfaceType]
  all_goals simp_all

@[spec]
theorem anyType_spec (lines : Bool) : ⦃⌜True⌝⦄ anyType self lines ⦃⇓ r => ⌜r.Conforms⌝⦄ := by
  mvcgen [anyType]
  all_goals simp_all

/-! ## Parameters -/

@[spec]
theorem atParameterEnd_spec : ⦃⌜True⌝⦄ atParameterEnd ⦃⇓ _ => ⌜True⌝⦄ :=
  triple_true atParameterEnd

@[spec]
theorem parameterName_spec : ⦃⌜True⌝⦄ parameterName ⦃⇓ r => ⌜r.Conforms⌝⦄ := by
  mvcgen [parameterName]
  all_goals simp_all

@[spec]
theorem variadicParameter_spec {name : List Reading} (hname : Reading.AllParts name) :
    ⦃⌜True⌝⦄ variadicParameter self name ⦃⇓ r => ⌜r.Conforms⌝⦄ := by
  mvcgen [variadicParameter]
  all_goals simp_all

@[spec]
theorem namedParameters_spec : ⦃⌜True⌝⦄ namedParameters self ⦃⇓ r => ⌜r.Conforms⌝⦄ := by
  mvcgen [namedParameters, iterate_allParts]
  all_goals simp_all

@[spec]
theorem unnamedParameter_spec : ⦃⌜True⌝⦄ unnamedParameter self ⦃⇓ r => ⌜r.Conforms⌝⦄ := by
  mvcgen [unnamedParameter]
  all_goals simp_all

@[spec]
theorem parameter_spec : ⦃⌜True⌝⦄ parameter self ⦃⇓ r => ⌜r.Conforms⌝⦄ := by
  simp only [parameter]
  mvcgen
  all_goals simp_all

@[spec]
theorem parameterList_spec : ⦃⌜True⌝⦄ parameterList self ⦃⇓ r => ⌜r.Conforms⌝⦄ := by
  mvcgen [parameterList]
  all_goals simp_all

end

end Grammar

end GoSurvey.Go
