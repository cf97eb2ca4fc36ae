import GoSurvey.Proofs.Go.Conformance.Expressions

/-!
# Declarations conform

The specifications of variables and constants are the nodes whose parts the grammar restricts: names
with commas, a type or none, and values or none. In a specification of constants the commas have the
label of the names.
-/

namespace GoSurvey.Go

open Std.Do Reader

set_option mvcgen.warning false

namespace Grammar

section
variable {self : Grammar} [Grammar.Conforms self]

/-- The gap that a forgotten separator leaves can be a part of a node. -/
@[spec]
theorem forgotten_spec (item : Reader Reading) (start : List Token) (isFirst : Bool) :
    ⦃⌜True⌝⦄ forgotten item start isFirst ⦃⇓ r => ⌜r.IsPart⌝⦄ := by
  have habsent (place : Span) : (⟨.absent place, 0⟩ : Reading).IsPart := .absent place
  mvcgen [forgotten, absent]
  all_goals simp [habsent]

@[spec]
theorem group_spec (lenient : Bool) {spec : Reader Reading}
    (hspec : ⦃⌜True⌝⦄ spec ⦃⇓ r => ⌜r.Conforms⌝⦄) :
    ⦃⌜True⌝⦄ group lenient spec ⦃⇓ rs => ⌜Reading.AllParts rs⌝⦄ := by
  mvcgen [group, hspec, iterate_allParts]
  all_goals simp_all

@[spec]
theorem initialValues_spec :
    ⦃⌜True⌝⦄ initialValues self
    ⦃⇓ rs => ⌜Reading.AllParts rs ∧ rs.map (·.tree.head) = Tree.valueHeads⌝⦄ := by
  mvcgen [initialValues]
  all_goals simp_all [Tree.valueHeads]

@[spec]
theorem constNames_spec :
    ⦃⌜True⌝⦄ constNames
    ⦃⇓ rs => ⌜Reading.AllParts rs ∧
      ∃ ns ≠ [], rs.map (·.tree.head) = Tree.nameHeads (some .name) .identifier ns⌝⦄ := by
  mvcgen [constNames]
  next rs _ _ hrs =>
  obtain ⟨hrs, ns, hns, hheads⟩ := hrs
  refine ⟨hrs.map_as .name, ns, hns, ?_⟩
  rw [← Tree.map_as_nameHeads, ← hheads, List.map_map, List.map_map]
  exact List.map_congr_left fun r _ => Tree.head_as .name r.tree

/-- A specification of values conforms if it is made of names, a type or none, and values or
none. -/
theorem conforms_valueSpec {kind : Kind} {commas : Option Label} {names : List Reading}
    (hkind : Tree.Admits kind = Tree.DeclareValues commas)
    (hnames : Reading.AllParts names ∧
      ∃ ns ≠ [], names.map (·.tree.head) = Tree.nameHeads commas .identifier ns)
    (type : Option Reading) (htype : ∀ r ∈ type, r.Conforms) (values : List Reading)
    (hvalues : values = [] ∨
      Reading.AllParts values ∧ values.map (·.tree.head) = Tree.valueHeads) :
    (Reading.node kind 0 (names ++ (type.map (·.as .type)).toList ++ values)).Conforms := by
  obtain ⟨hconform, ns, hns, hheads⟩ := hnames
  rw [Reading.conforms_node, hkind]
  constructor
  · refine ⟨ns, type.map (·.tree.head.as .type), values.map (·.tree.head), hns, ?_, ?_, ?_⟩
    · intro t ht
      obtain ⟨r, hr, rfl⟩ := Option.map_eq_some_iff.1 ht
      exact (htype r hr).label_head_as .type
    · exact hvalues.imp (fun h => by rw [h, List.map_nil]) And.right
    · cases type <;> simp [hheads]
  · have htypes : Reading.AllParts (type.map (·.as .type)).toList := by
      cases type <;> simp_all
    have hvalues : Reading.AllParts values := by
      obtain rfl | hvalues := hvalues
      · exact Reading.allParts_nil
      · exact hvalues.1
    simp [hconform, htypes, hvalues]

@[spec]
theorem constSpec_spec : ⦃⌜True⌝⦄ constSpec self ⦃⇓ r => ⌜r.Conforms⌝⦄ := by
  mvcgen [constSpec]
  case vc1 =>
    next ns _ _ hns _ _ _ _ _ _ _ _ =>
    simpa using conforms_valueSpec rfl hns none (by simp) [] (.inl rfl)
  case vc2 =>
    next ns _ _ hns _ _ _ _ _ _ _ _ _ values _ _ hvalues =>
    simpa using conforms_valueSpec rfl hns none (by simp) values (.inr hvalues)
  case vc3 =>
    next ns _ _ hns _ _ _ _ _ _ _ _ _ _ _ _ _ type _ _ htype values _ _ hvalues =>
    simpa using conforms_valueSpec rfl hns (some type) (by simpa) values (.inr hvalues)
  case vc4 =>
    next ns _ _ hns _ _ _ _ _ _ _ _ _ _ _ _ _ =>
    simpa using conforms_valueSpec rfl hns none (by simp) [] (.inl rfl)

@[spec]
theorem varSpec_spec : ⦃⌜True⌝⦄ varSpec self ⦃⇓ r => ⌜r.Conforms⌝⦄ := by
  mvcgen [varSpec]
  case vc2 =>
    next ns _ _ hns _ _ _ _ values _ _ hvalues =>
    have hns := hns.imp_left (·.allParts)
    simpa using conforms_valueSpec rfl hns none (by simp) values (.inr hvalues)
  case vc3 =>
    next ns _ _ hns _ _ _ _ type _ _ htype _ _ _ _ _ _ _ _ =>
    have hns := hns.imp_left (·.allParts)
    simpa using conforms_valueSpec rfl hns (some type) (by simpa) [] (.inl rfl)
  case vc4 =>
    next ns _ _ hns _ _ _ _ type _ _ htype _ _ _ _ _ _ _ _ _ values _ _ hvalues =>
    have hns := hns.imp_left (·.allParts)
    simpa using conforms_valueSpec rfl hns (some type) (by simpa) values (.inr hvalues)
  case vc5 =>
    next ns _ _ hns _ _ _ _ type _ _ htype _ _ _ _ _ _ _ _ _ =>
    have hns := hns.imp_left (·.allParts)
    simpa using conforms_valueSpec rfl hns (some type) (by simpa) [] (.inl rfl)

@[spec]
theorem typeParameterDeclaration_spec :
    ⦃⌜True⌝⦄ typeParameterDeclaration self ⦃⇓ r => ⌜r.Conforms⌝⦄ := by
  mvcgen [typeParameterDeclaration]
  all_goals simp_all

@[spec]
theorem typeParameterList_spec : ⦃⌜True⌝⦄ typeParameterList self ⦃⇓ r => ⌜r.Conforms⌝⦄ := by
  mvcgen [typeParameterList]
  all_goals simp_all

omit [Grammar.Conforms self] in
@[spec]
theorem atTypeParameters_spec : ⦃⌜True⌝⦄ atTypeParameters self ⦃⇓ _ => ⌜True⌝⦄ :=
  triple_true (atTypeParameters self)

@[spec]
theorem typeSpec_spec : ⦃⌜True⌝⦄ typeSpec self ⦃⇓ r => ⌜r.Conforms⌝⦄ := by
  mvcgen [typeSpec]
  all_goals simp_all

@[spec]
theorem declaration_spec (lenient : Bool) :
    ⦃⌜True⌝⦄ declaration self lenient ⦃⇓ r => ⌜r.Conforms⌝⦄ := by
  mvcgen [declaration]
  all_goals simp_all

/-! ## Functions, imports and the package -/

@[spec]
theorem optionalBody_spec : ⦃⌜True⌝⦄ optionalBody self ⦃⇓ rs => ⌜Reading.AllParts rs⌝⦄ := by
  mvcgen [optionalBody]
  all_goals simp_all

@[spec]
theorem functionDeclaration_spec :
    ⦃⌜True⌝⦄ functionDeclaration self ⦃⇓ r => ⌜r.Conforms⌝⦄ := by
  mvcgen [functionDeclaration]
  all_goals simp_all

@[spec]
theorem methodDeclaration_spec : ⦃⌜True⌝⦄ methodDeclaration self ⦃⇓ r => ⌜r.Conforms⌝⦄ := by
  mvcgen [methodDeclaration]
  all_goals simp_all

end

@[spec]
theorem importName_spec : ⦃⌜True⌝⦄ importName ⦃⇓ rs => ⌜Reading.AllParts rs⌝⦄ := by
  mvcgen [importName]
  all_goals simp_all

@[spec]
theorem importSpec_spec : ⦃⌜True⌝⦄ importSpec ⦃⇓ r => ⌜r.Conforms⌝⦄ := by
  mvcgen [importSpec]
  all_goals simp_all

@[spec]
theorem importDeclaration_spec : ⦃⌜True⌝⦄ importDeclaration ⦃⇓ r => ⌜r.Conforms⌝⦄ := by
  mvcgen [importDeclaration]
  all_goals simp_all +zetaDelta

@[spec]
theorem packageClause_spec : ⦃⌜True⌝⦄ packageClause ⦃⇓ r => ⌜r.Conforms⌝⦄ := by
  mvcgen [packageClause]
  all_goals simp_all

end Grammar

end GoSurvey.Go
