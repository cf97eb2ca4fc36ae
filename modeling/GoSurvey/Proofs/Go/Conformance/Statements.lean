import GoSurvey.Proofs.Go.Conformance.Declarations

/-!
# Statements conform

Statements nest declarations and expressions. The head of a statement is read in several ways, and
each of them conforms if the statement after it does (`headed_spec`).
-/

namespace GoSurvey.Go

open Std.Do Reader

set_option mvcgen.warning false

namespace Grammar

section
variable {self : Grammar} [Grammar.Conforms self]

theorem isErrorKind_of_assignment {t : Token} (h : assignmentOperators.any t.isMark = true) :
    Node.isErrorKind t.text = false := by
  have hshort : ∀ op ∈ assignmentOperators, op.length < 5 := by decide
  obtain ⟨op, hop, ht⟩ := List.any_eq_true.1 h
  have htext : t.text = op := by simp_all [Token.isMark]
  exact isErrorKind_of_length_lt (htext ▸ hshort op hop)

@[spec]
theorem simpleRest_spec (mode : Mode) (last : Bool) {left : Reading} (hleft : left.Conforms)
    {single : Option Reading} (hsingle : ∀ e ∈ single, e.Conforms) :
    ⦃⌜True⌝⦄ simpleRest self mode last left single ⦃⇓ r => ⌜r.Conforms⌝⦄ := by
  simp only [simpleRest]
  mvcgen
  case vc3 =>
    next hassigns _ _ op _ _ hop _ _ _ _ =>
    have := Reading.isField_of_head hop.2 (isErrorKind_of_assignment hassigns)
    simp_all
  all_goals simp_all

@[spec]
theorem leadingExpressions_spec (mode : Mode) :
    ⦃⌜True⌝⦄ leadingExpressions self mode
    ⦃⇓ p => ⌜p.1.Conforms ∧ ∀ e ∈ p.2, e.Conforms⌝⦄ := by
  mvcgen [leadingExpressions]
  all_goals simp_all

@[spec]
theorem simpleStatement_spec (mode : Mode) (last : Bool) :
    ⦃⌜True⌝⦄ simpleStatement self mode last ⦃⇓ r => ⌜r.Conforms⌝⦄ := by
  mvcgen [simpleStatement]
  all_goals simp_all

theorem conforms_bareExpression? {r : Reading} (hr : r.IsPart) :
    ∀ e ∈ bareExpression? r, e.Conforms := by
  obtain ⟨tree, weight⟩ := r
  intro e he
  unfold bareExpression? at he
  split at he
  next label span t heq =>
    cases he
    cases heq
    have hchild := Tree.Conforms.of_mem_children hr (List.mem_singleton_self t)
    cases hr with
    | node _ _ _ _ hadmits _ =>
      have hnamed : t.isNamed = true := by
        simpa [hchild.isComment_eq_false] using hadmits
      exact ⟨hchild, hnamed⟩
  next => cases he

/-! ## Lists of statements -/

@[spec]
theorem atLabel_spec : ⦃⌜True⌝⦄ atLabel ⦃⇓ _ => ⌜True⌝⦄ :=
  triple_true atLabel

@[spec]
theorem atLastLabel_spec (inClause : Bool) : ⦃⌜True⌝⦄ atLastLabel inClause ⦃⇓ _ => ⌜True⌝⦄ :=
  triple_true (atLastLabel inClause)

@[spec]
theorem labelParts_spec : ⦃⌜True⌝⦄ labelParts ⦃⇓ rs => ⌜Reading.AllParts rs⌝⦄ := by
  mvcgen [labelParts]
  all_goals simp_all

@[spec]
theorem statementList_spec (inClause : Bool) :
    ⦃⌜True⌝⦄ statementList self inClause ⦃⇓ rs => ⌜Reading.AllParts rs⌝⦄ := by
  have hloop := @iterate_spec _ fun s : List Reading × Bool => Reading.AllParts s.1
  mvcgen [statementList, hloop]
  all_goals clear hloop; simp_all

@[spec]
theorem blockOf_spec : ⦃⌜True⌝⦄ blockOf self ⦃⇓ r => ⌜r.Conforms⌝⦄ := by
  mvcgen [blockOf]
  all_goals simp_all

/-! ## Statements with a head -/

/-- A statement conforms if its rest does after every head, whichever way braces are taken. -/
theorem headed_spec {α : Type} (P : α → Prop) {head : Bool → Reader α} {rest : α → Reader Reading}
    (hhead : ∀ lax, ⦃⌜True⌝⦄ head lax ⦃⇓ h => ⌜P h⌝⦄)
    (hrest : ∀ h, P h → ⦃⌜True⌝⦄ rest h ⦃⇓ r => ⌜r.Conforms⌝⦄) :
    ⦃⌜True⌝⦄ headed head rest ⦃⇓ r => ⌜r.Conforms⌝⦄ := by
  have hfirst : ⦃⌜True⌝⦄ (do let h ← head false; return (h, (← ahead).length) : Reader (α × Nat))
      ⦃⇓ p => ⌜P p.1⌝⦄ := by
    mvcgen [hhead]
  have honly : ⦃⌜True⌝⦄ (do rest (← head true) : Reader Reading) ⦃⇓ r => ⌜r.Conforms⌝⦄ := by
    mvcgen [hhead, hrest]
    all_goals simp_all
  have hsecond (left : Nat) : ⦃⌜True⌝⦄ (do
        let h ← head true
        if (← ahead).length == left then refuse else rest h : Reader Reading)
      ⦃⇓ r => ⌜r.Conforms⌝⦄ := by
    mvcgen [hhead, hrest]
    all_goals simp_all
  rw [triple_iff] at hfirst honly ⊢
  intro ts reach r left reach' h
  unfold headed at h
  split at h
  next => exact honly _ _ _ _ _ h
  next head' left' after reach₁ heq =>
    have hrest := triple_iff.1 (hrest head' (hfirst _ _ _ _ _ heq))
    have hsecond := triple_iff.1 (hsecond left')
    dsimp only at h
    split at h
    next => exact hsecond _ _ _ _ _ h
    next found after' reach₂ hfound =>
      split at h
      · cases h
        exact hrest _ _ _ _ _ hfound
      · split at h
        · cases h
          exact hrest _ _ _ _ _ hfound
        · exact hsecond _ _ _ _ _ h

@[spec]
theorem alternative_spec {chained : Reader Reading}
    (hchained : ⦃⌜True⌝⦄ chained ⦃⇓ r => ⌜r.Conforms⌝⦄) :
    ⦃⌜True⌝⦄ alternative self chained ⦃⇓ rs => ⌜Reading.AllParts rs⌝⦄ := by
  mvcgen [alternative, hchained]
  all_goals simp_all

@[spec]
theorem ifHead_spec (lax : Bool) :
    ⦃⌜True⌝⦄ ifHead self lax
    ⦃⇓ rs => ⌜Reading.AllParts rs ∧ ∃ r ∈ rs, r.tree.label = some .condition⌝⦄ := by
  mvcgen [ifHead]
  case vc1 => simp_all
  case vc2 =>
    next first _ _ hfirst _ _ _ _ e _ _ he =>
    have := conforms_bareExpression? hfirst.isPart e he
    simp_all

@[spec]
theorem ifStatement_spec (inClause : Bool) :
    ⦃⌜True⌝⦄ ifStatement self inClause ⦃⇓ r => ⌜r.Conforms⌝⦄ := by
  have hheaded := @headed_spec _ fun rs : List Reading =>
    Reading.AllParts rs ∧ ∃ r ∈ rs, r.tree.label = some .condition
  mvcgen [ifStatement, hheaded]
  all_goals clear hheaded; simp_all

@[spec]
theorem forClause_spec (lax : Bool) {init : List Reading} (hinit : Reading.AllParts init) :
    ⦃⌜True⌝⦄ forClause self lax init ⦃⇓ r => ⌜r.Conforms⌝⦄ := by
  mvcgen [forClause]
  all_goals simp_all

@[spec]
theorem rangeClause_spec (lax : Bool) {left : List Reading} (hleft : Reading.AllParts left) :
    ⦃⌜True⌝⦄ rangeClause self lax left ⦃⇓ r => ⌜r.Conforms⌝⦄ := by
  mvcgen [rangeClause]
  all_goals simp_all

@[spec]
theorem forHead_spec (lax : Bool) :
    ⦃⌜True⌝⦄ forHead self lax ⦃⇓ rs => ⌜Reading.AllParts rs⌝⦄ := by
  mvcgen [forHead]
  all_goals simp_all
  next first _ _ _ e _ _ _ _ _ _ _ _ hfirst _ he =>
    exact (conforms_bareExpression? hfirst.isPart e he).isPart

@[spec]
theorem forStatement_spec : ⦃⌜True⌝⦄ forStatement self ⦃⇓ r => ⌜r.Conforms⌝⦄ := by
  have hheaded := @headed_spec _ Reading.AllParts
  mvcgen [forStatement, hheaded]
  all_goals clear hheaded; simp_all

/-! ## Statements with clauses -/

@[spec]
theorem clauseBody_spec : ⦃⌜True⌝⦄ clauseBody self ⦃⇓ rs => ⌜Reading.AllParts rs⌝⦄ := by
  mvcgen [clauseBody]
  all_goals simp_all

@[spec]
theorem defaultCase_spec : ⦃⌜True⌝⦄ defaultCase self ⦃⇓ r => ⌜r.Conforms⌝⦄ := by
  mvcgen [defaultCase]
  all_goals simp_all

@[spec]
theorem expressionCase_spec : ⦃⌜True⌝⦄ expressionCase self ⦃⇓ r => ⌜r.Conforms⌝⦄ := by
  mvcgen [expressionCase]
  all_goals simp_all

@[spec]
theorem typeCase_spec : ⦃⌜True⌝⦄ typeCase self ⦃⇓ r => ⌜r.Conforms⌝⦄ := by
  have hloop := @iterate_spec _ Reading.AllFields
  mvcgen [typeCase, hloop]
  all_goals clear hloop; simp_all

@[spec]
theorem communication_spec : ⦃⌜True⌝⦄ communication self ⦃⇓ r => ⌜r.Conforms⌝⦄ := by
  mvcgen [communication]
  all_goals simp_all

@[spec]
theorem communicationCase_spec : ⦃⌜True⌝⦄ communicationCase self ⦃⇓ r => ⌜r.Conforms⌝⦄ := by
  mvcgen [communicationCase]
  all_goals simp_all

@[spec]
theorem clauses_spec {case : Reader Reading} (hcase : ⦃⌜True⌝⦄ case ⦃⇓ r => ⌜r.Conforms⌝⦄) :
    ⦃⌜True⌝⦄ clauses self case ⦃⇓ rs => ⌜Reading.AllParts rs⌝⦄ := by
  mvcgen [clauses, hcase, iterate_allParts]
  all_goals simp_all

@[spec]
theorem typeQuestion_spec : ⦃⌜True⌝⦄ typeQuestion ⦃⇓ rs => ⌜Reading.AllParts rs⌝⦄ := by
  mvcgen [typeQuestion]
  all_goals simp_all

@[spec]
theorem switchDeclaration_spec {left : Reading} (hleft : left.Conforms) :
    ⦃⌜True⌝⦄ switchDeclaration self left
    ⦃⇓ p => ⌜Reading.AllParts p.2 ∧ (p.1 = false → Reading.AllFields p.2)⌝⦄ := by
  mvcgen [switchDeclaration]
  all_goals simp_all

@[spec]
theorem switchPart_spec (lax : Bool) :
    ⦃⌜True⌝⦄ switchPart self lax
    ⦃⇓ p => ⌜Reading.AllParts p.2 ∧ (p.1 = false → Reading.AllFields p.2)⌝⦄ := by
  mvcgen [switchPart]
  all_goals simp_all

@[spec]
theorem switchSubject_spec {parts : Bool × List Reading} (hparts : Reading.AllParts parts.2) :
    ⦃⌜True⌝⦄ switchSubject parts ⦃⇓ p => ⌜Reading.AllParts p.2⌝⦄ := by
  mvcgen [switchSubject]
  next r hr _ _ e _ _ he =>
    subst hr
    have := conforms_bareExpression? (Reading.allParts_cons.1 hparts).1 e he
    simp_all
  next heq _ _ => exact heq ▸ hparts

@[spec]
theorem switchHead_spec (lax : Bool) :
    ⦃⌜True⌝⦄ switchHead self lax ⦃⇓ p => ⌜Reading.AllParts p.2⌝⦄ := by
  mvcgen [switchHead]
  all_goals simp_all +zetaDelta

@[spec]
theorem switchStatement_spec : ⦃⌜True⌝⦄ switchStatement self ⦃⇓ r => ⌜r.Conforms⌝⦄ := by
  have hheaded := @headed_spec _ fun p : Bool × List Reading => Reading.AllParts p.2
  mvcgen [switchStatement, hheaded]
  all_goals clear hheaded; simp_all

@[spec]
theorem selectStatement_spec : ⦃⌜True⌝⦄ selectStatement self ⦃⇓ r => ⌜r.Conforms⌝⦄ := by
  mvcgen [selectStatement]
  all_goals simp_all

/-! ## All statements -/

@[spec]
theorem atOmitted_spec (inClause : Bool) : ⦃⌜True⌝⦄ atOmitted inClause ⦃⇓ _ => ⌜True⌝⦄ :=
  triple_true (atOmitted inClause)

@[spec]
theorem returnStatement_spec (inClause : Bool) :
    ⦃⌜True⌝⦄ returnStatement self inClause ⦃⇓ r => ⌜r.Conforms⌝⦄ := by
  mvcgen [returnStatement]
  all_goals simp_all

@[spec]
theorem jumpStatement_spec (text : String) {kind : Kind} (hkind : ∀ heads, Tree.Admits kind heads)
    (inClause : Bool) : ⦃⌜True⌝⦄ jumpStatement text kind inClause ⦃⇓ r => ⌜r.Conforms⌝⦄ := by
  mvcgen [jumpStatement]
  all_goals simp_all

@[spec]
theorem otherStatement_spec (inClause : Bool) :
    ⦃⌜True⌝⦄ otherStatement self inClause ⦃⇓ r => ⌜r.Conforms⌝⦄ := by
  mvcgen [otherStatement]
  all_goals simp_all

@[spec]
theorem wordStatement_spec (lenient inClause : Bool) (text : String) :
    ⦃⌜True⌝⦄ wordStatement self lenient inClause text ⦃⇓ r => ⌜r.Conforms⌝⦄ := by
  mvcgen [wordStatement]
  all_goals simp_all

@[spec]
theorem statementOf_spec (lenient inClause : Bool) :
    ⦃⌜True⌝⦄ statementOf self lenient inClause ⦃⇓ r => ⌜r.Conforms⌝⦄ := by
  mvcgen [statementOf]
  all_goals simp_all

end

end Grammar

end GoSurvey.Go
