import GoSurvey.Proofs.Go.Conformance.Types

/-!
# Expressions conform

An operand can still become an expression, a type or the head of a statement, so each of its
readings has to conform (`Operand.Conforms`). Brackets, calls and operators keep that
(`conforms_bracketed`, `conforms_binary`).
-/

namespace GoSurvey.Go

open Std.Do Reader

set_option mvcgen.warning false

namespace Grammar

section
variable {self : Grammar} [Grammar.Conforms self]

/-! ## Expressions -/

@[spec]
theorem expressionsFrom_spec (mode : Mode) {first : Reading} (hfirst : first.Conforms) :
    ⦃⌜True⌝⦄ expressionsFrom self mode first
    ⦃⇓ r => ⌜r.Conforms ∧ r.tree.head = .node none .expressionList .nowhere []⌝⦄ := by
  have hloop := @iterate_spec _ fun rs : List Reading => Reading.AllParts rs ∧
    Tree.Admits .expressionList (rs.map (·.tree.head))
  mvcgen [expressionsFrom, hloop]
  all_goals clear hloop
  case vc2 =>
    next parts hparts _ _ _ _ _ _ _ _ _ _ comma _ _ hcomma item _ _ hitem =>
    obtain ⟨hconform, items, hne, hnamed, hheads⟩ := hparts
    rintro _ ⟨⟩
    refine ⟨by simp_all, items ++ [item.tree.head], by simp, ?_, ?_⟩
    · simp_all [or_imp]
    · simp [hheads, hcomma.2, Tree.intersperse_concat _ _ hne, Tree.comma]
  case vc4 => exact ⟨by simp_all, [first.tree.head], by simp, by simp_all, rfl⟩
  all_goals simp_all

@[spec]
theorem expressionList_spec (mode : Mode) :
    ⦃⌜True⌝⦄ expressionList self mode
    ⦃⇓ r => ⌜r.Conforms ∧ r.tree.head = .node none .expressionList .nowhere []⌝⦄ := by
  mvcgen [expressionList]
  all_goals simp_all

@[spec]
theorem argument_spec : ⦃⌜True⌝⦄ argument self ⦃⇓ r => ⌜r.Conforms⌝⦄ := by
  mvcgen [argument]
  all_goals simp_all

@[spec]
theorem argumentList_spec : ⦃⌜True⌝⦄ argumentList self ⦃⇓ rs => ⌜Reading.AllParts rs⌝⦄ := by
  mvcgen [argumentList]
  all_goals simp_all

@[spec]
theorem literalElement_spec : ⦃⌜True⌝⦄ literalElement self ⦃⇓ r => ⌜r.Conforms⌝⦄ := by
  mvcgen [literalElement]
  all_goals simp_all

@[spec]
theorem keyedElement_spec : ⦃⌜True⌝⦄ keyedElement self ⦃⇓ r => ⌜r.Conforms⌝⦄ := by
  mvcgen [keyedElement]
  all_goals simp_all

@[spec]
theorem literalValue_spec : ⦃⌜True⌝⦄ literalValue self ⦃⇓ r => ⌜r.Conforms⌝⦄ := by
  mvcgen [literalValue]
  all_goals simp_all

@[simp]
theorem conforms_valueOf {r : Reading} : (valueOf r).Conforms ↔ r.Conforms := by
  constructor
  · exact fun h => h.expr r rfl
  · intro h
    constructor <;> simp_all [valueOf]

@[simp]
theorem conforms_typeOf {r : Reading} : (typeOf r).Conforms ↔ r.Conforms := by
  constructor
  · exact fun h => h.type r rfl
  · intro h
    constructor <;> simp_all [typeOf]

@[simp]
theorem conforms_nameOf (t : Token) : (nameOf t).Conforms := by
  constructor <;> simp [nameOf]

@[spec]
theorem specialCall_spec (mode : Mode) :
    ⦃⌜True⌝⦄ specialCall self mode ⦃⇓ o => ⌜o.Conforms⌝⦄ := by
  mvcgen [specialCall, iterate_allParts]
  all_goals simp_all +zetaDelta

@[spec]
theorem functionOperand_spec : ⦃⌜True⌝⦄ functionOperand self ⦃⇓ o => ⌜o.Conforms⌝⦄ := by
  mvcgen [functionOperand]
  all_goals simp_all +zetaDelta

@[spec]
theorem sequenceOperand_spec : ⦃⌜True⌝⦄ sequenceOperand self ⦃⇓ o => ⌜o.Conforms⌝⦄ := by
  mvcgen [sequenceOperand]
  case vc1 => constructor <;> simp_all
  all_goals simp_all

@[spec]
theorem parenthesized_spec : ⦃⌜True⌝⦄ parenthesized self ⦃⇓ o => ⌜o.Conforms⌝⦄ := by
  mvcgen [parenthesized]
  simp_all +zetaDelta [Operand.conforms_iff]

@[spec]
theorem wordOperand_spec (mode : Mode) (t : Token) :
    ⦃⌜True⌝⦄ wordOperand self mode t ⦃⇓ o => ⌜o.Conforms⌝⦄ := by
  mvcgen [wordOperand]
  all_goals simp_all

@[spec]
theorem primary_spec (mode : Mode) : ⦃⌜True⌝⦄ primary self mode ⦃⇓ o => ⌜o.Conforms⌝⦄ := by
  mvcgen [primary]
  all_goals simp_all

/-! ## What follows an operand -/

theorem conforms_selected {o : Operand} (ho : o.Conforms) {dot name : Reading}
    (hdot : dot.IsPart) (hname : name.Conforms) (t : Token) :
    (selected o dot name t).Conforms := by
  simp_all [Operand.conforms_iff, selected, qualified]

@[spec]
theorem atTypeQuestion_spec : ⦃⌜True⌝⦄ atTypeQuestion ⦃⇓ _ => ⌜True⌝⦄ :=
  triple_true atTypeQuestion

theorem exprOf_spec {o : Operand} (ho : o.Conforms) :
    ⦃⌜True⌝⦄ exprOf o ⦃⇓ r => ⌜r.Conforms⌝⦄ := by
  mvcgen [exprOf]
  next r =>
  intro _ _ hr
  exact ho.expr r hr

attribute [local spec] exprOf_spec

@[spec]
theorem afterDot_spec {o : Operand} (ho : o.Conforms) :
    ⦃⌜True⌝⦄ afterDot self o ⦃⇓ o => ⌜o.Conforms⌝⦄ := by
  mvcgen [afterDot]
  all_goals simp_all [conforms_selected]

@[spec]
theorem sliceFrom_spec {o : Operand} (ho : o.Conforms) {start : List Reading}
    (hstart : Reading.AllParts start) :
    ⦃⌜True⌝⦄ sliceFrom self o start ⦃⇓ o => ⌜o.Conforms⌝⦄ := by
  mvcgen [sliceFrom]
  all_goals simp_all

/-- The marks and operands in brackets, of which all readings conform. -/
def ItemsConform (items : List (Reading ⊕ Operand)) : Prop :=
  ∀ item ∈ items, item.elim Reading.IsPart Operand.Conforms

@[simp]
theorem itemsConform_nil : ItemsConform [] :=
  fun _ h => nomatch h

@[simp]
theorem itemsConform_cons {item : Reading ⊕ Operand} {items : List (Reading ⊕ Operand)} :
    ItemsConform (item :: items) ↔
      item.elim Reading.IsPart Operand.Conforms ∧ ItemsConform items :=
  List.forall_mem_cons

@[simp]
theorem itemsConform_append {items items' : List (Reading ⊕ Operand)} :
    ItemsConform (items ++ items') ↔ ItemsConform items ∧ ItemsConform items' :=
  List.forall_mem_append

theorem allParts_fill {pick : Operand → Option Reading}
    (hpick : ∀ o : Operand, o.Conforms → ∀ r ∈ pick o, r.Conforms)
    {items : List (Reading ⊕ Operand)} (hitems : ItemsConform items) :
    ∀ rs ∈ fill pick items, Reading.AllParts rs := by
  fun_induction fill pick items with
  | case1 => simp
  | case2 mark rest ih => simp_all
  | case3 o rest ih =>
    simp only [itemsConform_cons, Sum.elim_inr] at hitems
    intro rs hrs
    simp only [Option.mem_def, Option.bind_eq_bind, Option.bind_eq_some_iff, Option.pure_def,
      Option.some.injEq] at hrs
    obtain ⟨r, hr, rs, hrs, rfl⟩ := hrs
    exact Reading.allParts_cons.2 ⟨(hpick o hitems.1 r hr).isPart, ih hitems.2 rs hrs⟩

theorem conforms_argumentOf {o : Operand} (ho : o.Conforms) : ∀ r ∈ argumentOf o, r.Conforms := by
  unfold argumentOf
  split
  · have := ho.type
    simp_all
  · exact ho.union

theorem mem_of_heaviest? {rs : List Reading} {r : Reading} (h : Reading.heaviest? rs = some r) :
    r ∈ rs := by
  fun_induction Reading.heaviest? rs with
  | case1 => cases h
  | case2 s rs hnone ih =>
    cases h
    exact List.mem_cons_self
  | case3 s rs t hsome hlt ih =>
    cases h
    exact List.mem_cons_of_mem s (ih hsome)
  | case4 s rs t hsome hlt ih =>
    cases h
    exact List.mem_cons_self

theorem mem_of_best? {rs : List (Option Reading)} {r : Reading} (h : Reading.best? rs = some r) :
    some r ∈ rs := by
  simpa using mem_of_heaviest? h

/-- If all readings conform, so does the best of them. -/
theorem conforms_of_best? {rs : List (Option Reading)}
    (hrs : ∀ o ∈ rs, ∀ r ∈ o, r.Conforms) : ∀ r ∈ Reading.best? rs, r.Conforms :=
  fun r hr => hrs (some r) (mem_of_best? hr) r rfl

theorem conforms_bracketed {o : Operand} (ho : o.Conforms) {opening closing : Reading}
    (hopening : opening.IsPart) (hclosing : closing.IsPart)
    {items : List (Reading ⊕ Operand)} (hitems : ItemsConform items) :
    (bracketed o opening closing items).Conforms := by
  have htypes := allParts_fill (fun o ho => ho.type) hitems
  have hargs := allParts_fill (fun o ho => conforms_argumentOf ho) hitems
  have hlabel (rs : List Reading) (hrs : Reading.AllParts rs) :
      Reading.AllParts (rs.map fun r => if r.tree.isNamed then r.as .type else r) := by
    intro r hr
    obtain ⟨s, hs, rfl⟩ := List.mem_map.1 hr
    split
    next hnamed => exact (Reading.conforms_as.2 ⟨hrs s hs, hnamed⟩).isPart
    next => exact hrs s hs
  constructor
  case expr =>
    -- What is in the brackets can be types, or a single index.
    refine conforms_of_best? ?_
    simp only [List.mem_cons, List.not_mem_nil, or_false, forall_eq_or_imp, forall_eq]
    constructor
    · intro r hr
      simp only [Option.mem_def, Option.bind_eq_bind, Option.bind_eq_some_iff, Option.pure_def,
        Option.some.injEq] at hr
      obtain ⟨type, htype, parts, hparts, rfl⟩ := hr
      have := ho.type type htype
      have := hlabel parts (htypes parts hparts)
      simp_all
    · intro r hr
      split at hr
      next i =>
        simp only [Option.mem_def, Option.bind_eq_bind, Option.bind_eq_some_iff, Option.pure_def,
          Option.some.injEq] at hr
        obtain ⟨e, he, index, hindex, rfl⟩ := hr
        have := ho.expr e he
        have := (show i.Conforms by simpa using hitems).expr index hindex
        simp_all
      next => cases hr
  case type =>
    have := ho.base
    intro r hr
    simp only [bracketed, Option.mem_def, Option.bind_eq_bind, Option.bind_eq_some_iff,
      Option.pure_def, Option.some.injEq, Option.map_eq_some_iff] at hr
    obtain ⟨base, hbase, _, ⟨args, hargs, rfl⟩, rfl⟩ := hr
    simp_all [instantiate]
  case applied =>
    intro p hp
    have := ho.expr
    simp only [bracketed, Option.mem_def, Option.bind_eq_bind, Option.bind_eq_some_iff,
      Option.pure_def, Option.some.injEq, Option.map_eq_some_iff] at hp
    obtain ⟨f, hf, _, ⟨args, hargs, rfl⟩, rfl⟩ := hp
    simp_all
  all_goals simp [bracketed]

@[spec]
theorem afterBracket_spec {o : Operand} (ho : o.Conforms) :
    ⦃⌜True⌝⦄ afterBracket self o ⦃⇓ o => ⌜o.Conforms⌝⦄ := by
  have hloop := @iterate_spec _ ItemsConform
  mvcgen [afterBracket, hloop]
  all_goals clear hloop
  all_goals simp_all +zetaDelta [conforms_bracketed]

theorem conforms_conversion? {o : Operand} (ho : o.Conforms) {args : List Reading}
    (hargs : Reading.AllParts args) : ∀ r ∈ conversion? o args, r.Conforms := by
  intro r hr
  simp only [conversion?, Option.mem_def, Option.bind_eq_bind, Option.bind_eq_some_iff] at hr
  obtain ⟨type, htype, hr⟩ := hr
  have := ho.type type htype
  split at hr
  · split at hr
    · cases hr
    · cases hr
      simp_all
  · cases hr

@[spec]
theorem afterParen_spec {o : Operand} (ho : o.Conforms) :
    ⦃⌜True⌝⦄ afterParen self o ⦃⇓ o => ⌜o.Conforms⌝⦄ := by
  mvcgen [afterParen]
  next args _ _ _ _ _ hargs r _ _ hr =>
  rw [conforms_valueOf]
  refine conforms_of_best? ?_ r hr
  have := ho.expr
  have := ho.applied
  have := conforms_conversion? ho hargs
  simp_all +zetaDelta
  rintro _ f types happlied rfl
  simp_all

theorem conforms_compositeType? {o : Operand} (ho : o.Conforms) :
    ∀ r ∈ compositeType? o, r.Conforms := by
  intro r hr
  rw [compositeType?, Option.mem_def, Option.orElse_eq_orElse] at hr
  cases hbase : o.base with
  | some base =>
    rw [hbase] at hr
    exact ho.base r (hbase.trans hr)
  | none =>
    rw [hbase] at hr
    obtain ⟨type, htype, hr⟩ := Option.bind_eq_some_iff.1 hr
    split at hr
    case h_6 => cases hr
    all_goals
      cases hr
      exact ho.type r htype

@[spec]
theorem composite_spec {o : Operand} (ho : o.Conforms) :
    ⦃⌜True⌝⦄ composite self o ⦃⇓ o => ⌜o.Conforms⌝⦄ := by
  mvcgen [composite]
  next type _ _ htype body _ _ hbody =>
  have := conforms_compositeType? ho type htype
  simp_all

@[spec]
theorem following_spec (mode : Mode) {o : Operand} (ho : o.Conforms) :
    ⦃⌜True⌝⦄ following self mode o ⦃⇓ found => ⌜∀ p ∈ found, Operand.Conforms p⌝⦄ := by
  mvcgen [following]
  all_goals simp_all

/-! ## Operators -/

theorem conforms_unary {op : Reading} (hop : op.IsField) {o : Operand} (ho : o.Conforms) :
    (unary op o).Conforms := by
  have := ho.expr
  have := ho.type
  constructor
  case type =>
    simp only [unary]
    split <;> simp_all
  all_goals simp_all [unary]

theorem length_lt_of_unaryOperator? {t : Token} {op : String} (h : unaryOperator? t = some op) :
    op.length < 5 := by
  have hshort : ∀ op ∈ unaryOperators, op.length < 5 := by decide
  unfold unaryOperator? at h
  split at h
  · exact hshort op (List.mem_of_find?_eq_some h)
  · cases h

theorem length_lt_of_binaryLevel? {op : String} {level : Nat} (h : binaryLevel? op = some level) :
    op.length < 5 := by
  have hmem {ops : List String} (hshort : ∀ op ∈ ops, op.length < 5) (hop : ops.contains op) :
      op.length < 5 :=
    hshort op (List.contains_iff_mem.1 hop)
  unfold binaryLevel? at h
  split_ifs at h with h5 h4 h3 h2 h1
  · exact hmem (by decide) h5
  · exact hmem (by decide) h4
  · exact hmem (by decide) h3
  · exact eq_of_beq h2 ▸ by decide
  · exact eq_of_beq h1 ▸ by decide

@[spec]
theorem operand_spec (mode : Mode) : ⦃⌜True⌝⦄ operand self mode ⦃⇓ o => ⌜o.Conforms⌝⦄ := by
  have hloop := @iterate_spec _ Operand.Conforms
  mvcgen [operand, hloop]
  all_goals clear hloop
  case vc3 => next hop _ _ _ _ _ _ _ _ _ _ => exact length_lt_of_unaryOperator? hop
  all_goals simp_all +zetaDelta [conforms_unary]

theorem allParts_unionParts {o : Operand} (ho : o.Conforms) :
    ∀ rs ∈ unionParts o, Reading.AllParts rs := by
  intro rs hrs
  unfold unionParts at hrs
  split at hrs
  next t htype =>
    cases hrs
    simpa using (ho.type t htype).isPart
  next u _ hunion =>
    cases hrs
    rintro r hr
    obtain ⟨t, ht, rfl⟩ := List.mem_map.1 hr
    exact Tree.Conforms.of_mem_children (ho.union u hunion).isPart ht
  next => cases hrs

theorem conforms_binary {left right : Operand} (hleft : left.Conforms) (hright : right.Conforms)
    {op : Reading} (hop : op.IsField) : (binary left op right).Conforms := by
  constructor
  case expr =>
    intro r hr
    simp only [binary, Option.mem_def, Option.bind_eq_bind, Option.bind_eq_some_iff,
      Option.pure_def, Option.some.injEq] at hr
    obtain ⟨l, hl, r, hr, rfl⟩ := hr
    have := hleft.expr l hl
    have := hright.expr r hr
    simp_all
  case union =>
    intro r hr
    simp only [binary] at hr
    split at hr
    · cases hr
    · simp only [Option.mem_def, Option.bind_eq_bind, Option.bind_eq_some_iff, Option.pure_def,
        Option.some.injEq] at hr
      obtain ⟨l, hl, r, hr, rfl⟩ := hr
      have := allParts_unionParts hleft l hl
      have := hright.type r hr
      have hwhole : (Reading.node .typeElem 0 (l ++ [op, r])).Conforms := by simp_all
      exact hwhole
  all_goals simp [binary]

@[spec]
theorem binaryStep_spec (mode : Mode) (level : Nat) {left : Operand} (hleft : left.Conforms) :
    ⦃⌜True⌝⦄ binaryStep self mode level left ⦃⇓ found => ⌜∀ p ∈ found, Operand.Conforms p⌝⦄ := by
  mvcgen [binaryStep]
  case vc5 => next hlevel _ _ _ => exact length_lt_of_binaryLevel? hlevel
  all_goals simp_all +zetaDelta [conforms_binary]

theorem expressionAt_spec (mode : Mode) (level : Nat) :
    ⦃⌜True⌝⦄ expressionAt self mode level ⦃⇓ o => ⌜o.Conforms⌝⦄ := by
  have hloop := @iterate_spec _ Operand.Conforms
  mvcgen [expressionAt, hloop]
  all_goals clear hloop
  all_goals simp_all

end

end Grammar

end GoSurvey.Go
