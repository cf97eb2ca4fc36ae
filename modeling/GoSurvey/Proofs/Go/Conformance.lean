import GoSurvey.Proofs.Go.BareTree
import GoSurvey.Proofs.Go.Triples

/-!
# Trees conform to the grammar

`Tree.Admits` says which parts the grammar allows a node to have, as far as the kind of the node
restricts them, and a tree conforms if that holds of all its nodes, whatever comments stand between
the parts and whatever separators were forgotten (`Tree.Conforms`). It is a property of what readers
give, shown reader by reader with triples. Most readers give a named node (`Reading.Conforms`), and
all of them give something that can be a part of one (`Reading.IsPart`), in some places under any
label (`Reading.IsField`). The readers of a grammar call each other through the grammar itself, so
that theirs assume that those of the grammar give trees that conform (`Grammar.Conforms`).
-/

namespace GoSurvey.Go

open Std.Do Reader

set_option mvcgen.warning false

namespace Tree

/-- A tree without its place and its parts. -/
def head : Tree → Tree
  | .leaf label kind text _ => .leaf label kind text .nowhere
  | .mark label text _ => .mark label text .nowhere
  | .absent _ => .absent .nowhere
  | .comment text _ => .comment text .nowhere
  | .node label kind _ _ => .node label kind .nowhere []

/-- The comma between two items of a list. -/
def comma (label : Option Label) : Tree :=
  .mark label "," .nowhere

/-- The heads of names with commas between them. -/
def nameHeads (commas : Option Label) (kind : Kind) (names : List String) : List Tree :=
  (names.map fun name => .leaf (some .name) kind name .nowhere).intersperse (comma commas)

/-- The heads of an equals sign and the values after it. -/
def valueHeads : List Tree :=
  [.mark none "=" .nowhere, .node (some .value) .expressionList .nowhere []]

/-- The heads of the parts that declare values: names with commas between them, a type or none, and
then an equals sign and expressions or nothing. -/
def DeclareValues (commas : Option Label) (heads : List Tree) : Prop :=
  ∃ (names : List String) (type : Option Tree) (values : List Tree),
    names ≠ [] ∧ (∀ t ∈ type, t.label = some .type) ∧ (values = [] ∨ values = valueHeads) ∧
      heads = nameHeads commas .identifier names ++ type.toList ++ values

/-- What the parts of a node of a kind can be, by their heads and comments apart. Nothing is asked
of kinds that are not listed. -/
def Admits : Kind → List Tree → Prop
  | .expressionList, heads =>
    ∃ items, items ≠ [] ∧ (∀ t ∈ items, t.isNamed = true) ∧ heads = items.intersperse (comma none)
  | .varSpec, heads => DeclareValues none heads
  | .constSpec, heads => DeclareValues (some .name) heads
  | .expressionStatement, heads => ∀ t ∈ heads, t.isNamed = true
  | .ifStatement, heads => some .condition ∈ heads.map label
  | .rangeClause, heads => some .right ∈ heads.map label
  | .error, _ => False
  | _, _ => True

/-- One more item at the end of a list with commas. -/
theorem intersperse_concat {α : Type} (sep x : α) {xs : List α} (h : xs ≠ []) :
    (xs ++ [x]).intersperse sep = xs.intersperse sep ++ [sep, x] := by
  induction xs with
  | nil => exact absurd rfl h
  | cons a xs ih =>
    cases xs with
    | nil => rfl
    | cons b xs => simpa using ih (by simp)

theorem nameHeads_concat (commas : Option Label) (kind : Kind) {names : List String}
    (h : names ≠ []) (name : String) :
    nameHeads commas kind (names ++ [name]) =
      nameHeads commas kind names ++ [comma commas, .leaf (some .name) kind name .nowhere] := by
  rw [nameHeads, List.map_append, List.map_singleton, intersperse_concat _ _ (by simpa using h)]
  rfl

/-- Under one label, the commas count among the names. -/
theorem map_as_nameHeads (kind : Kind) (names : List String) :
    (nameHeads none kind names).map (·.as .name) = nameHeads (some .name) kind names := by
  induction names with
  | nil => rfl
  | cons name names ih =>
    cases names with
    | nil => rfl
    | cons second names => exact congrArg (_ :: _ :: ·) ih

/-- A kind that is not listed admits all parts. -/
@[simp]
theorem admits_of_notMem {kind : Kind} {heads : List Tree}
    (h : kind ∉ [.expressionList, .varSpec, .constSpec, .expressionStatement, .ifStatement,
      .rangeClause, .error]) : Admits kind heads := by
  unfold Admits
  split
  case h_8 => trivial
  all_goals simp at h

@[simp]
theorem admits_expressionStatement {heads : List Tree} :
    Admits .expressionStatement heads ↔ ∀ t ∈ heads, t.isNamed = true :=
  Iff.rfl

@[simp]
theorem admits_ifStatement {heads : List Tree} :
    Admits .ifStatement heads ↔ some .condition ∈ heads.map label :=
  Iff.rfl

@[simp]
theorem admits_rangeClause {heads : List Tree} :
    Admits .rangeClause heads ↔ some .right ∈ heads.map label :=
  Iff.rfl

/-- A tree in which every node has the parts that its kind asks for. A mark with a label is not
named like something unreadable. Separators can be missing, and there are comments only if they are
allowed. -/
inductive Conforms (comments : Bool) : Tree → Prop where
  | leaf (label : Option Label) (kind : Kind) (text : String) (span : Span) : Admits kind [] →
    Conforms comments (.leaf label kind text span)
  | mark (label : Option Label) (text : String) (span : Span) :
    (label = none ∨ Node.isErrorKind text = false) → Conforms comments (.mark label text span)
  | absent (span : Span) : Conforms comments (.absent span)
  | comment (text : String) (span : Span) : comments = true →
    Conforms comments (.comment text span)
  | node (label : Option Label) (kind : Kind) (span : Span) (children : List Tree) :
    Admits kind ((children.filter (!·.isComment)).map head) →
    (∀ t ∈ children, Conforms comments t) → Conforms comments (.node label kind span children)

/-- A named tree conforms under every label. -/
theorem conforms_as {comments : Bool} {label : Label} {t : Tree} (hnamed : t.isNamed = true) :
    (t.as label).Conforms comments ↔ t.Conforms comments := by
  cases t with
  | node l kind span children =>
    constructor
    · rintro ⟨⟩
      constructor <;> assumption
    · rintro ⟨⟩
      constructor <;> assumption
  | leaf l kind text span =>
    constructor
    · rintro ⟨⟩
      constructor
      assumption
    · rintro ⟨⟩
      constructor
      assumption
  | comment => exact Iff.rfl
  | mark | absent => cases hnamed

@[simp]
theorem as_leaf (label : Label) (l : Option Label) (kind : Kind) (text : String) (span : Span) :
    (leaf l kind text span).as label = leaf (some label) kind text span :=
  rfl

@[simp]
theorem as_node (label : Label) (l : Option Label) (kind : Kind) (span : Span)
    (children : List Tree) :
    (node l kind span children).as label = node (some label) kind span children :=
  rfl

theorem Conforms.isComment_eq_false {t : Tree} (h : t.Conforms false) : t.isComment = false := by
  cases h with
  | comment _ _ h => cases h
  | _ => rfl

theorem Conforms.of_mem_children {comments : Bool} {t child : Tree} (h : t.Conforms comments)
    (hchild : child ∈ t.children) : child.Conforms comments := by
  cases h with
  | node label kind span children hadmits hchildren => exact hchildren child hchild
  | _ => cases hchild

@[simp]
theorem isNamed_as (label : Label) (t : Tree) : (t.as label).isNamed = t.isNamed := by
  cases t <;> rfl

@[simp]
theorem head_as (label : Label) (t : Tree) : (t.as label).head = t.head.as label := by
  cases t <;> rfl

@[simp]
theorem label_head (t : Tree) : t.head.label = t.label := by
  cases t <;> rfl

@[simp]
theorem isNamed_head (t : Tree) : t.head.isNamed = t.isNamed := by
  cases t <;> rfl

end Tree

/-! ## Readings -/

/-- What stands for something unreadable has a longer name than an operator. -/
theorem isErrorKind_of_length_lt {text : String} (h : text.length < 5) :
    Node.isErrorKind text = false := by
  rw [Node.isErrorKind, Bool.or_eq_false_iff, beq_eq_false_iff_ne, beq_eq_false_iff_ne]
  constructor
  all_goals
    rintro rfl
    revert h
    decide

namespace Reading

/-- A reading whose tree conforms to the grammar and is a named node. -/
def Conforms (r : Reading) : Prop :=
  r.tree.Conforms false ∧ r.tree.isNamed = true

/-- A reading that can be a part of a node: its tree conforms, whether it is named or not. -/
def IsPart (r : Reading) : Prop :=
  r.tree.Conforms false

/-- A reading that can be a part of a node under every label. -/
def IsField (r : Reading) : Prop :=
  r.IsPart ∧ ∀ label, (r.as label).IsPart

/-- Readings that can be the parts of a node. -/
def AllParts (rs : List Reading) : Prop :=
  ∀ r ∈ rs, r.IsPart

/-- Readings that can be the parts of a node under every label. -/
def AllFields (rs : List Reading) : Prop :=
  ∀ r ∈ rs, r.IsField

@[simp]
theorem Conforms.isPart {r : Reading} (h : r.Conforms) : r.IsPart :=
  h.1

@[simp]
theorem Conforms.isNamed {r : Reading} (h : r.Conforms) : r.tree.isNamed = true :=
  h.2

@[simp]
theorem allParts_nil : AllParts [] :=
  fun _ h => nomatch h

@[simp]
theorem allParts_cons {r : Reading} {rs : List Reading} :
    AllParts (r :: rs) ↔ r.IsPart ∧ AllParts rs :=
  List.forall_mem_cons

@[simp]
theorem allParts_append {rs rs' : List Reading} :
    AllParts (rs ++ rs') ↔ AllParts rs ∧ AllParts rs' :=
  List.forall_mem_append

@[simp]
theorem isPart_mark (t : Token) : (Reading.mark t).IsPart :=
  .mark _ _ _ (.inl rfl)

@[simp]
theorem conforms_leaf {kind : Kind} {t : Token} :
    (Reading.leaf kind t).Conforms ↔ Tree.Admits kind [] := by
  constructor
  · rintro ⟨⟨⟩, -⟩
    assumption
  · exact fun h => ⟨.leaf _ _ _ _ h, rfl⟩

@[simp]
theorem tree_as (label : Label) (r : Reading) : (r.as label).tree = r.tree.as label :=
  rfl

@[simp]
theorem conforms_as {label : Label} {r : Reading} : (r.as label).Conforms ↔ r.Conforms := by
  simp only [Conforms, tree_as, Tree.isNamed_as]
  exact and_congr_left Tree.conforms_as

/-- A named node takes every label. -/
@[simp]
theorem Conforms.label_as {r : Reading} (h : r.Conforms) (label : Label) :
    (r.tree.as label).label = some label := by
  obtain ⟨tree, weight⟩ := r
  obtain ⟨hconforms, hnamed⟩ := h
  cases hconforms with
  | comment _ _ h => cases h
  | absent => cases hnamed
  | _ => rfl

@[simp]
theorem Conforms.label_head_as {r : Reading} (h : r.Conforms) (label : Label) :
    (r.tree.head.as label).label = some label := by
  rw [← Tree.head_as, Tree.label_head, h.label_as]

@[simp]
theorem Conforms.isField {r : Reading} (h : r.Conforms) : r.IsField :=
  ⟨h.isPart, fun _ => (conforms_as.2 h).isPart⟩

@[simp]
theorem IsField.isPart {r : Reading} (h : r.IsField) : r.IsPart :=
  h.1

@[simp]
theorem IsField.isPart_as {r : Reading} (h : r.IsField) (label : Label) : (r.as label).IsPart :=
  h.2 label

/-- A mark takes every label if it is not named like something unreadable. -/
theorem isField_of_head {r : Reading} {text : String}
    (h : r.tree.head = .mark none text .nowhere) (htext : Node.isErrorKind text = false) :
    r.IsField := by
  obtain ⟨tree, weight⟩ := r
  cases tree with
  | mark l t span =>
    obtain ⟨rfl, rfl⟩ : l = none ∧ t = text := by simpa [Tree.head] using h
    exact ⟨.mark _ _ _ (.inl rfl), fun _ => .mark _ _ _ (.inr htext)⟩
  | _ => cases h

@[simp]
theorem isField_comma {r : Reading} (h : r.tree.head = .mark none "," .nowhere) : r.IsField :=
  isField_of_head h rfl

@[simp]
theorem allFields_nil : AllFields [] :=
  fun _ h => nomatch h

@[simp]
theorem allFields_cons {r : Reading} {rs : List Reading} :
    AllFields (r :: rs) ↔ r.IsField ∧ AllFields rs :=
  List.forall_mem_cons

@[simp]
theorem allFields_append {rs rs' : List Reading} :
    AllFields (rs ++ rs') ↔ AllFields rs ∧ AllFields rs' :=
  List.forall_mem_append

@[simp]
theorem AllFields.allParts {rs : List Reading} (h : AllFields rs) : AllParts rs :=
  fun r hr => (h r hr).isPart

@[simp]
theorem AllFields.map_as {rs : List Reading} (h : AllFields rs) (label : Label) :
    AllParts (rs.map (·.as label)) := by
  intro r hr
  obtain ⟨s, hs, rfl⟩ := List.mem_map.1 hr
  exact (h s hs).isPart_as label

/-- A node conforms if its kind admits its parts and all of them conform. -/
@[simp]
theorem conforms_node {kind : Kind} {own : Int} {parts : List Reading} :
    (Reading.node kind own parts).Conforms ↔
      Tree.Admits kind (parts.map (·.tree.head)) ∧ AllParts parts := by
  have hfilter (h : AllParts parts) :
      ((parts.map (·.tree)).filter (!·.isComment)).map Tree.head = parts.map (·.tree.head) := by
    rw [List.filter_eq_self.2, List.map_map]
    · rfl
    · rintro _ ht
      obtain ⟨r, hr, rfl⟩ := List.mem_map.1 ht
      rw [Tree.Conforms.isComment_eq_false (h r hr)]
      rfl
  constructor
  · rintro ⟨⟨⟩, -⟩
    next hparts hadmits =>
    have hparts : AllParts parts := fun r hr => hparts r.tree (List.mem_map_of_mem hr)
    rw [hfilter hparts] at hadmits
    exact ⟨hadmits, hparts⟩
  · rintro ⟨hadmits, hparts⟩
    refine ⟨.node _ _ _ _ ?_ ?_, rfl⟩
    · rwa [hfilter hparts]
    · rintro _ ht
      obtain ⟨r, hr, rfl⟩ := List.mem_map.1 ht
      exact hparts r hr

@[simp]
theorem head_node (kind : Kind) (own : Int) (parts : List Reading) :
    (Reading.node kind own parts).tree.head = .node none kind .nowhere [] :=
  rfl

end Reading

/-- An operand of which all readings conform. -/
@[mk_iff]
structure Operand.Conforms (o : Operand) : Prop where
  expr : ∀ r ∈ o.expr, r.Conforms
  type : ∀ r ∈ o.type, r.Conforms
  base : ∀ r ∈ o.base, r.Conforms
  union : ∀ r ∈ o.union, r.Conforms
  applied : ∀ p ∈ o.applied, p.1.Conforms ∧ p.2.Conforms

/-- A grammar whose rules yield only what conforms. -/
class Grammar.Conforms (self : Grammar) : Prop where
  expr : ∀ mode level, ⦃⌜True⌝⦄ self (.expr mode level) ⦃⇓ o => ⌜o.Conforms⌝⦄
  type : ∀ lines, ⦃⌜True⌝⦄ self (.type lines) ⦃⇓ r => ⌜r.Conforms⌝⦄
  parameters : ⦃⌜True⌝⦄ self .parameters ⦃⇓ r => ⌜r.Conforms⌝⦄
  literalValue : ⦃⌜True⌝⦄ self .literalValue ⦃⇓ r => ⌜r.Conforms⌝⦄
  block : ⦃⌜True⌝⦄ self .block ⦃⇓ r => ⌜r.Conforms⌝⦄
  statement : ∀ inClause, ⦃⌜True⌝⦄ self (.statement inClause) ⦃⇓ r => ⌜r.Conforms⌝⦄

attribute [spec] Grammar.Conforms.expr Grammar.Conforms.type Grammar.Conforms.parameters
  Grammar.Conforms.literalValue Grammar.Conforms.block Grammar.Conforms.statement

/-! ## Tokens -/

namespace Reader

@[spec]
theorem mark_spec (text : String) :
    ⦃⌜True⌝⦄ mark text ⦃⇓ r => ⌜r.IsPart ∧ r.tree.head = .mark none text .nowhere⌝⦄ := by
  rw [triple_iff]
  intro ts reach r rest reach' h
  have hpeek : peek ts reach = (some (ts.headD ending, ts), reach) := rfl
  rw [mark, bind_of_some hpeek] at h
  cases hmark : (ts.headD ending).isMark text with
  | false =>
    rw [hmark] at h
    cases h
  | true =>
    have htext : (ts.headD ending).text = text := by simp_all [Token.isMark]
    rw [hmark] at h
    cases h
    exact ⟨Reading.isPart_mark _, htext ▸ rfl⟩

@[spec]
theorem keyword_spec (text : String) : ⦃⌜True⌝⦄ keyword text ⦃⇓ r => ⌜r.IsPart⌝⦄ := by
  mvcgen [keyword]
  all_goals simp

/-- The start of an operator takes every label. -/
@[spec]
theorem split_spec {length : Nat} (hlength : length < 5) :
    ⦃⌜True⌝⦄ split length ⦃⇓ r => ⌜r.IsField⌝⦄ := by
  mvcgen [split]
  all_goals
    refine Reading.isField_of_head rfl (isErrorKind_of_length_lt ?_)
    simp [Token.takeFirst]
    omega

@[spec]
theorem word_spec {kind : Kind} (hkind : Tree.Admits kind []) :
    ⦃⌜True⌝⦄ word kind
    ⦃⇓ r => ⌜r.Conforms ∧ r.tree.head = .leaf none kind r.tree.text .nowhere⌝⦄ := by
  mvcgen [word]
  all_goals simp [hkind]
  rfl

@[spec]
theorem atMark_spec (text : String) : ⦃⌜True⌝⦄ atMark text ⦃⇓ _ => ⌜True⌝⦄ :=
  triple_true (atMark text)

@[spec]
theorem atWord_spec (text : String) : ⦃⌜True⌝⦄ atWord text ⦃⇓ _ => ⌜True⌝⦄ :=
  triple_true (atWord text)

@[spec]
theorem atNewline_spec : ⦃⌜True⌝⦄ atNewline ⦃⇓ _ => ⌜True⌝⦄ :=
  triple_true atNewline

@[spec]
theorem atEnd_spec (lines : Bool) : ⦃⌜True⌝⦄ atEnd lines ⦃⇓ _ => ⌜True⌝⦄ :=
  triple_true (atEnd lines)

@[spec]
theorem terminator?_spec : ⦃⌜True⌝⦄ terminator? ⦃⇓ o => ⌜∀ r ∈ o, r.IsPart⌝⦄ := by
  mvcgen [terminator?]
  all_goals simp
  exact .mark _ _ _ (.inl rfl)

theorem iterate_allParts {step : List Reading → Reader (Option (List Reading))}
    (hstep : ∀ rs, Reading.AllParts rs →
      ⦃⌜True⌝⦄ step rs ⦃⇓ o => ⌜∀ rs ∈ o, Reading.AllParts rs⌝⦄)
    (rs : List Reading) (hrs : Reading.AllParts rs) :
    ⦃⌜True⌝⦄ iterate step rs ⦃⇓ rs => ⌜Reading.AllParts rs⌝⦄ :=
  iterate_spec Reading.AllParts hstep rs hrs

@[spec]
theorem lines_spec (closing : String) {item : Reader Reading}
    (hitem : ⦃⌜True⌝⦄ item ⦃⇓ r => ⌜r.Conforms⌝⦄) :
    ⦃⌜True⌝⦄ lines closing item ⦃⇓ rs => ⌜Reading.AllParts rs⌝⦄ := by
  have hloop := @iterate_spec _ fun s : List Reading × Bool => Reading.AllParts s.1
  mvcgen [lines, hitem, hloop]
  all_goals clear hloop; simp_all

end Reader

end GoSurvey.Go
