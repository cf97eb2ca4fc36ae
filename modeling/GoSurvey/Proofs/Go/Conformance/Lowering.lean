import GoSurvey.Proofs.Go.Conformance.File
import GoSurvey.Proofs.Go.Lowering

/-!
# Lowered code without errors

Lowering shows something unreadable in three ways: it keeps the kind of an error node, it names a
node after a mark, and it puts a placeholder where a condition or the value that a loop ranges over
is missing. A tree that conforms to the grammar gives no reason for any of them
(`Tree.lowers_not_isError`), so the bodies of its functions are without error nodes
(`Source.any_isError_body`).
-/

namespace GoSurvey.Go

/-- Only error nodes are named like something unreadable. -/
theorem Kind.isErrorKind_name {kind : Kind} (h : kind ≠ .error) :
    Node.isErrorKind kind.name = false := by
  cases kind with
  | error => exact absurd rfl h
  | _ => rfl

namespace Tree

/-- A tree that conforms is no error node. -/
theorem Conforms.kind?_ne_error {comments : Bool} {t : Tree} (h : t.Conforms comments) :
    t.kind? ≠ some .error := by
  rintro hkind
  cases h with
  | leaf _ kind _ _ hadmits =>
    cases hkind
    exact hadmits
  | node _ kind _ _ hadmits _ =>
    cases hkind
    exact hadmits
  | mark | absent | comment => cases hkind

/-- A part with a label is found under it. -/
theorem nodeAt_ne_none {label : Label} {ts : List Tree} {t : Tree} (ht : t ∈ ts)
    (hlabel : t.label = some label) : nodeAt label ts ≠ none := by
  induction ts with
  | nil => cases ht
  | cons u ts ih =>
    rw [nodeAt]
    split
    next => exact Option.some_ne_none _
    next hu =>
      obtain rfl | ht := List.mem_cons.1 ht
      · exact absurd (beq_iff_eq.2 hlabel) hu
      · exact ih ht

/-- A part that the grammar asks for is found under its label, whatever comments stand between the
parts. -/
theorem nodeAt_ne_none_of_heads {label : Label} {children : List Tree}
    (h : some label ∈ ((children.filter (!·.isComment)).map head).map Tree.label) :
    nodeAt label children ≠ none := by
  obtain ⟨_, hhead, hlabel⟩ := List.mem_map.1 h
  obtain ⟨t, ht, rfl⟩ := List.mem_map.1 hhead
  exact nodeAt_ne_none (List.mem_filter.1 ht).1 (t.label_head ▸ hlabel)

/-- **Lowering makes no error node of a tree that conforms.** -/
theorem lowers_not_isError : Lowers (Conforms true) (!·.isError) where
  child h hc := h.of_mem_children hc
  form {n} h _ := by
    cases n with
    | other => cases h
    | _ => rfl
  kind h hkind _ := by
    have hne := h.kind?_ne_error
    rw [hkind, ne_eq, Option.some.injEq] at hne
    exact Bool.not_eq_true' _ ▸ Kind.isErrorKind_name hne
  mark
    | .mark _ _ _ htext => by
      obtain hnone | htext := htext
      · cases hnone
      · exact Bool.not_eq_true' _ ▸ htext
  condition
    | .node _ _ _ _ hadmits _, hnone => absurd hnone (nodeAt_ne_none_of_heads hadmits)
  target
    | .node _ _ _ _ hadmits _, hnone => absurd hnone (nodeAt_ne_none_of_heads hadmits)

end Tree

/-- The body of a function has no error node unless some place in the source is a syntax error. -/
theorem Source.any_isError_body {bytes : List UInt8} (h : (read bytes).firstError = none)
    {path : String} {decl : FuncDecl} (hdecl : decl ∈ ((read bytes).toSourceFile path).functions)
    {body : Block} (hbody : decl.body = some body) :
    (Node.preorderBlock body).any Node.isError = false := by
  have hall := all_body Tree.lowers_not_isError (conforms_tree h) hdecl hbody
  rwa [← List.not_any_eq_all_not, Bool.not_eq_true'] at hall

end GoSurvey.Go
