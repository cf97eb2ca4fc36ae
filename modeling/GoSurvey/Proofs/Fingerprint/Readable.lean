import Mathlib.Data.List.Forall2
import GoSurvey.Facts
import GoSurvey.Proofs.Go.Lowering

/-!
# Which functions have a fingerprint

Measuring a body notes whether some part of its code could not be read (`hasErrors_measure_eq`). In
code that is lowered from a source, that is so exactly if there is an error node somewhere in the
body (`hasErrors_measure`). So the functions of a file with a fingerprint are those with a body
without error nodes, and the fingerprint is the canonical text of the body
(`FileFacts.forall₂_functions`).
-/

namespace GoSurvey

/-! ## Code that could not be read -/

namespace Node

mutual
/-- Whether something in the code of a node could not be read. The comments between clauses are not
part of the code. -/
def isDamaged : Node → Bool
  | .ident _ | .literal _ | .type _ | .comment _ => false
  | .unary _ e | .selector e _ => e.isDamaged
  | .binary _ l r => l.isDamaged || r.isDamaged
  | .call f args => f.isDamaged || isDamagedAny args
  | .cond init test body alt =>
    isDamagedOpt init || test.isDamaged || isDamagedBlock body || isDamagedOpt alt
  | .loop init test post body =>
    isDamagedOpt init || isDamagedOpt test || isDamagedOpt post || isDamagedBlock body
  | .range left target body => isDamagedOpt left || target.isDamaged || isDamagedBlock body
  | .switch init tag clauses _ =>
    isDamagedOpt init || isDamagedOpt tag || isDamagedClauses clauses
  | .select clauses _ => isDamagedClauses clauses
  | .block b => isDamagedBlock b
  | .ret values => isDamagedAny values
  | .other kind children => isErrorKind kind || isDamagedAny children

/-- `isDamaged` for an optional part. -/
def isDamagedOpt : Option Node → Bool
  | none => false
  | some n => n.isDamaged

/-- `isDamaged` for one of some nodes. -/
def isDamagedAny : List Node → Bool
  | [] => false
  | n :: ns => n.isDamaged || isDamagedAny ns

/-- `isDamaged` for a statement of a block. -/
def isDamagedBlock : Block → Bool
  | .mk _ stmts => isDamagedAny stmts

/-- `isDamaged` for an expression or a statement of a clause. -/
def isDamagedClauses : List Clause → Bool
  | [] => false
  | .mk _ _ exprs body :: cs => isDamagedAny exprs || isDamagedAny body || isDamagedClauses cs
end

/-- There is no error in a list of comments. -/
theorem any_isError_of_isComment : ∀ {comments : List Node}, comments.all isComment = true →
    (preorderAll comments).any isError = false
  | [], _ => rfl
  | .comment _ :: comments, h => by
    simpa [preorderAll, preorder, isError] using @any_isError_of_isComment comments h

attribute [local simp] isDamaged isDamagedOpt isDamagedAny isDamagedBlock isDamagedClauses
  preorder preorderOpt preorderAll preorderBlock preorderClauses isError Bool.or_assoc

-- `preorder` lists the comments between clauses, which are no code; this is the only place where
-- the hypothesis on comments is needed.
mutual
/-- If only comments stand between clauses, code is damaged if there is an error node in it. -/
theorem isDamaged_eq : ∀ {n : Node}, n.preorder.all hasPlainComments = true →
    n.isDamaged = n.preorder.any isError
  | .ident _, _ | .literal _, _ | .type _, _ | .comment _, _ => by simp
  | .unary _ _, h | .selector _ _, h => by
    simp only [preorder, List.all_cons, Bool.and_eq_true] at h
    simp [isDamaged_eq h.2]
  | .binary _ _ _, h => by
    simp only [preorder, List.all_cons, List.all_append, Bool.and_eq_true] at h
    simp [isDamaged_eq h.2.1, isDamaged_eq h.2.2]
  | .call _ _, h => by
    simp only [preorder, List.all_cons, List.all_append, Bool.and_eq_true] at h
    simp [isDamaged_eq h.2.1, isDamagedAny_eq h.2.2]
  | .cond _ _ _ _, h => by
    simp only [preorder, List.all_cons, List.all_append, Bool.and_eq_true] at h
    obtain ⟨-, ⟨⟨hinit, htest⟩, hbody⟩, halt⟩ := h
    simp [isDamagedOpt_eq hinit, isDamaged_eq htest, isDamagedBlock_eq hbody, isDamagedOpt_eq halt]
  | .loop _ _ _ _, h => by
    simp only [preorder, List.all_cons, List.all_append, Bool.and_eq_true] at h
    obtain ⟨-, ⟨⟨hinit, htest⟩, hpost⟩, hbody⟩ := h
    simp [isDamagedOpt_eq hinit, isDamagedOpt_eq htest, isDamagedOpt_eq hpost,
      isDamagedBlock_eq hbody]
  | .range _ _ _, h => by
    simp only [preorder, List.all_cons, List.all_append, Bool.and_eq_true] at h
    obtain ⟨-, ⟨hleft, htarget⟩, hbody⟩ := h
    simp [isDamagedOpt_eq hleft, isDamaged_eq htarget, isDamagedBlock_eq hbody]
  | .switch _ _ _ _, h => by
    simp only [preorder, List.all_cons, List.all_append, Bool.and_eq_true] at h
    obtain ⟨hcomments, ⟨⟨hinit, htag⟩, hclauses⟩, -⟩ := h
    simp [isDamagedOpt_eq hinit, isDamagedOpt_eq htag, isDamagedClauses_eq hclauses,
      any_isError_of_isComment hcomments]
  | .select _ _, h => by
    simp only [preorder, List.all_cons, List.all_append, Bool.and_eq_true] at h
    obtain ⟨hcomments, hclauses, -⟩ := h
    simp [isDamagedClauses_eq hclauses, any_isError_of_isComment hcomments]
  | .block _, h => by
    simp only [preorder, List.all_cons, Bool.and_eq_true] at h
    simp [isDamagedBlock_eq h.2]
  | .ret _, h | .other _ _, h => by
    simp only [preorder, List.all_cons, Bool.and_eq_true] at h
    simp [isDamagedAny_eq h.2]

/-- `isDamaged_eq` for an optional part. -/
theorem isDamagedOpt_eq : ∀ {n : Option Node}, (preorderOpt n).all hasPlainComments = true →
    isDamagedOpt n = (preorderOpt n).any isError
  | none, _ => rfl
  | some _, h => isDamaged_eq h

/-- `isDamaged_eq` over a list of nodes. -/
theorem isDamagedAny_eq : ∀ {ns : List Node}, (preorderAll ns).all hasPlainComments = true →
    isDamagedAny ns = (preorderAll ns).any isError
  | [], _ => rfl
  | _ :: _, h => by
    simp only [preorderAll, List.all_append, Bool.and_eq_true] at h
    simp [isDamaged_eq h.1, isDamagedAny_eq h.2]

/-- `isDamaged_eq` over a block. -/
theorem isDamagedBlock_eq : ∀ {b : Block}, (preorderBlock b).all hasPlainComments = true →
    isDamagedBlock b = (preorderBlock b).any isError
  | .mk _ _, h => isDamagedAny_eq h

/-- `isDamaged_eq` over clauses. -/
theorem isDamagedClauses_eq : ∀ {cs : List Clause},
    (preorderClauses cs).all hasPlainComments = true →
      isDamagedClauses cs = (preorderClauses cs).any isError
  | [], _ => rfl
  | .mk _ _ _ _ :: _, h => by
    simp only [preorderClauses, List.all_append, Bool.and_eq_true] at h
    obtain ⟨⟨hexprs, hbody⟩, hclauses⟩ := h
    simp [isDamagedAny_eq hexprs, isDamagedAny_eq hbody, isDamagedClauses_eq hclauses]
end

end Node

/-! ## What a walk finds -/

namespace Tally
open Node

/-- What follows `else` is walked like any other part. -/
theorem alternative_eq_optional (nesting depth : Nat) (alt : Option Node) (t : Tally) :
    alternative nesting depth alt t = optional nesting depth alt t := by
  cases alt with
  | none => rfl
  | some n =>
    cases n with
    | block b =>
      cases b
      simp [alternative, optional, node, block, reach]
    | _ => rfl

/-- Names of a type are no errors. -/
theorem hasErrors_operands (names : List String) (t : Tally) :
    (names.foldl (fun t name => t.operand name) t).hasErrors = t.hasErrors := by
  induction names generalizing t with
  | nil => rfl
  | cons name names ih => exact ih _

-- Of what the walk does to a tally, only `fail` matters for errors.
attribute [local simp] reach enter operator operand Tally.decide branch comment shortCircuit fail
  node optional nodes block clauses isDamaged isDamagedOpt isDamagedAny isDamagedBlock
  isDamagedClauses Bool.or_assoc alternative_eq_optional

mutual
/-- A walk over a node finds out whether its code is damaged. -/
theorem hasErrors_node (nesting depth : Nat) : ∀ (n : Node) (t : Tally),
    (node nesting depth n t).hasErrors = (t.hasErrors || n.isDamaged)
  | .ident _, t | .literal _, t | .comment _, t => by simp
  | .type _, t => by
    rw [node, hasErrors_operands]
    simp
  | .unary _ e, t | .selector e _, t => by simp [hasErrors_node nesting depth e]
  | .binary op l r, t => by
    simp [hasErrors_node nesting depth l, hasErrors_node nesting depth r, apply_ite]
  | .call f args, t => by
    simp [hasErrors_node nesting depth f, hasErrors_nodes nesting depth args]
  | .cond init test body alt, t => by
    simp [hasErrors_optional _ _ init, hasErrors_node _ _ test, hasErrors_block _ _ body,
      hasErrors_optional _ _ alt]
  | .loop init test post body, t => by
    simp [hasErrors_optional _ _ init, hasErrors_optional _ _ test, hasErrors_optional _ _ post,
      hasErrors_block _ _ body]
  | .range left target body, t => by
    simp [hasErrors_optional _ _ left, hasErrors_node _ _ target, hasErrors_block _ _ body]
  | .switch init tag cs _, t => by
    simp [hasErrors_optional _ _ init, hasErrors_optional _ _ tag, hasErrors_clauses _ _ cs]
  | .select cs _, t => by simp [hasErrors_clauses _ _ cs]
  | .block b, t => by simp [hasErrors_block nesting depth b]
  | .ret values, t => by simp [hasErrors_nodes nesting depth values]
  | .other kind children, t => by
    cases hkind : isErrorKind kind <;> simp [hasErrors_nodes nesting depth children, hkind]

/-- `hasErrors_node` for an optional part. -/
theorem hasErrors_optional (nesting depth : Nat) : ∀ (n : Option Node) (t : Tally),
    (optional nesting depth n t).hasErrors = (t.hasErrors || isDamagedOpt n)
  | none, t => by simp
  | some n, t => hasErrors_node nesting depth n t

/-- `hasErrors_node` over a list of nodes. -/
theorem hasErrors_nodes (nesting depth : Nat) : ∀ (ns : List Node) (t : Tally),
    (nodes nesting depth ns t).hasErrors = (t.hasErrors || isDamagedAny ns)
  | [], t => by simp
  | n :: ns, t => by simp [hasErrors_node nesting depth n, hasErrors_nodes nesting depth ns]

/-- `hasErrors_node` over a block. -/
theorem hasErrors_block (nesting depth : Nat) : ∀ (b : Block) (t : Tally),
    (block nesting depth b t).hasErrors = (t.hasErrors || isDamagedBlock b)
  | .mk _ stmts, _ => hasErrors_nodes nesting (depth + 1) stmts _

/-- `hasErrors_node` over clauses. -/
theorem hasErrors_clauses (nesting depth : Nat) : ∀ (cs : List Clause) (t : Tally),
    (clauses nesting depth cs t).hasErrors = (t.hasErrors || isDamagedClauses cs)
  | [], t => by simp
  | .mk _ _ exprs body :: cs, t => by
    simp [hasErrors_nodes _ _ exprs, hasErrors_nodes _ _ body, hasErrors_clauses _ _ cs]
end

end Tally

/-- Measuring a body finds out whether its code is damaged. -/
theorem hasErrors_measure_eq (body : Block) :
    (measure body).hasErrors = Node.isDamagedBlock body := by
  rw [measure, Tally.ofBody, Tally.hasErrors_block]
  exact Bool.false_or _

/-- A body could not be read as a whole if there is an error node in it. -/
theorem hasErrors_measure {body : Block}
    (h : (Node.preorderBlock body).all Node.hasPlainComments = true) :
    (measure body).hasErrors = (Node.preorderBlock body).any Node.isError := by
  rw [hasErrors_measure_eq, Node.isDamagedBlock_eq h]

/-- The canonical text of a function with a body without error nodes. -/
def FuncDecl.canonicalText? (decl : FuncDecl) : Option String :=
  decl.body.bind fun body =>
    if (Node.preorderBlock body).any Node.isError then none else some (canonicalize body)

/-- What a record keeps of a function in a file. -/
structure FuncDecl.RecordedAs (file : String) (decl : FuncDecl) (f : FunctionRecord) : Prop where
  file_eq : f.file = file
  name_eq : f.name = decl.name
  line_eq : f.line = decl.span.startLine
  fingerprint_eq : f.fingerprint = decl.canonicalText?

namespace FileFacts

/-- The fingerprint of a function is its canonical text. -/
theorem measureBody_snd {decl : FuncDecl} (h : ∀ body, decl.body = some body →
    (Node.preorderBlock body).all Node.hasPlainComments = true) :
    (measureBody decl.body).2 = decl.canonicalText? := by
  unfold FuncDecl.canonicalText?
  cases hbody : decl.body with
  | none => rfl
  | some body =>
    simp only [measureBody, hasErrors_measure (h body hbody), Option.bind_some]
    split <;> rfl

/-- No function counts as repeated before others have been seen. -/
theorem measureBody_isDuplicate (body : Option Block) :
    (measureBody body).1.isDuplicate = false := by
  cases body with
  | none => rfl
  | some body =>
    unfold measureBody
    dsimp only
    split <;> rfl

/-- The functions of a file are recorded one after the other. -/
theorem forall₂_allFunctions (file package : String) (scope : Scope) {decls : List FuncDecl}
    (h : ∀ decl ∈ decls, ∀ body, decl.body = some body →
      (Node.preorderBlock body).all Node.hasPlainComments = true) (c : TypeCache) :
    List.Forall₂ (fun decl f => decl.RecordedAs file f ∧ f.metrics.isDuplicate = false) decls
      (allFunctions file package scope decls c).1 := by
  induction decls generalizing c with
  | nil => exact .nil
  | cons decl decls ih =>
    obtain ⟨hdecl, hdecls⟩ := List.forall_mem_cons.1 h
    exact .cons ⟨⟨rfl, rfl, rfl, measureBody_snd hdecl⟩, measureBody_isDuplicate _⟩ (ih hdecls _)

/-- The records of a source are those of its functions, one after the other. -/
theorem forall₂_functions (s : Go.Source) (path reported : String) (c : TypeCache) :
    List.Forall₂ (fun decl f => decl.RecordedAs reported f ∧ f.metrics.isDuplicate = false)
      (s.toSourceFile path).functions (extract (s.toSourceFile path) reported c).1.functions :=
  forall₂_allFunctions _ _ _ (fun _ hdecl _ hbody => Go.Source.plain_body hdecl hbody) _

end FileFacts

end GoSurvey
