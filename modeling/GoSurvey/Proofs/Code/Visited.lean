import GoSurvey.Proofs.Fingerprint.Readable

/-!
# The code of a body

The comments between the clauses of a `switch` or `select` are kept in a list of their own, which
can hold any node. What is measured of a body is its code, which leaves these lists out
(`Node.code`). If they hold nothing but comments, a question that no comment answers has the same
answers over the code as over all nodes (`Node.filterMap_code`).
-/

namespace GoSurvey.Node

mutual
/-- A node followed by the code below it, in source order. The comments between clauses are no
code. -/
def code : Node → List Node
  | .ident name => [.ident name]
  | .literal text => [.literal text]
  | .unary op e => .unary op e :: e.code
  | .binary op l r => .binary op l r :: (l.code ++ r.code)
  | .call f args => .call f args :: (f.code ++ codeAll args)
  | .selector e field => .selector e field :: e.code
  | .type t => [.type t]
  | .cond init test body alt =>
    .cond init test body alt :: (codeOpt init ++ test.code ++ codeBlock body ++ codeOpt alt)
  | .loop init test post body =>
    .loop init test post body :: (codeOpt init ++ codeOpt test ++ codeOpt post ++ codeBlock body)
  | .range left target body =>
    .range left target body :: (codeOpt left ++ target.code ++ codeBlock body)
  | .switch init tag clauses comments =>
    .switch init tag clauses comments :: (codeOpt init ++ codeOpt tag ++ codeClauses clauses)
  | .select clauses comments => .select clauses comments :: codeClauses clauses
  | .block b => .block b :: codeBlock b
  | .ret values => .ret values :: codeAll values
  | .comment text => [.comment text]
  | .other kind children => .other kind children :: codeAll children

/-- `code` of an optional part. -/
def codeOpt : Option Node → List Node
  | none => []
  | some n => n.code

/-- `code` over a list of nodes. -/
def codeAll : List Node → List Node
  | [] => []
  | n :: ns => n.code ++ codeAll ns

/-- `code` over the statements of a block. -/
def codeBlock : Block → List Node
  | .mk _ stmts => codeAll stmts

/-- `code` over clauses: the expressions of each, then its body. -/
def codeClauses : List Clause → List Node
  | [] => []
  | .mk _ _ exprs body :: cs => codeAll exprs ++ codeAll body ++ codeClauses cs
end

attribute [local simp] code codeOpt codeAll codeBlock codeClauses

/-! ## Damage -/

attribute [local simp] isDamaged isDamagedOpt isDamagedAny isDamagedBlock isDamagedClauses isError
  Bool.or_assoc in
mutual
/-- Code is damaged if there is an error node in it. -/
theorem isDamaged_eq_any_code : ∀ n : Node, n.isDamaged = n.code.any isError
  | .ident _ | .literal _ | .type _ | .comment _ => by simp
  | .unary _ e | .selector e _ => by simp [isDamaged_eq_any_code e]
  | .binary _ l r => by simp [isDamaged_eq_any_code l, isDamaged_eq_any_code r]
  | .call f args => by simp [isDamaged_eq_any_code f, isDamagedAny_eq_any_code args]
  | .cond init test body alt => by
    simp [isDamagedOpt_eq_any_code init, isDamaged_eq_any_code test,
      isDamagedBlock_eq_any_code body, isDamagedOpt_eq_any_code alt]
  | .loop init test post body => by
    simp [isDamagedOpt_eq_any_code init, isDamagedOpt_eq_any_code test,
      isDamagedOpt_eq_any_code post, isDamagedBlock_eq_any_code body]
  | .range left target body => by
    simp [isDamagedOpt_eq_any_code left, isDamaged_eq_any_code target,
      isDamagedBlock_eq_any_code body]
  | .switch init tag clauses _ => by
    simp [isDamagedOpt_eq_any_code init, isDamagedOpt_eq_any_code tag,
      isDamagedClauses_eq_any_code clauses]
  | .select clauses _ => by simp [isDamagedClauses_eq_any_code clauses]
  | .block b => by simp [isDamagedBlock_eq_any_code b]
  | .ret values => by simp [isDamagedAny_eq_any_code values]
  | .other _ children => by simp [isDamagedAny_eq_any_code children]

/-- `isDamaged_eq_any_code` for an optional part. -/
theorem isDamagedOpt_eq_any_code : ∀ n : Option Node, isDamagedOpt n = (codeOpt n).any isError
  | none => rfl
  | some n => isDamaged_eq_any_code n

/-- `isDamaged_eq_any_code` over a list of nodes. -/
theorem isDamagedAny_eq_any_code : ∀ ns : List Node, isDamagedAny ns = (codeAll ns).any isError
  | [] => rfl
  | n :: ns => by simp [isDamaged_eq_any_code n, isDamagedAny_eq_any_code ns]

/-- `isDamaged_eq_any_code` over a block. -/
theorem isDamagedBlock_eq_any_code : ∀ b : Block, isDamagedBlock b = (codeBlock b).any isError
  | .mk _ stmts => isDamagedAny_eq_any_code stmts

/-- `isDamaged_eq_any_code` over clauses. -/
theorem isDamagedClauses_eq_any_code : ∀ cs : List Clause,
    isDamagedClauses cs = (codeClauses cs).any isError
  | [] => rfl
  | .mk _ _ exprs body :: cs => by
    simp [isDamagedAny_eq_any_code exprs, isDamagedAny_eq_any_code body,
      isDamagedClauses_eq_any_code cs]
end

/-! ## All nodes -/

section
variable {α : Type} {f : Node → Option α}

/-- No comment answers a question that a single comment does not answer. -/
theorem filterMap_comments (hf : ∀ text, f (.comment text) = none) :
    ∀ {comments : List Node}, comments.all isComment = true →
      (preorderAll comments).filterMap f = []
  | [], _ => rfl
  | .comment text :: comments, h => by
    simpa [preorderAll, preorder, hf text] using @filterMap_comments hf comments h

attribute [local simp] preorder preorderOpt preorderAll preorderBlock preorderClauses
  List.filterMap_cons

-- As for damage, the hypothesis on comments is needed at the lists between clauses only.
mutual
/-- If only comments stand between clauses, what is asked of all nodes can be asked of the code. -/
theorem filterMap_code (hf : ∀ text, f (.comment text) = none) :
    ∀ {n : Node}, n.preorder.all hasPlainComments = true →
      n.code.filterMap f = n.preorder.filterMap f
  | .ident _, _ | .literal _, _ | .type _, _ | .comment _, _ => by simp
  | .unary _ _, h | .selector _ _, h => by
    simp only [preorder, List.all_cons, Bool.and_eq_true] at h
    simp [filterMap_code hf h.2]
  | .binary _ _ _, h => by
    simp only [preorder, List.all_cons, List.all_append, Bool.and_eq_true] at h
    simp [filterMap_code hf h.2.1, filterMap_code hf h.2.2]
  | .call _ _, h => by
    simp only [preorder, List.all_cons, List.all_append, Bool.and_eq_true] at h
    simp [filterMap_code hf h.2.1, filterMap_codeAll hf h.2.2]
  | .cond _ _ _ _, h => by
    simp only [preorder, List.all_cons, List.all_append, Bool.and_eq_true] at h
    obtain ⟨-, ⟨⟨hinit, htest⟩, hbody⟩, halt⟩ := h
    simp [filterMap_codeOpt hf hinit, filterMap_code hf htest, filterMap_codeBlock hf hbody,
      filterMap_codeOpt hf halt]
  | .loop _ _ _ _, h => by
    simp only [preorder, List.all_cons, List.all_append, Bool.and_eq_true] at h
    obtain ⟨-, ⟨⟨hinit, htest⟩, hpost⟩, hbody⟩ := h
    simp [filterMap_codeOpt hf hinit, filterMap_codeOpt hf htest, filterMap_codeOpt hf hpost,
      filterMap_codeBlock hf hbody]
  | .range _ _ _, h => by
    simp only [preorder, List.all_cons, List.all_append, Bool.and_eq_true] at h
    obtain ⟨-, ⟨hleft, htarget⟩, hbody⟩ := h
    simp [filterMap_codeOpt hf hleft, filterMap_code hf htarget, filterMap_codeBlock hf hbody]
  | .switch _ _ _ _, h => by
    simp only [preorder, List.all_cons, List.all_append, Bool.and_eq_true] at h
    obtain ⟨hcomments, ⟨⟨hinit, htag⟩, hclauses⟩, -⟩ := h
    simp [filterMap_codeOpt hf hinit, filterMap_codeOpt hf htag, filterMap_codeClauses hf hclauses,
      filterMap_comments hf hcomments]
  | .select _ _, h => by
    simp only [preorder, List.all_cons, List.all_append, Bool.and_eq_true] at h
    obtain ⟨hcomments, hclauses, -⟩ := h
    simp [filterMap_codeClauses hf hclauses, filterMap_comments hf hcomments]
  | .block _, h => by
    simp only [preorder, List.all_cons, Bool.and_eq_true] at h
    simp [filterMap_codeBlock hf h.2]
  | .ret _, h | .other _ _, h => by
    simp only [preorder, List.all_cons, Bool.and_eq_true] at h
    simp [filterMap_codeAll hf h.2]

/-- `filterMap_code` for an optional part. -/
theorem filterMap_codeOpt (hf : ∀ text, f (.comment text) = none) :
    ∀ {n : Option Node}, (preorderOpt n).all hasPlainComments = true →
      (codeOpt n).filterMap f = (preorderOpt n).filterMap f
  | none, _ => rfl
  | some _, h => filterMap_code hf h

/-- `filterMap_code` over a list of nodes. -/
theorem filterMap_codeAll (hf : ∀ text, f (.comment text) = none) :
    ∀ {ns : List Node}, (preorderAll ns).all hasPlainComments = true →
      (codeAll ns).filterMap f = (preorderAll ns).filterMap f
  | [], _ => rfl
  | _ :: _, h => by
    simp only [preorderAll, List.all_append, Bool.and_eq_true] at h
    simp [filterMap_code hf h.1, filterMap_codeAll hf h.2]

/-- `filterMap_code` over a block. -/
theorem filterMap_codeBlock (hf : ∀ text, f (.comment text) = none) :
    ∀ {b : Block}, (preorderBlock b).all hasPlainComments = true →
      (codeBlock b).filterMap f = (preorderBlock b).filterMap f
  | .mk _ _, h => filterMap_codeAll hf h

/-- `filterMap_code` over clauses. -/
theorem filterMap_codeClauses (hf : ∀ text, f (.comment text) = none) :
    ∀ {cs : List Clause}, (preorderClauses cs).all hasPlainComments = true →
      (codeClauses cs).filterMap f = (preorderClauses cs).filterMap f
  | [], _ => rfl
  | .mk _ _ _ _ :: _, h => by
    simp only [preorderClauses, List.all_append, Bool.and_eq_true] at h
    obtain ⟨⟨hexprs, hbody⟩, hclauses⟩ := h
    simp [filterMap_codeAll hf hexprs, filterMap_codeAll hf hbody,
      filterMap_codeClauses hf hclauses]
end

end

end GoSurvey.Node
