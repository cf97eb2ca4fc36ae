import GoSurvey.Proofs.Code.Visited

/-!
# Code without comments

Comments stand in lists: among the statements of a block, among arguments and values, between
clauses, and among the parts of any other construct. `Node.bare` leaves these comments out. It looks
at spans and types through a view, so that bodies can be compared that stand at different places.

What is said of a body by its words, and what each of its nodes says without looking at comments, is
said by the bare body as well (`Node.words_bare`, `Node.map_code_bare`).
-/

namespace GoSurvey

/-- How spans and types are looked at where bodies are compared. The names in a type are seen. -/
structure View where
  span : Span → Span
  type : TypeExpr → TypeExpr
  names_type : ∀ t, (type t).names = t.names

/-- Everything as it is. -/
def View.whole : View where
  span := id
  type := id
  names_type _ := rfl

namespace Node

variable (v : View)

mutual
/-- A node in some view, without the comments in its lists. -/
def bare : Node → Node
  | .ident name => .ident name
  | .literal text => .literal text
  | .unary op e => .unary op e.bare
  | .binary op l r => .binary op l.bare r.bare
  | .call f args => .call f.bare (bareAll args)
  | .selector e field => .selector e.bare field
  | .type t => .type (v.type t)
  | .cond init test body alt => .cond (bareOpt init) test.bare (bareBlock body) (bareOpt alt)
  | .loop init test post body =>
    .loop (bareOpt init) (bareOpt test) (bareOpt post) (bareBlock body)
  | .range left target body => .range (bareOpt left) target.bare (bareBlock body)
  | .switch init tag clauses comments =>
    .switch (bareOpt init) (bareOpt tag) (bareClauses clauses) (bareAll comments)
  | .select clauses comments => .select (bareClauses clauses) (bareAll comments)
  | .block b => .block (bareBlock b)
  | .ret values => .ret (bareAll values)
  | .comment text => .comment text
  | .other kind children => .other kind (bareAll children)

/-- `bare` of an optional part. -/
def bareOpt : Option Node → Option Node
  | none => none
  | some n => some n.bare

/-- `bare` over a list of nodes, without the comments among them. -/
def bareAll : List Node → List Node
  | [] => []
  | n :: ns => if n.isComment then bareAll ns else n.bare :: bareAll ns

/-- `bare` over the statements of a block. -/
def bareBlock : Block → Block
  | .mk span stmts => .mk (v.span span) (bareAll stmts)

/-- `bare` over clauses. -/
def bareClauses : List Clause → List Clause
  | [] => []
  | .mk kind isDefault exprs body :: cs =>
    .mk kind isDefault (bareAll exprs) (bareAll body) :: bareClauses cs
end

attribute [local simp] bare bareOpt bareAll bareBlock bareClauses

/-- A comment is left out of a list. -/
theorem bareAll_comment (text : String) (ns : List Node) :
    bareAll v (.comment text :: ns) = bareAll v ns := by
  simp [isComment]

/-- The bare nodes of two lists. -/
@[simp]
theorem bareAll_append (ns ns' : List Node) :
    bareAll v (ns ++ ns') = bareAll v ns ++ bareAll v ns' := by
  induction ns with
  | nil => rfl
  | cons n ns ih => by_cases hn : n.isComment <;> simp [hn, ih]

/-- There are as many bare clauses as clauses. -/
@[simp]
theorem length_bareClauses (cs : List Clause) : (bareClauses v cs).length = cs.length := by
  induction cs with
  | nil => rfl
  | cons c cs ih =>
    cases c
    simp [ih]

/-- A node and its bare form are comments alike. -/
@[simp]
theorem isComment_bare (n : Node) : (n.bare v).isComment = n.isComment := by
  cases n <;> rfl

/-! ## Words -/

variable {v}

attribute [local simp] words wordsOpt wordsAll wordsBlock wordsClauses in
mutual
/-- A node has the words of its bare form. -/
theorem words_bare : ∀ n : Node, (n.bare v).words = n.words
  | .ident _ | .literal _ | .comment _ => rfl
  | .type t => v.names_type t
  | .unary _ e | .selector e _ => by simp [words_bare e]
  | .binary _ l r => by simp [words_bare l, words_bare r]
  | .call f args => by simp [words_bare f, wordsAll_bare args]
  | .cond init test body alt => by
    simp [wordsOpt_bare init, words_bare test, wordsBlock_bare body, wordsOpt_bare alt]
  | .loop init test post body => by
    simp [wordsOpt_bare init, wordsOpt_bare test, wordsOpt_bare post, wordsBlock_bare body]
  | .range left target body => by
    simp [wordsOpt_bare left, words_bare target, wordsBlock_bare body]
  | .switch init tag clauses comments => by
    simp [wordsOpt_bare init, wordsOpt_bare tag, wordsClauses_bare clauses, wordsAll_bare comments]
  | .select clauses comments => by simp [wordsClauses_bare clauses, wordsAll_bare comments]
  | .block b => by simp [wordsBlock_bare b]
  | .ret values => by simp [wordsAll_bare values]
  | .other _ children => by simp [wordsAll_bare children]

/-- `words_bare` for an optional part. -/
theorem wordsOpt_bare : ∀ n : Option Node, wordsOpt (bareOpt v n) = wordsOpt n
  | none => rfl
  | some n => words_bare n

/-- `words_bare` over a list of nodes. -/
theorem wordsAll_bare : ∀ ns : List Node, wordsAll (bareAll v ns) = wordsAll ns
  | [] => rfl
  | n :: ns => by
    cases hn : n.isComment with
    | false => simp [hn, words_bare n, wordsAll_bare ns]
    | true =>
      cases n <;> cases hn
      simp [isComment, wordsAll_bare ns]

/-- `words_bare` over the statements of a block. -/
theorem wordsBlock_bare : ∀ b : Block, wordsBlock (bareBlock v b) = wordsBlock b
  | .mk _ stmts => wordsAll_bare stmts

/-- `words_bare` over clauses. -/
theorem wordsClauses_bare : ∀ cs : List Clause, wordsClauses (bareClauses v cs) = wordsClauses cs
  | [] => rfl
  | .mk _ _ exprs body :: cs => by
    simp [wordsAll_bare exprs, wordsAll_bare body, wordsClauses_bare cs]
end

/-- A body has the canonical text of its bare form. -/
theorem canonicalize_bare (body : Block) : canonicalize (bareBlock v body) = canonicalize body := by
  rw [canonicalize, canonicalize, wordsBlock_bare]

/-! ## The nodes of the code -/

/-- The nodes that are no comments. -/
def solid (ns : List Node) : List Node :=
  ns.filter fun n => !n.isComment

@[simp]
theorem solid_cons (n : Node) (ns : List Node) :
    solid (n :: ns) = if n.isComment then solid ns else n :: solid ns := by
  cases hn : n.isComment <;> simp [solid, hn]

@[simp]
theorem solid_append (ns ns' : List Node) : solid (ns ++ ns') = solid ns ++ solid ns' :=
  List.filter_append ns ns'

section
variable {α : Type} {f : Node → α}

attribute [local simp] code codeOpt codeAll codeBlock codeClauses isComment

mutual
/-- What a node says that does not go by comments is said by the bare code. -/
theorem map_code_bare (hf : ∀ n : Node, f (n.bare v) = f n) : ∀ n : Node,
    (solid (n.bare v).code).map f = (solid n.code).map f
  | .ident _ | .literal _ | .comment _ => by simp
  | .type t => by simpa using hf (.type t)
  | .unary op e => by simpa [map_code_bare hf e] using hf (.unary op e)
  | .binary op l r => by
    simpa [map_code_bare hf l, map_code_bare hf r] using hf (.binary op l r)
  | .call g args => by
    simpa [map_code_bare hf g, map_codeAll_bare hf args] using hf (.call g args)
  | .selector e field => by simpa [map_code_bare hf e] using hf (.selector e field)
  | .cond init test body alt => by
    simpa [map_codeOpt_bare hf init, map_code_bare hf test, map_codeBlock_bare hf body,
      map_codeOpt_bare hf alt] using hf (.cond init test body alt)
  | .loop init test post body => by
    simpa [map_codeOpt_bare hf init, map_codeOpt_bare hf test, map_codeOpt_bare hf post,
      map_codeBlock_bare hf body] using hf (.loop init test post body)
  | .range left target body => by
    simpa [map_codeOpt_bare hf left, map_code_bare hf target, map_codeBlock_bare hf body]
      using hf (.range left target body)
  | .switch init tag clauses comments => by
    simpa [map_codeOpt_bare hf init, map_codeOpt_bare hf tag, map_codeClauses_bare hf clauses]
      using hf (.switch init tag clauses comments)
  | .select clauses comments => by
    simpa [map_codeClauses_bare hf clauses] using hf (.select clauses comments)
  | .block b => by simpa [map_codeBlock_bare hf b] using hf (.block b)
  | .ret values => by simpa [map_codeAll_bare hf values] using hf (.ret values)
  | .other kind children => by
    simpa [map_codeAll_bare hf children] using hf (.other kind children)

/-- `map_code_bare` for an optional part. -/
theorem map_codeOpt_bare (hf : ∀ n : Node, f (n.bare v) = f n) : ∀ n : Option Node,
    (solid (codeOpt (bareOpt v n))).map f = (solid (codeOpt n)).map f
  | none => rfl
  | some n => map_code_bare hf n

/-- `map_code_bare` over a list of nodes. -/
theorem map_codeAll_bare (hf : ∀ n : Node, f (n.bare v) = f n) : ∀ ns : List Node,
    (solid (codeAll (bareAll v ns))).map f = (solid (codeAll ns)).map f
  | [] => rfl
  | n :: ns => by
    cases hn : n.isComment with
    | false => simp [-isComment, hn, map_code_bare hf n, map_codeAll_bare hf ns]
    | true =>
      cases n <;> cases hn
      simp [map_codeAll_bare hf ns]

/-- `map_code_bare` over the statements of a block. -/
theorem map_codeBlock_bare (hf : ∀ n : Node, f (n.bare v) = f n) : ∀ b : Block,
    (solid (codeBlock (bareBlock v b))).map f = (solid (codeBlock b)).map f
  | .mk _ stmts => map_codeAll_bare hf stmts

/-- `map_code_bare` over clauses. -/
theorem map_codeClauses_bare (hf : ∀ n : Node, f (n.bare v) = f n) : ∀ cs : List Clause,
    (solid (codeClauses (bareClauses v cs))).map f = (solid (codeClauses cs)).map f
  | [] => rfl
  | .mk _ _ exprs body :: cs => by
    simp [map_codeAll_bare hf exprs, map_codeAll_bare hf body, map_codeClauses_bare hf cs]
end

end

/-- A comment is no error. -/
theorem any_isError_solid (ns : List Node) : (solid ns).any isError = ns.any isError := by
  induction ns with
  | nil => rfl
  | cons n ns ih => cases n <;> simp [isComment, isError, ih]

/-- A body is damaged if its bare form is. -/
theorem isDamagedBlock_bare (body : Block) :
    isDamagedBlock (bareBlock v body) = isDamagedBlock body := by
  have herror (n : Node) : (n.bare v).isError = n.isError := by cases n <;> rfl
  have hmap := map_codeBlock_bare herror body
  have hany := congrArg (fun bs => bs.any id) hmap
  simpa [List.any_map, any_isError_solid, ← isDamagedBlock_eq_any_code] using hany

end Node

end GoSurvey
