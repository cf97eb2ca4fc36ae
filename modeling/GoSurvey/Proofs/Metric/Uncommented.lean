import GoSurvey.Proofs.Code.Bare
import GoSurvey.Proofs.Metric.Walk

/-!
# Comments in a body

Deleting comments from the lists of a body changes only one thing that is measured of it, the number
of comments per line, and does not change its fingerprint (`measure_of_trims`). The two bodies have
the same bare code (`Node.Trims.bare_eq`), and all else is told by the bare code.
-/

namespace GoSurvey

namespace Node

variable {v : View}

attribute [local simp] bare bareOpt bareAll bareBlock bareClauses

/-! ## What the bare code tells -/

attribute [local simp] lexemes lexemesOpt lexemesAll lexemesBlock lexemesClauses in
mutual
/-- A node has the lexemes of its bare form. -/
theorem lexemes_bare : ∀ n : Node, (n.bare v).lexemes = n.lexemes
  | .ident _ | .literal _ | .comment _ => rfl
  | .type t => by simp [v.names_type t]
  | .unary _ e | .selector e _ => by simp [lexemes_bare e]
  | .binary _ l r => by simp [lexemes_bare l, lexemes_bare r]
  | .call f args => by simp [lexemes_bare f, lexemesAll_bare args]
  | .cond init test body alt => by
    simp [lexemesOpt_bare init, lexemes_bare test, lexemesBlock_bare body, lexemesOpt_bare alt]
  | .loop init test post body => by
    simp [lexemesOpt_bare init, lexemesOpt_bare test, lexemesOpt_bare post, lexemesBlock_bare body]
  | .range left target body => by
    simp [lexemesOpt_bare left, lexemes_bare target, lexemesBlock_bare body]
  | .switch init tag clauses _ => by
    simp [lexemesOpt_bare init, lexemesOpt_bare tag, lexemesClauses_bare clauses]
  | .select clauses _ => by simp [lexemesClauses_bare clauses]
  | .block b => by simp [lexemesBlock_bare b]
  | .ret values => by simp [lexemesAll_bare values]
  | .other _ children => by simp [lexemesAll_bare children]

/-- `lexemes_bare` for an optional part. -/
theorem lexemesOpt_bare : ∀ n : Option Node, lexemesOpt (bareOpt v n) = lexemesOpt n
  | none => rfl
  | some n => lexemes_bare n

/-- `lexemes_bare` over a list of nodes. -/
theorem lexemesAll_bare : ∀ ns : List Node, lexemesAll (bareAll v ns) = lexemesAll ns
  | [] => rfl
  | n :: ns => by
    cases hn : n.isComment with
    | false => simp [hn, lexemes_bare n, lexemesAll_bare ns]
    | true =>
      cases n <;> cases hn
      simp [isComment, lexemesAll_bare ns]

/-- `lexemes_bare` over the statements of a block. -/
theorem lexemesBlock_bare : ∀ b : Block, lexemesBlock (bareBlock v b) = lexemesBlock b
  | .mk _ stmts => lexemesAll_bare stmts

/-- `lexemes_bare` over clauses. -/
theorem lexemesClauses_bare : ∀ cs : List Clause,
    lexemesClauses (bareClauses v cs) = lexemesClauses cs
  | [] => rfl
  | .mk _ _ exprs body :: cs => by
    simp [lexemesAll_bare exprs, lexemesAll_bare body, lexemesClauses_bare cs]
end

attribute [local simp] bodyHeight bodyHeightOpt bodyHeightAll bodyHeightBlock bodyHeightClauses in
mutual
/-- Bodies lie within each other in the bare form as they do in a node. -/
theorem bodyHeight_bare : ∀ n : Node, (n.bare v).bodyHeight = n.bodyHeight
  | .ident _ | .literal _ | .comment _ | .type _ => rfl
  | .unary _ e | .selector e _ => by simp [bodyHeight_bare e]
  | .binary _ l r => by simp [bodyHeight_bare l, bodyHeight_bare r]
  | .call f args => by simp [bodyHeight_bare f, bodyHeightAll_bare args]
  | .cond init test body alt => by
    simp [bodyHeightOpt_bare init, bodyHeight_bare test, bodyHeightBlock_bare body,
      bodyHeightOpt_bare alt]
  | .loop init test post body => by
    simp [bodyHeightOpt_bare init, bodyHeightOpt_bare test, bodyHeightOpt_bare post,
      bodyHeightBlock_bare body]
  | .range left target body => by
    simp [bodyHeightOpt_bare left, bodyHeight_bare target, bodyHeightBlock_bare body]
  | .switch init tag clauses _ => by
    simp [bodyHeightOpt_bare init, bodyHeightOpt_bare tag, bodyHeightClauses_bare clauses]
  | .select clauses _ => by simp [bodyHeightClauses_bare clauses]
  | .block b => by simp [bodyHeightBlock_bare b]
  | .ret values => by simp [bodyHeightAll_bare values]
  | .other _ children => by simp [bodyHeightAll_bare children]

/-- `bodyHeight_bare` for an optional part. -/
theorem bodyHeightOpt_bare : ∀ n : Option Node, bodyHeightOpt (bareOpt v n) = bodyHeightOpt n
  | none => rfl
  | some n => bodyHeight_bare n

/-- `bodyHeight_bare` over a list of nodes. -/
theorem bodyHeightAll_bare : ∀ ns : List Node, bodyHeightAll (bareAll v ns) = bodyHeightAll ns
  | [] => rfl
  | n :: ns => by
    cases hn : n.isComment with
    | false => simp [hn, bodyHeight_bare n, bodyHeightAll_bare ns]
    | true =>
      cases n <;> cases hn
      simp [isComment, bodyHeightAll_bare ns]

/-- `bodyHeight_bare` over the statements of a block. -/
theorem bodyHeightBlock_bare : ∀ b : Block, bodyHeightBlock (bareBlock v b) = bodyHeightBlock b
  | .mk _ stmts => bodyHeightAll_bare stmts

/-- `bodyHeight_bare` over clauses. -/
theorem bodyHeightClauses_bare : ∀ cs : List Clause,
    bodyHeightClauses (bareClauses v cs) = bodyHeightClauses cs
  | [] => rfl
  | .mk _ _ exprs body :: cs => by
    simp [bodyHeightAll_bare exprs, bodyHeightAll_bare body, bodyHeightClauses_bare cs]
end

attribute [local simp] blockHeight blockHeightOpt blockHeightAll blockHeightBlock
  blockHeightClauses in
mutual
/-- Blocks lie within each other in the bare form as they do in a node. -/
theorem blockHeight_bare : ∀ n : Node, (n.bare v).blockHeight = n.blockHeight
  | .ident _ | .literal _ | .comment _ | .type _ => rfl
  | .unary _ e | .selector e _ => by simp [blockHeight_bare e]
  | .binary _ l r => by simp [blockHeight_bare l, blockHeight_bare r]
  | .call f args => by simp [blockHeight_bare f, blockHeightAll_bare args]
  | .cond init test body alt => by
    simp [blockHeightOpt_bare init, blockHeight_bare test, blockHeightBlock_bare body,
      blockHeightOpt_bare alt]
  | .loop init test post body => by
    simp [blockHeightOpt_bare init, blockHeightOpt_bare test, blockHeightOpt_bare post,
      blockHeightBlock_bare body]
  | .range left target body => by
    simp [blockHeightOpt_bare left, blockHeight_bare target, blockHeightBlock_bare body]
  | .switch init tag clauses _ => by
    simp [blockHeightOpt_bare init, blockHeightOpt_bare tag, blockHeightClauses_bare clauses]
  | .select clauses _ => by simp [blockHeightClauses_bare clauses]
  | .block b => by simp [blockHeightBlock_bare b]
  | .ret values => by simp [blockHeightAll_bare values]
  | .other _ children => by simp [blockHeightAll_bare children]

/-- `blockHeight_bare` for an optional part. -/
theorem blockHeightOpt_bare : ∀ n : Option Node, blockHeightOpt (bareOpt v n) = blockHeightOpt n
  | none => rfl
  | some n => blockHeight_bare n

/-- `blockHeight_bare` over a list of nodes. -/
theorem blockHeightAll_bare : ∀ ns : List Node, blockHeightAll (bareAll v ns) = blockHeightAll ns
  | [] => rfl
  | n :: ns => by
    cases hn : n.isComment with
    | false => simp [hn, blockHeight_bare n, blockHeightAll_bare ns]
    | true =>
      cases n <;> cases hn
      simp [isComment, blockHeightAll_bare ns]

/-- `blockHeight_bare` over the statements of a block. -/
theorem blockHeightBlock_bare : ∀ b : Block, blockHeightBlock (bareBlock v b) = blockHeightBlock b
  | .mk _ stmts => by simp [blockHeightAll_bare stmts]

/-- `blockHeight_bare` over clauses. -/
theorem blockHeightClauses_bare : ∀ cs : List Clause,
    blockHeightClauses (bareClauses v cs) = blockHeightClauses cs
  | [] => rfl
  | .mk _ _ exprs body :: cs => by
    simp [blockHeightAll_bare exprs, blockHeightAll_bare body, blockHeightClauses_bare cs]
end

/-- A counter that comments do not add to counts the bare code. -/
theorem total_bare {c : Counter} (hc : c.comment = 0) (body : Block) :
    c.total (codeBlock (bareBlock v body)) = c.total (codeBlock body) := by
  have hweight (n : Node) : c.weight (n.bare v) = c.weight n := by
    cases n <;> simp [Counter.weight, hc]
  have hsolid (ns : List Node) : c.total ns = ((solid ns).map c.weight).sum := by
    induction ns with
    | nil => rfl
    | cons n ns ih =>
      rw [Counter.total_cons, ih]
      cases n <;> simp [isComment, Counter.weight, hc]
  rw [hsolid, hsolid, map_codeBlock_bare hweight]

/-! ## Deleting comments -/

mutual
/-- What is left of a node if some comments are deleted from the lists in it. -/
inductive Trims : Node → Node → Prop
  | refl (n : Node) : Trims n n
  | unary {op e e'} : Trims e e' → Trims (.unary op e) (.unary op e')
  | binary {op l l' r r'} : Trims l l' → Trims r r' → Trims (.binary op l r) (.binary op l' r')
  | call {f f' args args'} : Trims f f' → TrimsAll args args' →
      Trims (.call f args) (.call f' args')
  | selector {e e' field} : Trims e e' → Trims (.selector e field) (.selector e' field)
  | cond {init init' test test' body body' alt alt'} : TrimsOpt init init' → Trims test test' →
      TrimsBlock body body' → TrimsOpt alt alt' →
      Trims (.cond init test body alt) (.cond init' test' body' alt')
  | loop {init init' test test' post post' body body'} : TrimsOpt init init' →
      TrimsOpt test test' → TrimsOpt post post' → TrimsBlock body body' →
      Trims (.loop init test post body) (.loop init' test' post' body')
  | range {left left' target target' body body'} : TrimsOpt left left' → Trims target target' →
      TrimsBlock body body' → Trims (.range left target body) (.range left' target' body')
  | switch {init init' tag tag' cs cs' comments comments'} : TrimsOpt init init' →
      TrimsOpt tag tag' → TrimsClauses cs cs' → TrimsAll comments comments' →
      Trims (.switch init tag cs comments) (.switch init' tag' cs' comments')
  | select {cs cs' comments comments'} : TrimsClauses cs cs' → TrimsAll comments comments' →
      Trims (.select cs comments) (.select cs' comments')
  | block {b b'} : TrimsBlock b b' → Trims (.block b) (.block b')
  | ret {values values'} : TrimsAll values values' → Trims (.ret values) (.ret values')
  | other {kind children children'} : TrimsAll children children' →
      Trims (.other kind children) (.other kind children')

/-- `Trims` for an optional part. -/
inductive TrimsOpt : Option Node → Option Node → Prop
  | none : TrimsOpt none none
  | some {n n'} : Trims n n' → TrimsOpt (some n) (some n')

/-- `Trims` for a list of nodes, where any comment may be deleted. -/
inductive TrimsAll : List Node → List Node → Prop
  | nil : TrimsAll [] []
  | cons {n n' ns ns'} : Trims n n' → TrimsAll ns ns' → TrimsAll (n :: ns) (n' :: ns')
  | drop {text ns ns'} : TrimsAll ns ns' → TrimsAll (.comment text :: ns) ns'

/-- `Trims` for a block, which keeps its span. -/
inductive TrimsBlock : Block → Block → Prop
  | mk {span stmts stmts'} : TrimsAll stmts stmts' → TrimsBlock (.mk span stmts) (.mk span stmts')

/-- `Trims` for clauses. -/
inductive TrimsClauses : List Clause → List Clause → Prop
  | nil : TrimsClauses [] []
  | cons {kind isDefault exprs exprs' body body' cs cs'} : TrimsAll exprs exprs' →
      TrimsAll body body' → TrimsClauses cs cs' →
      TrimsClauses (.mk kind isDefault exprs body :: cs) (.mk kind isDefault exprs' body' :: cs')
end

/-- Deleting comments from lists leaves a comment as it is and makes none. -/
theorem Trims.isComment_eq {n n' : Node} (h : Trims n n') : n'.isComment = n.isComment := by
  cases h <;> rfl

mutual
/-- Deleting comments keeps the bare form. -/
theorem Trims.bare_eq : ∀ {n n' : Node}, Trims n n' → n'.bare v = n.bare v
  | _, _, .refl _ => rfl
  | _, _, .unary he | _, _, .selector he => by simp [he.bare_eq]
  | _, _, .binary hl hr => by simp [hl.bare_eq, hr.bare_eq]
  | _, _, .call hf hargs => by simp [hf.bare_eq, hargs.bare_eq]
  | _, _, .cond hinit htest hbody halt => by
    simp [hinit.bare_eq, htest.bare_eq, hbody.bare_eq, halt.bare_eq]
  | _, _, .loop hinit htest hpost hbody => by
    simp [hinit.bare_eq, htest.bare_eq, hpost.bare_eq, hbody.bare_eq]
  | _, _, .range hleft htarget hbody => by simp [hleft.bare_eq, htarget.bare_eq, hbody.bare_eq]
  | _, _, .switch hinit htag hcs hcomments => by
    simp [hinit.bare_eq, htag.bare_eq, hcs.bare_eq, hcomments.bare_eq]
  | _, _, .select hcs hcomments => by simp [hcs.bare_eq, hcomments.bare_eq]
  | _, _, .block hb => by simp [hb.bare_eq]
  | _, _, .ret hvalues => by simp [hvalues.bare_eq]
  | _, _, .other hchildren => by simp [hchildren.bare_eq]

/-- `Trims.bare_eq` for an optional part. -/
theorem TrimsOpt.bare_eq : ∀ {n n' : Option Node}, TrimsOpt n n' → bareOpt v n' = bareOpt v n
  | _, _, .none => rfl
  | _, _, .some h => by simp [h.bare_eq]

/-- `Trims.bare_eq` for a list of nodes. -/
theorem TrimsAll.bare_eq : ∀ {ns ns' : List Node}, TrimsAll ns ns' → bareAll v ns' = bareAll v ns
  | _, _, .nil => rfl
  | _, _, .cons h hs => by simp [h.isComment_eq, h.bare_eq, hs.bare_eq]
  | _, _, .drop hs => by rw [bareAll_comment, hs.bare_eq]

/-- `Trims.bare_eq` for a block. -/
theorem TrimsBlock.bare_eq : ∀ {b b' : Block}, TrimsBlock b b' → bareBlock v b' = bareBlock v b
  | _, _, .mk hs => by simp [hs.bare_eq]

/-- `Trims.bare_eq` for clauses. -/
theorem TrimsClauses.bare_eq : ∀ {cs cs' : List Clause}, TrimsClauses cs cs' →
    bareClauses v cs' = bareClauses v cs
  | _, _, .nil => rfl
  | _, _, .cons hexprs hbody hcs => by simp [hexprs.bare_eq, hbody.bare_eq, hcs.bare_eq]
end

end Node

/-! ## What is measured without comments -/

open Node in
/-- Deleting comments from the lists in a body keeps its fingerprint, and everything that is
measured of it but the density of its comments. -/
theorem measure_of_trims {body body' : Block} (h : TrimsBlock body body') :
    canonicalize body' = canonicalize body ∧
    measure body' =
      { measure body with
        metrics :=
          { (measure body).metrics with
            readability :=
              { (measure body).metrics.readability with
                commentDensity := (measure body').metrics.readability.commentDensity } } } := by
  have hbare : bareBlock .whole body' = bareBlock .whole body := h.bare_eq
  have hspan : body'.span = body.span := by
    obtain ⟨⟩ := h
    rfl
  have htotal {c : Counter} (hc : c.comment = 0) :
      c.read (Tally.ofBody body') = c.read (Tally.ofBody body) := by
    rw [c.read_ofBody, c.read_ofBody, ← total_bare hc, hbare, total_bare hc]
  have hscore : (Tally.ofBody body').score = (Tally.ofBody body).score :=
    htotal (c := .score) rfl
  have hlogical : (Tally.ofBody body').logicalOps = (Tally.ofBody body).logicalOps :=
    htotal (c := .logicalOps) rfl
  have hdecisions : (Tally.ofBody body').decisions = (Tally.ofBody body).decisions :=
    htotal (c := .decisions) rfl
  have hbranches : (Tally.ofBody body').branches = (Tally.ofBody body).branches :=
    htotal (c := .branches) rfl
  have hnested : (Tally.ofBody body').nestedDepth = (Tally.ofBody body).nestedDepth := by
    rw [Tally.nestedDepth_ofBody, Tally.nestedDepth_ofBody, ← bodyHeightBlock_bare, hbare,
      bodyHeightBlock_bare]
  have hblocks : (Tally.ofBody body').blockDepth = (Tally.ofBody body).blockDepth := by
    rw [Tally.blockDepth_ofBody, Tally.blockDepth_ofBody, ← blockHeightBlock_bare, hbare,
      blockHeightBlock_bare]
  have herrors : (Tally.ofBody body').hasErrors = (Tally.ofBody body).hasErrors := by
    rw [Tally.hasErrors_ofBody, Tally.hasErrors_ofBody, ← isDamagedBlock_eq_any_code,
      ← isDamagedBlock_eq_any_code, ← isDamagedBlock_bare, hbare, isDamagedBlock_bare]
  have hcounts : Halstead.count (Tally.ofBody body').occurrences =
      Halstead.count (Tally.ofBody body).occurrences := by
    rw [Tally.count_ofBody, Tally.count_ofBody, ← lexemesBlock_bare, hbare, lexemesBlock_bare]
  refine ⟨?_, ?_⟩
  · rw [← canonicalize_bare, hbare, canonicalize_bare]
  · simp only [measure, hspan, hscore, hlogical, hdecisions, hbranches, hnested, hblocks, herrors,
      hcounts]

open Node in
/-- Comments among statements, values, arguments, expressions of a clause and between clauses. -/
theorem measure_of_trims_switch :
    let body (statement expression value argument between : List Node) : Block :=
      .mk ⟨0, 80, 1, 1, 7, 2⟩
        (statement ++
          [.switch none (some (.ident "x"))
            [.mk .case false (.literal "1" :: expression)
              [.ret (value ++ [.call (.ident "f") argument])]]
            between])
    let noted := body [.comment "// a"] [.comment "/* b */"] [.comment "/* c */"]
      [.comment "/* d */"] [.comment "// e", .comment "// f"]
    let trimmed := body [] [] [.comment "/* c */"] [] [.comment "// e"]
    TrimsBlock noted trimmed ∧ canonicalize trimmed = canonicalize noted ∧
      measure trimmed =
        { measure noted with
          metrics :=
            { (measure noted).metrics with
              readability :=
                { (measure noted).metrics.readability with
                  commentDensity := (measure trimmed).metrics.readability.commentDensity } } } := by
  intro body noted trimmed
  have hreturn : Trims (.ret [.comment "/* c */", .call (.ident "f") [.comment "/* d */"]])
      (.ret [.comment "/* c */", .call (.ident "f") []]) :=
    .ret (.cons (.refl _) (.cons (.call (.refl _) (.drop .nil)) .nil))
  have htrims : TrimsBlock noted trimmed :=
    .mk (.drop (.cons
      (.switch .none (.some (.refl _))
        (.cons (.cons (.refl _) (.drop .nil)) (.cons hreturn .nil) .nil)
        (.cons (.refl _) (.drop .nil))) .nil))
  exact ⟨htrims, measure_of_trims htrims⟩

end GoSurvey
