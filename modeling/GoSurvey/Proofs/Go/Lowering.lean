import GoSurvey.Go.Source

/-!
# Lowered code

Lowering turns parts of a tree into nodes of code: nodes with a form of their own, nodes that keep
the kind they were read from, and placeholders for what is missing. A test that all of these pass is
passed by everything in the code (`Tree.Lowers`).

Of what stands between the clauses of a `switch` or `select`, lowering keeps the comments and
nothing else (`Tree.lowers_hasPlainComments`). So a walk over a body that counts these comments
without looking into them misses nothing.
-/

namespace GoSurvey

namespace Node

/-- Whether a node is a comment. -/
def isComment : Node → Bool
  | .comment _ => true
  | _ => false

/-- Whether a node has no form of its own. -/
def isOther : Node → Bool
  | .other _ _ => true
  | _ => false

/-- Whether only comments stand between the clauses of a node. -/
def hasPlainComments : Node → Bool
  | .switch _ _ _ comments | .select _ comments => comments.all isComment
  | _ => true

/-- Everything below two lists of nodes. -/
theorem preorderAll_append (ns ns' : List Node) :
    preorderAll (ns ++ ns') = preorderAll ns ++ preorderAll ns' := by
  induction ns with
  | nil => rfl
  | cons n ns ih => rw [List.cons_append, preorderAll, preorderAll, ih, List.append_assoc]

end Node

namespace Go.Tree
open Node

/-- Lowering takes the comments between clauses and nothing else. -/
theorem all_isComment_commentNodes : ∀ ts : List Tree,
    (commentNodes ts).all Node.isComment = true
  | [] => rfl
  | t :: ts => by
    rw [commentNodes]
    split <;> exact all_isComment_commentNodes ts

/-- A test that all nodes pass that lowering makes of good trees. -/
structure Lowers (good : Tree → Prop) (p : Node → Bool) : Prop where
  /-- The parts of a good tree are good. -/
  child {t c : Tree} : good t → c ∈ t.children → good c
  /-- A node with a form of its own passes. -/
  form {n : Node} : n.isOther = false → n.hasPlainComments = true → p n = true
  /-- A node without one has the kind of a good tree. -/
  kind {t : Tree} {k : Kind} : good t → t.kind? = some k → ∀ ns, p (.other k.name ns) = true
  /-- Marks are lowered only if they have a label. -/
  mark {l : Label} {text : String} {span : Span} :
    good (.mark (some l) text span) → p (.other text []) = true
  /-- A condition is missing only if something missing passes. -/
  condition {l : Option Label} {span : Span} {children : List Tree} :
    good (.node l .ifStatement span children) → nodeAt .condition children = none →
      p missingNode = true
  /-- So is what a loop ranges over. -/
  target {l : Option Label} {span : Span} {children : List Tree} :
    good (.node l .rangeClause span children) → nodeAt .right children = none →
      p missingNode = true

namespace Lowers

section
variable {p : Node → Bool}

/-- Parts of code one after the other, all of which pass. -/
theorem all_append {ns ns' : List Node} (h : ns.all p = true) (h' : ns'.all p = true) :
    (ns ++ ns').all p = true := by
  rw [List.all_append, h, h', Bool.and_self]

/-- A node that passes, and everything below it. -/
theorem all_cons {n : Node} {ns : List Node} (hn : p n = true) (hns : ns.all p = true) :
    (n :: ns).all p = true := by
  rw [List.all_cons, hn, hns, Bool.and_self]

theorem all_getD_missingNode {n : Option Node} (hmissing : n = none → p missingNode = true)
    (h : (preorderOpt n).all p = true) : (n.getD missingNode).preorder.all p = true := by
  cases n with
  | none => exact all_cons (hmissing rfl) rfl
  | some n => exact h

end

variable {good : Tree → Prop} {p : Node → Bool}

/-- There is nothing below comments. -/
theorem all_commentNodes (L : Lowers good p) : ∀ ts : List Tree,
    (preorderAll (commentNodes ts)).all p = true
  | [] => rfl
  | t :: ts => by
    rw [commentNodes]
    split
    · exact all_cons (L.form rfl rfl) (L.all_commentNodes ts)
    · exact L.all_commentNodes ts

-- The lemmas follow the definitions of lowering, which are recursive over trees and lists of trees.
mutual
/-- Everything passes that a good tree is lowered to, if it is named or has a label. -/
theorem all_toNode (L : Lowers good p) : ∀ t : Tree, good t → (t.isNamed || t.label.isSome) = true →
    t.toNode.preorder.all p = true
  | .leaf _ kind _ _, ht, _ => by
    have hother := L.kind ht rfl []
    rw [toNode]
    split
    · exact all_cons (L.form rfl rfl) rfl
    split
    · exact all_cons (L.form rfl rfl) rfl
    split
    · exact all_cons (L.form rfl rfl) rfl
    · exact all_cons hother rfl
  | .mark (some _) _ _, ht, _ => all_cons (L.mark ht) rfl
  | .comment _ _, _, _ => all_cons (L.form rfl rfl) rfl
  | .node l kind span children, ht, _ => by
    have hchildren : ∀ c ∈ children, good c := fun _ hc => L.child ht hc
    have hother := all_cons (L.kind ht rfl (nodes children)) (L.all_nodes children hchildren)
    have hat := fun label => L.all_nodeAt label children hchildren
    have hblock := fun label => L.all_blockAt label span children hchildren
    have hcomments := all_isComment_commentNodes children
    unfold toNode
    split
    · exact all_cons (L.form rfl rfl) rfl
    split
    case h_1 | h_2 =>
      have hfirst := L.all_firstNode children hchildren
      cases h : firstNode children with
      | none => exact hother
      | some inner => rwa [h] at hfirst
    case h_3 =>
      have hoperand := hat .operand
      cases h : nodeAt .operand children with
      | none => exact hother
      | some operand =>
        rw [h] at hoperand
        exact all_cons (L.form rfl rfl) hoperand
    case h_4 =>
      have hleft := hat .left
      have hright := hat .right
      split
      next left right h h' =>
        rw [h] at hleft
        rw [h'] at hright
        exact all_cons (L.form rfl rfl) (all_append hleft hright)
      next => exact hother
    case h_5 =>
      have hfunction := hat .function
      cases h : nodeAt .function children with
      | none => exact hother
      | some function =>
        rw [h] at hfunction
        exact all_cons (L.form rfl rfl)
          (all_append hfunction (L.all_nodesAt .arguments children hchildren))
    case h_6 =>
      have hoperand := hat .operand
      split
      next operand field h _ =>
        rw [h] at hoperand
        exact all_cons (L.form rfl rfl) hoperand
      next => exact hother
    case h_7 =>
      exact all_cons (L.form rfl rfl) (all_append (all_append (all_append (hat _)
        (all_getD_missingNode (L.condition ht) (hat _))) (hblock _)) (hat _))
    case h_8 => exact L.all_loop (hblock _) children hchildren
    case h_9 | h_10 =>
      exact all_cons (L.form rfl hcomments) (all_append (all_append (all_append (hat _) (hat _))
        (L.all_clauses .case children hchildren)) (L.all_commentNodes children))
    case h_11 =>
      exact all_cons (L.form rfl hcomments)
        (all_append (L.all_clauses .comm children hchildren) (L.all_commentNodes children))
    case h_12 => exact all_cons (L.form rfl rfl) (L.all_nodes children hchildren)
    case h_13 => exact all_cons (L.form rfl rfl) (L.all_spread children hchildren)
    case h_14 => exact hother

/-- `all_toNode` over the named parts. -/
theorem all_nodes (L : Lowers good p) : ∀ ts : List Tree, (∀ t ∈ ts, good t) →
    (preorderAll (nodes ts)).all p = true
  | [], _ => rfl
  | t :: ts, hts => by
    rw [List.forall_mem_cons] at hts
    rw [nodes]
    split
    next hnamed =>
      exact all_append (L.all_toNode t hts.1 (by rw [hnamed]; rfl)) (L.all_nodes ts hts.2)
    next => exact L.all_nodes ts hts.2

/-- `all_toNode` over the named parts and the items of lists. -/
theorem all_spread (L : Lowers good p) : ∀ ts : List Tree, (∀ t ∈ ts, good t) →
    (preorderAll (spread ts)).all p = true
  | [], _ => rfl
  | .node l kind span parts :: ts, hts => by
    rw [List.forall_mem_cons] at hts
    rw [spread]
    split
    · rw [preorderAll_append]
      exact all_append (L.all_nodes parts fun _ hc => L.child hts.1 hc) (L.all_spread ts hts.2)
    · exact all_append (L.all_toNode (.node l kind span parts) hts.1 rfl) (L.all_spread ts hts.2)
  | .leaf l kind text span :: ts, hts => by
    rw [List.forall_mem_cons] at hts
    exact all_append (L.all_toNode (.leaf l kind text span) hts.1 rfl) (L.all_spread ts hts.2)
  | .comment text span :: ts, hts => by
    rw [List.forall_mem_cons] at hts
    exact all_append (L.all_toNode (.comment text span) hts.1 rfl) (L.all_spread ts hts.2)
  | .mark _ _ _ :: ts, hts | .absent _ :: ts, hts =>
    L.all_spread ts (List.forall_mem_cons.1 hts).2

/-- `all_toNode` for the first named part. -/
theorem all_firstNode (L : Lowers good p) : ∀ ts : List Tree, (∀ t ∈ ts, good t) →
    (preorderOpt (firstNode ts)).all p = true
  | [], _ => rfl
  | t :: ts, hts => by
    rw [List.forall_mem_cons] at hts
    rw [firstNode]
    split
    next h => exact L.all_toNode t hts.1 (by rw [(Bool.and_eq_true_iff.1 h).1]; rfl)
    next => exact L.all_firstNode ts hts.2

/-- `all_toNode` for the first part with a label. -/
theorem all_nodeAt (L : Lowers good p) (label : Label) : ∀ ts : List Tree, (∀ t ∈ ts, good t) →
    (preorderOpt (nodeAt label ts)).all p = true
  | [], _ => rfl
  | t :: ts, hts => by
    rw [List.forall_mem_cons] at hts
    rw [nodeAt]
    split
    next h => exact L.all_toNode t hts.1 (by rw [eq_of_beq h, Bool.or_eq_true_iff]; exact .inr rfl)
    next => exact L.all_nodeAt label ts hts.2

/-- `all_toNode` over the named parts of a part. -/
theorem all_nodesAt (L : Lowers good p) (label : Label) : ∀ ts : List Tree, (∀ t ∈ ts, good t) →
    (preorderAll (nodesAt label ts)).all p = true
  | [], _ => rfl
  | .node l kind span parts :: ts, hts => by
    rw [List.forall_mem_cons] at hts
    rw [nodesAt]
    split
    · exact L.all_nodes parts fun _ hc => L.child hts.1 hc
    · exact L.all_nodesAt label ts hts.2
  | .leaf .. :: ts, hts | .mark .. :: ts, hts | .absent .. :: ts, hts | .comment .. :: ts, hts =>
    L.all_nodesAt label ts (List.forall_mem_cons.1 hts).2

/-- `all_toNode` over a block. -/
theorem all_blockAt (L : Lowers good p) (label : Label) (span : Span) :
    ∀ ts : List Tree, (∀ t ∈ ts, good t) →
      (preorderBlock ((blockAt label ts).getD (.mk span []))).all p = true
  | [], _ => rfl
  | .node l kind span parts :: ts, hts => by
    rw [List.forall_mem_cons] at hts
    rw [blockAt]
    split
    · exact L.all_nodes parts fun _ hc => L.child hts.1 hc
    · exact L.all_blockAt label _ ts hts.2
  | .leaf .. :: ts, hts | .mark .. :: ts, hts | .absent .. :: ts, hts | .comment .. :: ts, hts =>
    L.all_blockAt label span ts (List.forall_mem_cons.1 hts).2

/-- `all_toNode` for a loop. -/
theorem all_loop (L : Lowers good p) {body : Block} (hbody : (preorderBlock body).all p = true) :
    ∀ ts : List Tree, (∀ t ∈ ts, good t) → (loop body ts).preorder.all p = true
  | [], _ => all_cons (L.form rfl rfl) hbody
  | .node l kind span parts :: ts, hts => by
    rw [List.forall_mem_cons] at hts
    have hat := fun label => L.all_nodeAt label parts fun _ hc => L.child hts.1 hc
    unfold loop
    split
    case h_1 => exact L.all_loop hbody ts hts.2
    case h_2 =>
      exact all_cons (L.form rfl rfl)
        (all_append (all_append (hat _) (all_getD_missingNode (L.target hts.1) (hat _))) hbody)
    case h_3 =>
      exact all_cons (L.form rfl rfl)
        (all_append (all_append (all_append (hat _) (hat _)) (hat _)) hbody)
    case h_4 =>
      exact all_cons (L.form rfl rfl)
        (all_append (all_append (L.all_toNode (.node l _ span parts) hts.1 rfl) rfl) hbody)
  | .leaf l kind text span :: ts, hts => by
    rw [List.forall_mem_cons] at hts
    unfold loop
    split
    · exact all_cons (L.form rfl rfl)
        (all_append (all_append (L.all_toNode (.leaf l kind text span) hts.1 rfl) rfl) hbody)
    · exact L.all_loop hbody ts hts.2
  | .mark _ _ _ :: ts, hts | .absent _ :: ts, hts | .comment _ _ :: ts, hts =>
    L.all_loop hbody ts (List.forall_mem_cons.1 hts).2

/-- `all_toNode` over clauses. -/
theorem all_clauses (L : Lowers good p) (kind : ClauseKind) : ∀ ts : List Tree, (∀ t ∈ ts, good t) →
    (preorderClauses (clauses kind ts)).all p = true
  | [], _ => rfl
  | .node l k span parts :: ts, hts => by
    rw [List.forall_mem_cons] at hts
    have hparts : ∀ c ∈ parts, good c := fun _ hc => L.child hts.1 hc
    have hclauses := L.all_clauses kind ts hts.2
    have hclause := all_append (all_append (L.all_heads parts hparts) (L.all_bodies parts hparts))
      hclauses
    unfold clauses
    split
    case h_5 => exact hclauses
    all_goals exact hclause
  | .leaf .. :: ts, hts | .mark .. :: ts, hts | .absent .. :: ts, hts | .comment .. :: ts, hts =>
    L.all_clauses kind ts (List.forall_mem_cons.1 hts).2

/-- `all_toNode` over what a clause is for. -/
theorem all_heads (L : Lowers good p) : ∀ ts : List Tree, (∀ t ∈ ts, good t) →
    (preorderAll (heads ts)).all p = true
  | [], _ => rfl
  | .node l kind span parts :: ts, hts => by
    rw [List.forall_mem_cons] at hts
    rw [heads]
    split
    · exact L.all_heads ts hts.2
    split
    · rw [preorderAll_append]
      exact all_append (L.all_nodes parts fun _ hc => L.child hts.1 hc) (L.all_heads ts hts.2)
    · exact all_append (L.all_toNode (.node l kind span parts) hts.1 rfl) (L.all_heads ts hts.2)
  | .leaf l kind text span :: ts, hts => by
    rw [List.forall_mem_cons] at hts
    unfold heads
    split
    · exact L.all_heads ts hts.2
    · exact all_append (L.all_toNode (.leaf l kind text span) hts.1 rfl) (L.all_heads ts hts.2)
  | .mark (some l) text span :: ts, hts => by
    rw [List.forall_mem_cons] at hts
    exact all_append (L.all_toNode (.mark (some l) text span) hts.1 rfl) (L.all_heads ts hts.2)
  | .mark none _ _ :: ts, hts | .absent _ :: ts, hts | .comment _ _ :: ts, hts =>
    L.all_heads ts (List.forall_mem_cons.1 hts).2

/-- `all_toNode` over what a clause does. -/
theorem all_bodies (L : Lowers good p) : ∀ ts : List Tree, (∀ t ∈ ts, good t) →
    (preorderAll (bodies ts)).all p = true
  | [], _ => rfl
  | t :: ts, hts => by
    rw [List.forall_mem_cons] at hts
    rw [bodies]
    split
    next h =>
      exact all_append (L.all_toNode t hts.1 (by rw [(Bool.and_eq_true_iff.1 h).1]; rfl))
        (L.all_bodies ts hts.2)
    next => exact L.all_bodies ts hts.2
end

end Lowers

/-- Lowering leaves only comments between clauses. -/
theorem lowers_hasPlainComments : Lowers (fun _ => True) hasPlainComments where
  child _ _ := trivial
  form _ h := h
  kind _ _ _ := rfl
  mark _ := rfl
  condition _ _ := rfl
  target _ _ := rfl

/-! ## Functions of a source -/

/-- A function among the declarations of an item is lowered from that item. -/
theorem toFuncDecl?_eq_some_of_mem {t : Tree} {decl : FuncDecl} (h : .func decl ∈ t.toDecls) :
    t.toFuncDecl? = some decl := by
  unfold toDecls at h
  split at h
  · simpa using h
  · simpa using h
  all_goals simp at h

/-- A function has the body of the item that it is lowered from. -/
theorem body_of_toFuncDecl? {t : Tree} {decl : FuncDecl} (h : t.toFuncDecl? = some decl) :
    decl.body = blockAt .body t.children := by
  obtain ⟨name, -, h⟩ := Option.bind_eq_some_iff.1 h
  cases h
  rfl

end Go.Tree

namespace Go.Source
variable {s : Source} {path : String} {decl : FuncDecl}

/-- Everything in the body of a function passes that lowering makes of the parts of a good tree. -/
theorem all_body {good : Tree → Prop} {p : Node → Bool} (L : Tree.Lowers good p)
    (hgood : good s.tree) (hdecl : decl ∈ (s.toSourceFile path).functions) {body : Block}
    (hbody : decl.body = some body) : (Node.preorderBlock body).all p = true := by
  obtain ⟨d, hd, heq⟩ := List.mem_filterMap.1 hdecl
  obtain rfl : d = .func decl := by
    cases d <;> cases heq
    rfl
  rcases List.mem_append.1 hd with hd | hd
  · simp at hd
  obtain ⟨t, ht, hd⟩ := List.mem_flatMap.1 hd
  have hblock := L.all_blockAt .body body.span t.children fun _ hc => L.child (L.child hgood ht) hc
  rw [← Tree.body_of_toFuncDecl? (Tree.toFuncDecl?_eq_some_of_mem hd), hbody] at hblock
  exact hblock

/-- Only comments stand between the clauses in the body of a function. -/
theorem plain_body (hdecl : decl ∈ (s.toSourceFile path).functions) {body : Block}
    (hbody : decl.body = some body) :
    (Node.preorderBlock body).all Node.hasPlainComments = true :=
  all_body Tree.lowers_hasPlainComments trivial hdecl hbody

end Go.Source

end GoSurvey
