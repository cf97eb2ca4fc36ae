import Mathlib.Data.List.Basic
import GoSurvey.Proofs.Code.Visited

/-!
# The words of a body and what is counted of it

Two walks read a body: one lists the words of its fingerprint, the other feeds operators and
operands to the Halstead counts. Both are a reading of one sequence of lexemes (`Node.lexemes`). The
words are the lexemes as they are shown, with a dot before a selected field; the occurrences are the
lexemes without the keywords. So no walk visits a part that the other one misses, or visits it
elsewhere (`canonicalize_occurrences`).

This takes a body whose lists between clauses hold only comments, since the words look into these
lists and the counts do not.
-/

namespace GoSurvey

/-- A piece of a body. -/
inductive Lexeme where
  | operator (symbol : String)
  /-- A name or a literal. -/
  | operand (name : String)
  /-- A name that is selected from something. -/
  | field (name : String)
  /-- The word for a kind of statement. -/
  | keyword (word : String)
deriving DecidableEq, Repr

namespace Lexeme

/-- How a lexeme shows in a fingerprint. -/
def word : Lexeme → String
  | .operator text | .operand text | .keyword text => text
  | .field name => "." ++ name

/-- What a lexeme counts as. -/
def occurrence? : Lexeme → Option Halstead.Occurrence
  | .operator symbol => some (.operator symbol)
  | .operand name | .field name => some (.operand name)
  | .keyword _ => none

/-- The word of a keyword. -/
def keyword? : Lexeme → Option String
  | .keyword word => some word
  | _ => none

/-- The name of a selected field. -/
def field? : Lexeme → Option String
  | .field name => some name
  | _ => none

/-- Every lexeme is counted or is a keyword. -/
theorem length_eq (ls : List Lexeme) :
    ls.length = (ls.filterMap occurrence?).length + (ls.filterMap keyword?).length := by
  induction ls with
  | nil => rfl
  | cons l ls ih =>
    cases l <;> simp only [List.filterMap_cons, occurrence?, keyword?, List.length_cons, ih] <;>
      omega

end Lexeme

namespace Node

/-- The keyword of a statement that has one in its fingerprint. -/
def keyword? : Node → Option String
  | .ret _ => some "return"
  | .cond _ _ _ _ => some "if"
  | .loop _ _ _ _ | .range _ _ _ => some "for"
  | .switch _ _ _ _ => some "switch"
  | _ => none

/-- The field of a selector. -/
def field? : Node → Option String
  | .selector _ field => some field
  | _ => none

mutual
/-- The lexemes of a node in source order. An operator comes before its operands, a selected field
after what it is selected from. -/
def lexemes : Node → List Lexeme
  | .comment _ => []
  | .ident name | .literal name => [.operand name]
  | .unary op e => .operator op :: e.lexemes
  | .binary op l r => .operator op :: (l.lexemes ++ r.lexemes)
  | .call f args => f.lexemes ++ lexemesAll args
  | .selector e field => e.lexemes ++ [.field field]
  | .type t => t.names.map .operand
  | .cond init test body alt =>
    .keyword "if" :: (lexemesOpt init ++ test.lexemes ++ lexemesBlock body ++ lexemesOpt alt)
  | .loop init test post body =>
    .keyword "for" :: (lexemesOpt init ++ lexemesOpt test ++ lexemesOpt post ++ lexemesBlock body)
  | .range left target body =>
    .keyword "for" :: (lexemesOpt left ++ target.lexemes ++ lexemesBlock body)
  | .switch init tag clauses _ =>
    .keyword "switch" :: (lexemesOpt init ++ lexemesOpt tag ++ lexemesClauses clauses)
  | .select clauses _ => lexemesClauses clauses
  | .block b => lexemesBlock b
  | .ret values => .keyword "return" :: lexemesAll values
  | .other _ children => lexemesAll children

/-- `lexemes` of an optional part. -/
def lexemesOpt : Option Node → List Lexeme
  | none => []
  | some n => n.lexemes

/-- `lexemes` over a list of nodes. -/
def lexemesAll : List Node → List Lexeme
  | [] => []
  | n :: ns => n.lexemes ++ lexemesAll ns

/-- `lexemes` over the statements of a block. -/
def lexemesBlock : Block → List Lexeme
  | .mk _ stmts => lexemesAll stmts

/-- `lexemes` over clauses: the expressions of each, then its body. -/
def lexemesClauses : List Clause → List Lexeme
  | [] => []
  | .mk _ _ exprs body :: cs => lexemesAll exprs ++ lexemesAll body ++ lexemesClauses cs
end

attribute [local simp] lexemes lexemesOpt lexemesAll lexemesBlock lexemesClauses

/-! ## Words -/

/-- Comments have no words. -/
theorem wordsAll_comments : ∀ {comments : List Node}, comments.all isComment = true →
    wordsAll comments = []
  | [], _ => rfl
  | .comment _ :: comments, h => by simpa [wordsAll, words] using @wordsAll_comments comments h

attribute [local simp] words wordsOpt wordsAll wordsBlock wordsClauses Lexeme.word
  preorder preorderOpt preorderAll preorderBlock preorderClauses in
-- The words look into the lists between clauses, and the lexemes do not; nothing is there.
mutual
/-- The words of a node are its lexemes as they are shown. -/
theorem words_eq : ∀ {n : Node}, n.preorder.all hasPlainComments = true →
    n.words = n.lexemes.map Lexeme.word
  | .ident _, _ | .literal _, _ | .comment _, _ => by simp
  | .type t, _ => by simp [Function.comp_def]
  | .unary _ _, h | .selector _ _, h => by
    simp only [preorder, List.all_cons, Bool.and_eq_true] at h
    simp [words_eq h.2]
  | .binary _ _ _, h => by
    simp only [preorder, List.all_cons, List.all_append, Bool.and_eq_true] at h
    simp [words_eq h.2.1, words_eq h.2.2]
  | .call _ _, h => by
    simp only [preorder, List.all_cons, List.all_append, Bool.and_eq_true] at h
    simp [words_eq h.2.1, wordsAll_eq h.2.2]
  | .cond _ _ _ _, h => by
    simp only [preorder, List.all_cons, List.all_append, Bool.and_eq_true] at h
    obtain ⟨-, ⟨⟨hinit, htest⟩, hbody⟩, halt⟩ := h
    simp [wordsOpt_eq hinit, words_eq htest, wordsBlock_eq hbody, wordsOpt_eq halt]
  | .loop _ _ _ _, h => by
    simp only [preorder, List.all_cons, List.all_append, Bool.and_eq_true] at h
    obtain ⟨-, ⟨⟨hinit, htest⟩, hpost⟩, hbody⟩ := h
    simp [wordsOpt_eq hinit, wordsOpt_eq htest, wordsOpt_eq hpost, wordsBlock_eq hbody]
  | .range _ _ _, h => by
    simp only [preorder, List.all_cons, List.all_append, Bool.and_eq_true] at h
    obtain ⟨-, ⟨hleft, htarget⟩, hbody⟩ := h
    simp [wordsOpt_eq hleft, words_eq htarget, wordsBlock_eq hbody]
  | .switch _ _ _ _, h => by
    simp only [preorder, List.all_cons, List.all_append, Bool.and_eq_true] at h
    obtain ⟨hcomments, ⟨⟨hinit, htag⟩, hclauses⟩, -⟩ := h
    simp [wordsOpt_eq hinit, wordsOpt_eq htag, wordsClauses_eq hclauses,
      wordsAll_comments hcomments]
  | .select _ _, h => by
    simp only [preorder, List.all_cons, List.all_append, Bool.and_eq_true] at h
    obtain ⟨hcomments, hclauses, -⟩ := h
    simp [wordsClauses_eq hclauses, wordsAll_comments hcomments]
  | .block _, h => by
    simp only [preorder, List.all_cons, Bool.and_eq_true] at h
    simp [wordsBlock_eq h.2]
  | .ret _, h | .other _ _, h => by
    simp only [preorder, List.all_cons, Bool.and_eq_true] at h
    simp [wordsAll_eq h.2]

/-- `words_eq` for an optional part. -/
theorem wordsOpt_eq : ∀ {n : Option Node}, (preorderOpt n).all hasPlainComments = true →
    wordsOpt n = (lexemesOpt n).map Lexeme.word
  | none, _ => rfl
  | some _, h => words_eq h

/-- `words_eq` over a list of nodes. -/
theorem wordsAll_eq : ∀ {ns : List Node}, (preorderAll ns).all hasPlainComments = true →
    wordsAll ns = (lexemesAll ns).map Lexeme.word
  | [], _ => rfl
  | _ :: _, h => by
    simp only [preorderAll, List.all_append, Bool.and_eq_true] at h
    simp [words_eq h.1, wordsAll_eq h.2]

/-- `words_eq` over a block. -/
theorem wordsBlock_eq : ∀ {b : Block}, (preorderBlock b).all hasPlainComments = true →
    wordsBlock b = (lexemesBlock b).map Lexeme.word
  | .mk _ _, h => wordsAll_eq h

/-- `words_eq` over clauses. -/
theorem wordsClauses_eq : ∀ {cs : List Clause},
    (preorderClauses cs).all hasPlainComments = true →
      wordsClauses cs = (lexemesClauses cs).map Lexeme.word
  | [], _ => rfl
  | .mk _ _ _ _ :: _, h => by
    simp only [preorderClauses, List.all_append, Bool.and_eq_true] at h
    obtain ⟨⟨hexprs, hbody⟩, hclauses⟩ := h
    simp [wordsAll_eq hexprs, wordsAll_eq hbody, wordsClauses_eq hclauses]
end

/-! ## Keywords and fields -/

attribute [local simp] code codeOpt codeAll codeBlock codeClauses List.filterMap_cons
  keyword? field? Lexeme.keyword? Lexeme.field?

mutual
/-- Each statement with a keyword gives one, and nothing else does. -/
theorem filterMap_keyword? : ∀ n : Node,
    n.lexemes.filterMap Lexeme.keyword? = n.code.filterMap keyword?
  | .ident _ | .literal _ | .type _ | .comment _ => by simp
  | .unary _ e | .selector e _ => by simp [filterMap_keyword? e]
  | .binary _ l r => by simp [filterMap_keyword? l, filterMap_keyword? r]
  | .call f args => by simp [filterMap_keyword? f, filterMap_keyword?_all args]
  | .cond init test body alt => by
    simp [filterMap_keyword?_opt init, filterMap_keyword? test, filterMap_keyword?_block body,
      filterMap_keyword?_opt alt]
  | .loop init test post body => by
    simp [filterMap_keyword?_opt init, filterMap_keyword?_opt test, filterMap_keyword?_opt post,
      filterMap_keyword?_block body]
  | .range left target body => by
    simp [filterMap_keyword?_opt left, filterMap_keyword? target, filterMap_keyword?_block body]
  | .switch init tag clauses _ => by
    simp [filterMap_keyword?_opt init, filterMap_keyword?_opt tag,
      filterMap_keyword?_clauses clauses]
  | .select clauses _ => by simp [filterMap_keyword?_clauses clauses]
  | .block b => by simp [filterMap_keyword?_block b]
  | .ret values => by simp [filterMap_keyword?_all values]
  | .other _ children => by simp [filterMap_keyword?_all children]

/-- `filterMap_keyword?` for an optional part. -/
theorem filterMap_keyword?_opt : ∀ n : Option Node,
    (lexemesOpt n).filterMap Lexeme.keyword? = (codeOpt n).filterMap keyword?
  | none => rfl
  | some n => filterMap_keyword? n

/-- `filterMap_keyword?` over a list of nodes. -/
theorem filterMap_keyword?_all : ∀ ns : List Node,
    (lexemesAll ns).filterMap Lexeme.keyword? = (codeAll ns).filterMap keyword?
  | [] => rfl
  | n :: ns => by simp [filterMap_keyword? n, filterMap_keyword?_all ns]

/-- `filterMap_keyword?` over a block. -/
theorem filterMap_keyword?_block : ∀ b : Block,
    (lexemesBlock b).filterMap Lexeme.keyword? = (codeBlock b).filterMap keyword?
  | .mk _ stmts => filterMap_keyword?_all stmts

/-- `filterMap_keyword?` over clauses. -/
theorem filterMap_keyword?_clauses : ∀ cs : List Clause,
    (lexemesClauses cs).filterMap Lexeme.keyword? = (codeClauses cs).filterMap keyword?
  | [] => rfl
  | .mk _ _ exprs body :: cs => by
    simp [filterMap_keyword?_all exprs, filterMap_keyword?_all body, filterMap_keyword?_clauses cs]
end

-- A selector stands before its operand in the code and its field after it among the lexemes, so
-- the fields are the same up to their order.
mutual
/-- Each selector gives one field, and nothing else does. -/
theorem field?_perm : ∀ n : Node,
    (n.lexemes.filterMap Lexeme.field?).Perm (n.code.filterMap field?)
  | .ident _ | .literal _ | .type _ | .comment _ => by simp
  | .unary _ e => by simpa using field?_perm e
  | .selector e field => by
    simpa using (List.perm_append_singleton field _).trans ((field?_perm e).cons field)
  | .binary _ l r => by simpa using (field?_perm l).append (field?_perm r)
  | .call f args => by simpa using (field?_perm f).append (field?_perm_all args)
  | .cond init test body alt => by
    simpa using (field?_perm_opt init).append ((field?_perm test).append
      ((field?_perm_block body).append (field?_perm_opt alt)))
  | .loop init test post body => by
    simpa using (field?_perm_opt init).append ((field?_perm_opt test).append
      ((field?_perm_opt post).append (field?_perm_block body)))
  | .range left target body => by
    simpa using (field?_perm_opt left).append ((field?_perm target).append (field?_perm_block body))
  | .switch init tag clauses _ => by
    simpa using (field?_perm_opt init).append
      ((field?_perm_opt tag).append (field?_perm_clauses clauses))
  | .select clauses _ => by simpa using field?_perm_clauses clauses
  | .block b => by simpa using field?_perm_block b
  | .ret values => by simpa using field?_perm_all values
  | .other _ children => by simpa using field?_perm_all children

/-- `field?_perm` for an optional part. -/
theorem field?_perm_opt : ∀ n : Option Node,
    ((lexemesOpt n).filterMap Lexeme.field?).Perm ((codeOpt n).filterMap field?)
  | none => .nil
  | some n => field?_perm n

/-- `field?_perm` over a list of nodes. -/
theorem field?_perm_all : ∀ ns : List Node,
    ((lexemesAll ns).filterMap Lexeme.field?).Perm ((codeAll ns).filterMap field?)
  | [] => .nil
  | n :: ns => by simpa using (field?_perm n).append (field?_perm_all ns)

/-- `field?_perm` over a block. -/
theorem field?_perm_block : ∀ b : Block,
    ((lexemesBlock b).filterMap Lexeme.field?).Perm ((codeBlock b).filterMap field?)
  | .mk _ stmts => field?_perm_all stmts

/-- `field?_perm` over clauses. -/
theorem field?_perm_clauses : ∀ cs : List Clause,
    ((lexemesClauses cs).filterMap Lexeme.field?).Perm ((codeClauses cs).filterMap field?)
  | [] => .nil
  | .mk _ _ exprs body :: cs => by
    simpa using (field?_perm_all exprs).append
      ((field?_perm_all body).append (field?_perm_clauses cs))
end

end Node

/-! ## Occurrences -/

namespace Tally
open Node

/-- Naming operands adds them in order. -/
theorem occurrences_operands (names : List String) (t : Tally) :
    (names.foldl (fun t name => t.operand name) t).occurrences =
      (names.map Halstead.Occurrence.operand).reverse ++ t.occurrences := by
  induction names generalizing t with
  | nil => rfl
  | cons name names ih =>
    rw [List.foldl_cons, ih]
    simp [operand]

-- A walk keeps its occurrences in reverse, so each part is added in front of those before it.
attribute [local simp] reach enter operator operand Tally.decide branch comment shortCircuit fail
  node optional nodes block clauses lexemes lexemesOpt lexemesAll lexemesBlock lexemesClauses
  Lexeme.occurrence? List.filterMap_cons alternative_eq_optional

mutual
/-- A walk over a node adds what its lexemes count as. -/
theorem occurrences_node (nesting depth : Nat) : ∀ (n : Node) (t : Tally),
    (node nesting depth n t).occurrences =
      (n.lexemes.filterMap Lexeme.occurrence?).reverse ++ t.occurrences
  | .ident _, t | .literal _, t | .comment _, t => by simp
  | .type _, t => by
    rw [node, occurrences_operands, lexemes, List.filterMap_map]
    simp [Function.comp_def]
  | .unary _ e, t | .selector e _, t => by simp [occurrences_node nesting depth e]
  | .binary op l r, t => by
    simp [occurrences_node nesting depth l, occurrences_node nesting depth r, apply_ite]
  | .call f args, t => by
    simp [occurrences_node nesting depth f, occurrences_nodes nesting depth args]
  | .cond init test body alt, t => by
    simp [occurrences_optional _ _ init, occurrences_node _ _ test, occurrences_block _ _ body,
      occurrences_optional _ _ alt]
  | .loop init test post body, t => by
    simp [occurrences_optional _ _ init, occurrences_optional _ _ test,
      occurrences_optional _ _ post, occurrences_block _ _ body]
  | .range left target body, t => by
    simp [occurrences_optional _ _ left, occurrences_node _ _ target, occurrences_block _ _ body]
  | .switch init tag cs _, t => by
    simp [occurrences_optional _ _ init, occurrences_optional _ _ tag, occurrences_clauses _ _ cs]
  | .select cs _, t => by simp [occurrences_clauses _ _ cs]
  | .block b, t => by simp [occurrences_block nesting depth b]
  | .ret values, t => by simp [occurrences_nodes nesting depth values]
  | .other kind children, t => by simp [occurrences_nodes nesting depth children, apply_ite]

/-- `occurrences_node` for an optional part. -/
theorem occurrences_optional (nesting depth : Nat) : ∀ (n : Option Node) (t : Tally),
    (optional nesting depth n t).occurrences =
      ((lexemesOpt n).filterMap Lexeme.occurrence?).reverse ++ t.occurrences
  | none, t => by simp
  | some n, t => occurrences_node nesting depth n t

/-- `occurrences_node` over a list of nodes. -/
theorem occurrences_nodes (nesting depth : Nat) : ∀ (ns : List Node) (t : Tally),
    (nodes nesting depth ns t).occurrences =
      ((lexemesAll ns).filterMap Lexeme.occurrence?).reverse ++ t.occurrences
  | [], t => by simp
  | n :: ns, t => by simp [occurrences_node nesting depth n, occurrences_nodes nesting depth ns]

/-- `occurrences_node` over a block. -/
theorem occurrences_block (nesting depth : Nat) : ∀ (b : Block) (t : Tally),
    (block nesting depth b t).occurrences =
      ((lexemesBlock b).filterMap Lexeme.occurrence?).reverse ++ t.occurrences
  | .mk _ stmts, _ => occurrences_nodes nesting (depth + 1) stmts _

/-- `occurrences_node` over clauses. -/
theorem occurrences_clauses (nesting depth : Nat) : ∀ (cs : List Clause) (t : Tally),
    (clauses nesting depth cs t).occurrences =
      ((lexemesClauses cs).filterMap Lexeme.occurrence?).reverse ++ t.occurrences
  | [], t => by simp
  | .mk _ _ exprs body :: cs, t => by
    simp [occurrences_nodes _ _ exprs, occurrences_nodes _ _ body, occurrences_clauses _ _ cs]
end

/-- What a walk over a body counts, in source order. -/
theorem occurrences_ofBody (body : Block) :
    (ofBody body).occurrences.reverse =
      (lexemesBlock body).filterMap Lexeme.occurrence? := by
  rw [ofBody, occurrences_block]
  simp [zero]

end Tally

/-- Every occurrence is that of an operator or of an operand. -/
theorem Halstead.total_count (os : List Occurrence) :
    (count os).totalOperators + (count os).totalOperands = os.length := by
  simp only [count]
  induction os with
  | nil => rfl
  | cons o os ih => cases o <;> simp [operators, operands] at ih ⊢ <;> omega

/-! ## Both walks -/

/-- The words of a body and what is counted of it are one sequence of lexemes. Among the lexemes
there is one keyword for each `return`, `if`, `for` and `switch`, in their order, and one field for
each selector. So there are as many words as operators, operands and such statements. -/
theorem canonicalize_occurrences {body : Block}
    (h : (Node.preorderBlock body).all Node.hasPlainComments = true) :
    let lexemes := Node.lexemesBlock body
    let counts := Halstead.count (Tally.ofBody body).occurrences
    canonicalize body = String.intercalate " " (Node.wordsBlock body) ∧
      Node.wordsBlock body = lexemes.map Lexeme.word ∧
      (measure body).metrics.halstead = Halstead.compute counts ∧
      (Tally.ofBody body).occurrences.reverse = lexemes.filterMap Lexeme.occurrence? ∧
      lexemes.filterMap Lexeme.keyword? = (Node.preorderBlock body).filterMap Node.keyword? ∧
      (lexemes.filterMap Lexeme.field?).Perm ((Node.preorderBlock body).filterMap Node.field?) ∧
      (Node.wordsBlock body).length = counts.totalOperators + counts.totalOperands +
        (Node.preorderBlock body).countP fun n => n.keyword?.isSome := by
  intro lexemes counts
  have hwords : Node.wordsBlock body = lexemes.map Lexeme.word := Node.wordsBlock_eq h
  have hoccurrences := Tally.occurrences_ofBody body
  have hkeywords : lexemes.filterMap Lexeme.keyword? =
      (Node.preorderBlock body).filterMap Node.keyword? := by
    rw [Node.filterMap_keyword?_block, Node.filterMap_codeBlock (fun _ => rfl) h]
  have hfields := Node.field?_perm_block body
  rw [Node.filterMap_codeBlock (fun _ => rfl) h] at hfields
  refine ⟨rfl, hwords, rfl, hoccurrences, hkeywords, hfields, ?_⟩
  calc (Node.wordsBlock body).length
      = lexemes.length := by rw [hwords, List.length_map]
    _ = (lexemes.filterMap Lexeme.occurrence?).length +
        (lexemes.filterMap Lexeme.keyword?).length := Lexeme.length_eq lexemes
    _ = (Tally.ofBody body).occurrences.length +
        (Node.preorderBlock body).countP (fun n => n.keyword?.isSome) := by
      rw [← hoccurrences, hkeywords, List.length_reverse, List.length_filterMap_eq_countP]
    _ = _ := by rw [← Halstead.total_count]

/-- A `switch` with a comment before its only clause, in which the field of a field is returned:
eight words, of which six are operators and operands. -/
theorem canonicalize_occurrences_switch :
    let clause := Clause.mk .case false [.literal "1"]
      [.ret [.binary "+" (.selector (.selector (.ident "a") "b") "c") (.ident "d")]]
    let body := Block.mk default [.switch none none [clause] [.comment "// one"]]
    let counts := Halstead.count (Tally.ofBody body).occurrences
    (Node.preorderBlock body).all Node.hasPlainComments = true ∧
      canonicalize body = "switch 1 return + a .b .c d" ∧
      counts.totalOperators + counts.totalOperands = 6 ∧
      (Node.wordsBlock body).length = counts.totalOperators + counts.totalOperands + 2 := by
  intro clause body counts
  have hplain : (Node.preorderBlock body).all Node.hasPlainComments = true := by decide
  exact ⟨hplain, by decide, by decide, (canonicalize_occurrences hplain).2.2.2.2.2.2⟩

end GoSurvey
