import GoSurvey.Proofs.Fingerprint.Detector
import GoSurvey.Proofs.Fingerprint.Lexemes

/-!
# Every text of a body shows in its fingerprint

A `Hole` is what is left of a body when one text is taken out of it: it can be filled with another
text. `Node.holes` lists the holes of a node, one for each name, literal, operator and selected
field in it and one for each name in its types. Filling a hole with another text changes exactly one
word (`Node.shows_holes`), and words that are joined by blanks never hide such a change
(`intercalate_ne`). Apart from the keywords each word comes from a hole (`Node.length_words`).
-/

namespace GoSurvey

/-- What is left when one text is taken out. -/
structure Hole (α : Type) where
  /-- The text that was taken out. -/
  text : String
  /-- What there is with a text put in. -/
  fill : String → α

/-- A hole in a part is a hole in the whole. -/
def Hole.within {α β : Type} (f : α → β) (h : Hole α) : Hole β where
  text := h.text
  fill text := f (h.fill text)

/-! ## The holes of a body -/

mutual
/-- The holes for the names of a type expression, in the order they are written. -/
def TypeExpr.holes : TypeExpr → List (Hole TypeExpr)
  | .ident name => [⟨name, .ident⟩]
  | .pointer t => t.holes.map (·.within .pointer)
  | .slice t => t.holes.map (·.within .slice)
  | .chan t => t.holes.map (·.within .chan)
  | .variadic t => t.holes.map (·.within .variadic)
  | .map key value =>
    key.holes.map (·.within fun key => .map key value) ++
      value.holes.map (·.within fun value => .map key value)
  | .func params results =>
    (bindingHoles params).map (·.within fun params => .func params results) ++
      (bindingHoles results).map (·.within fun results => .func params results)
  | .interface bs => (bindingHoles bs).map (·.within .interface)
  | .struct bs => (bindingHoles bs).map (·.within .struct)
  | .selector base member =>
    base.holes.map (·.within fun base => .selector base member) ++
      [⟨member, fun member => .selector base member⟩]
  | .generic base args =>
    base.holes.map (·.within fun base => .generic base args) ++
      (argHoles args).map (·.within fun args => .generic base args)
  | .literal _ | .unsupported _ => []

/-- `holes` over the types of bindings. -/
def TypeExpr.bindingHoles : List (Binding TypeExpr) → List (Hole (List (Binding TypeExpr)))
  | [] => []
  | ⟨names, t⟩ :: bs =>
    t.holes.map (·.within fun t => ⟨names, t⟩ :: bs) ++
      (bindingHoles bs).map (·.within fun bs => ⟨names, t⟩ :: bs)

/-- `holes` over type arguments. -/
def TypeExpr.argHoles : List TypeExpr → List (Hole (List TypeExpr))
  | [] => []
  | t :: ts =>
    t.holes.map (·.within fun t => t :: ts) ++ (argHoles ts).map (·.within fun ts => t :: ts)
end

namespace Node

mutual
/-- The holes of a node in source order. An operator comes before its operands, a selected field
after what it is selected from. -/
def holes : Node → List (Hole Node)
  | .comment _ => []
  | .ident name => [⟨name, .ident⟩]
  | .literal text => [⟨text, .literal⟩]
  | .unary op e => ⟨op, fun op => .unary op e⟩ :: e.holes.map (·.within fun e => .unary op e)
  | .binary op l r =>
    ⟨op, fun op => .binary op l r⟩ ::
      (l.holes.map (·.within fun l => .binary op l r) ++
        r.holes.map (·.within fun r => .binary op l r))
  | .call f args =>
    f.holes.map (·.within fun f => .call f args) ++
      (holesAll args).map (·.within fun args => .call f args)
  | .selector e field =>
    e.holes.map (·.within fun e => .selector e field) ++ [⟨field, fun field => .selector e field⟩]
  | .type t => t.holes.map (·.within .type)
  | .cond init test body alt =>
    (holesOpt init).map (·.within fun init => .cond init test body alt) ++
      test.holes.map (·.within fun test => .cond init test body alt) ++
      (holesBlock body).map (·.within fun body => .cond init test body alt) ++
      (holesOpt alt).map (·.within fun alt => .cond init test body alt)
  | .loop init test post body =>
    (holesOpt init).map (·.within fun init => .loop init test post body) ++
      (holesOpt test).map (·.within fun test => .loop init test post body) ++
      (holesOpt post).map (·.within fun post => .loop init test post body) ++
      (holesBlock body).map (·.within fun body => .loop init test post body)
  | .range left target body =>
    (holesOpt left).map (·.within fun left => .range left target body) ++
      target.holes.map (·.within fun target => .range left target body) ++
      (holesBlock body).map (·.within fun body => .range left target body)
  | .switch init tag clauses comments =>
    (holesOpt init).map (·.within fun init => .switch init tag clauses comments) ++
      (holesOpt tag).map (·.within fun tag => .switch init tag clauses comments) ++
      (holesClauses clauses).map (·.within fun clauses => .switch init tag clauses comments) ++
      (holesAll comments).map (·.within fun comments => .switch init tag clauses comments)
  | .select clauses comments =>
    (holesClauses clauses).map (·.within fun clauses => .select clauses comments) ++
      (holesAll comments).map (·.within fun comments => .select clauses comments)
  | .block b => (holesBlock b).map (·.within .block)
  | .ret values => (holesAll values).map (·.within .ret)
  | .other kind children => (holesAll children).map (·.within fun children => .other kind children)

/-- `holes` of an optional part. -/
def holesOpt : Option Node → List (Hole (Option Node))
  | none => []
  | some n => n.holes.map (·.within some)

/-- `holes` over a list of nodes. -/
def holesAll : List Node → List (Hole (List Node))
  | [] => []
  | n :: ns =>
    n.holes.map (·.within fun n => n :: ns) ++ (holesAll ns).map (·.within fun ns => n :: ns)

/-- `holes` over the statements of a block. -/
def holesBlock : Block → List (Hole Block)
  | .mk span stmts => (holesAll stmts).map (·.within fun stmts => .mk span stmts)

/-- `holes` over clauses: the expressions of each, then its body. -/
def holesClauses : List Clause → List (Hole (List Clause))
  | [] => []
  | .mk kind isDefault exprs body :: cs =>
    (holesAll exprs).map (·.within fun exprs => .mk kind isDefault exprs body :: cs) ++
      (holesAll body).map (·.within fun body => .mk kind isDefault exprs body :: cs) ++
      (holesClauses cs).map (·.within fun cs => .mk kind isDefault exprs body :: cs)
end

end Node

/-! ## Words that differ in one place -/

/-- Two lists of words are the same but for one word, which ends in `s` in the first and in `t` in
the second. -/
def OneWordApart (s t : String) (ws ws' : List String) : Prop :=
  ∃ before mark after, ws = before ++ (mark ++ s) :: after ∧ ws' = before ++ (mark ++ t) :: after

namespace OneWordApart

variable {s t : String} {ws ws' : List String}

/-- Two words that are marked alike. -/
theorem marked (mark s t : String) : OneWordApart s t [mark ++ s] [mark ++ t] :=
  ⟨[], mark, [], rfl, rfl⟩

/-- Two words. -/
theorem single (s t : String) : OneWordApart s t [s] [t] :=
  ⟨[], "", [], by simp, by simp⟩

/-- Words that come before both. -/
theorem append_left (vs : List String) (h : OneWordApart s t ws ws') :
    OneWordApart s t (vs ++ ws) (vs ++ ws') := by
  obtain ⟨before, mark, after, rfl, rfl⟩ := h
  exact ⟨vs ++ before, mark, after, by simp, by simp⟩

/-- Words that come after both. -/
theorem append_right (vs : List String) (h : OneWordApart s t ws ws') :
    OneWordApart s t (ws ++ vs) (ws' ++ vs) := by
  obtain ⟨before, mark, after, rfl, rfl⟩ := h
  exact ⟨before, mark, after ++ vs, by simp, by simp⟩

/-- A word that comes before both. -/
theorem cons (w : String) (h : OneWordApart s t ws ws') : OneWordApart s t (w :: ws) (w :: ws') :=
  h.append_left [w]

end OneWordApart

/-- Around a word the joined text is the same whatever the word is. -/
theorem exists_intercalate_eq (before after : List String) :
    ∃ left right : String,
      ∀ w, String.intercalate " " (before ++ w :: after) = left ++ w ++ right := by
  induction before with
  | nil =>
    cases after with
    | nil => exact ⟨"", "", fun w => by simp⟩
    | cons v after => exact ⟨"", " " ++ String.intercalate " " (v :: after), fun w => by
        rw [List.nil_append, String.intercalate_cons_cons, String.empty_append,
          String.append_assoc]⟩
  | cons v before ih =>
    obtain ⟨left, right, h⟩ := ih
    refine ⟨v ++ " " ++ left, right, fun w => ?_⟩
    rw [List.cons_append, String.intercalate_cons_of_ne_nil (by simp), h]
    simp only [String.append_assoc]

/-- Words that differ in one place are not joined to the same text. -/
theorem intercalate_ne {s t : String} {ws ws' : List String} (hne : s ≠ t)
    (h : OneWordApart s t ws ws') : String.intercalate " " ws ≠ String.intercalate " " ws' := by
  obtain ⟨before, mark, after, rfl, rfl⟩ := h
  obtain ⟨left, right, hjoin⟩ := exists_intercalate_eq before after
  rw [hjoin, hjoin, ne_eq, String.append_left_inj, String.append_right_inj, String.append_right_inj]
  exact hne

/-! ## Filling a hole -/

/-- A hole shows in the words: the text that was taken out fills it as before, and another text
changes one word. -/
def Hole.Shows {α : Type} (words : α → List String) (a : α) (h : Hole α) : Prop :=
  h.fill h.text = a ∧ ∀ t, OneWordApart h.text t (words a) (words (h.fill t))

/-- A hole in a part shows in the words of the whole if the words of the part do. -/
theorem Hole.Shows.within {α β : Type} {words : α → List String} {words' : β → List String}
    {f : α → β} {a : α} {h : Hole α} (hh : h.Shows words a)
    (hf : ∀ {s t b}, OneWordApart s t (words a) (words b) →
      OneWordApart s t (words' (f a)) (words' (f b))) :
    (h.within f).Shows words' (f a) :=
  ⟨congrArg f hh.1, fun t => hf (hh.2 t)⟩

namespace TypeExpr

mutual
/-- The holes of a type expression show in its names. -/
theorem shows_holes : ∀ (t : TypeExpr) (h : Hole TypeExpr), h ∈ t.holes → h.Shows names t
  | .ident name => by
    simp only [holes, List.mem_singleton]
    rintro _ rfl
    exact ⟨rfl, fun t => .single name t⟩
  | .pointer t | .slice t | .chan t | .variadic t => by
    simp only [holes, List.mem_map]
    rintro _ ⟨h, hh, rfl⟩
    exact (shows_holes t h hh).within id
  | .map key value => by
    simp only [holes, List.mem_append, List.mem_map]
    rintro _ (⟨h, hh, rfl⟩ | ⟨h, hh, rfl⟩)
    · exact (shows_holes key h hh).within (·.append_right _)
    · exact (shows_holes value h hh).within (·.append_left _)
  | .func params results => by
    simp only [holes, List.mem_append, List.mem_map]
    rintro _ (⟨h, hh, rfl⟩ | ⟨h, hh, rfl⟩)
    · exact (shows_bindingHoles params h hh).within (·.append_right _)
    · exact (shows_bindingHoles results h hh).within (·.append_left _)
  | .interface bs | .struct bs => by
    simp only [holes, List.mem_map]
    rintro _ ⟨h, hh, rfl⟩
    exact (shows_bindingHoles bs h hh).within id
  | .selector base member => by
    simp only [holes, List.mem_append, List.mem_map, List.mem_singleton]
    rintro _ (⟨h, hh, rfl⟩ | rfl)
    · exact (shows_holes base h hh).within (·.append_right _)
    · exact ⟨rfl, fun t => (OneWordApart.single member t).append_left _⟩
  | .generic base args => by
    simp only [holes, List.mem_append, List.mem_map]
    rintro _ (⟨h, hh, rfl⟩ | ⟨h, hh, rfl⟩)
    · exact (shows_holes base h hh).within (·.append_right _)
    · exact (shows_argHoles args h hh).within (·.append_left _)
  | .literal _ | .unsupported _ => by simp [holes]

/-- `shows_holes` over the types of bindings. -/
theorem shows_bindingHoles : ∀ (bs : List (Binding TypeExpr)) (h : Hole (List (Binding TypeExpr))),
    h ∈ bindingHoles bs → h.Shows bindingNames bs
  | [] => by simp [bindingHoles]
  | ⟨names, t⟩ :: bs => by
    simp only [bindingHoles, List.mem_append, List.mem_map]
    rintro _ (⟨h, hh, rfl⟩ | ⟨h, hh, rfl⟩)
    · exact (shows_holes t h hh).within (·.append_right _)
    · exact (shows_bindingHoles bs h hh).within (·.append_left _)

/-- `shows_holes` over type arguments. -/
theorem shows_argHoles : ∀ (ts : List TypeExpr) (h : Hole (List TypeExpr)),
    h ∈ argHoles ts → h.Shows argNames ts
  | [] => by simp [argHoles]
  | t :: ts => by
    simp only [argHoles, List.mem_append, List.mem_map]
    rintro _ (⟨h, hh, rfl⟩ | ⟨h, hh, rfl⟩)
    · exact (shows_holes t h hh).within (·.append_right _)
    · exact (shows_argHoles ts h hh).within (·.append_left _)
end

end TypeExpr

namespace Node

-- Each part of a node stands in its words with the words of the other parts before and after it.
mutual
/-- The holes of a node show in its words. -/
theorem shows_holes : ∀ (n : Node) (h : Hole Node), h ∈ n.holes → h.Shows words n
  | .comment _ => by simp [holes]
  | .ident text | .literal text => by
    simp only [holes, List.mem_singleton]
    rintro _ rfl
    exact ⟨rfl, fun t => .single text t⟩
  | .unary op e => by
    simp only [holes, List.mem_cons, List.mem_map]
    rintro _ (rfl | ⟨h, hh, rfl⟩)
    · exact ⟨rfl, fun t => (OneWordApart.single op t).append_right _⟩
    · exact (shows_holes e h hh).within (·.cons _)
  | .binary op l r => by
    simp only [holes, List.mem_cons, List.mem_append, List.mem_map]
    rintro _ (rfl | ⟨h, hh, rfl⟩ | ⟨h, hh, rfl⟩)
    · exact ⟨rfl, fun t => (OneWordApart.single op t).append_right _⟩
    · exact (shows_holes l h hh).within fun d => (d.append_right _).cons _
    · exact (shows_holes r h hh).within fun d => (d.append_left _).cons _
  | .call f args => by
    simp only [holes, List.mem_append, List.mem_map]
    rintro _ (⟨h, hh, rfl⟩ | ⟨h, hh, rfl⟩)
    · exact (shows_holes f h hh).within (·.append_right _)
    · exact (shows_holesAll args h hh).within (·.append_left _)
  | .selector e field => by
    simp only [holes, List.mem_append, List.mem_map, List.mem_singleton]
    rintro _ (⟨h, hh, rfl⟩ | rfl)
    · exact (shows_holes e h hh).within (·.append_right _)
    · exact ⟨rfl, fun t => (OneWordApart.marked "." field t).append_left _⟩
  | .type t => by
    simp only [holes, List.mem_map]
    rintro _ ⟨h, hh, rfl⟩
    exact (t.shows_holes h hh).within id
  | .cond init test body alt => by
    simp only [holes, List.mem_append, List.mem_map]
    rintro _ (((⟨h, hh, rfl⟩ | ⟨h, hh, rfl⟩) | ⟨h, hh, rfl⟩) | ⟨h, hh, rfl⟩)
    · exact (shows_holesOpt init h hh).within fun d =>
        (((d.append_right _).append_right _).append_right _).cons _
    · exact (shows_holes test h hh).within fun d =>
        (((d.append_left _).append_right _).append_right _).cons _
    · exact (shows_holesBlock body h hh).within fun d =>
        ((d.append_left _).append_right _).cons _
    · exact (shows_holesOpt alt h hh).within fun d => (d.append_left _).cons _
  | .loop init test post body => by
    simp only [holes, List.mem_append, List.mem_map]
    rintro _ (((⟨h, hh, rfl⟩ | ⟨h, hh, rfl⟩) | ⟨h, hh, rfl⟩) | ⟨h, hh, rfl⟩)
    · exact (shows_holesOpt init h hh).within fun d =>
        (((d.append_right _).append_right _).append_right _).cons _
    · exact (shows_holesOpt test h hh).within fun d =>
        (((d.append_left _).append_right _).append_right _).cons _
    · exact (shows_holesOpt post h hh).within fun d =>
        ((d.append_left _).append_right _).cons _
    · exact (shows_holesBlock body h hh).within fun d => (d.append_left _).cons _
  | .range left target body => by
    simp only [holes, List.mem_append, List.mem_map]
    rintro _ ((⟨h, hh, rfl⟩ | ⟨h, hh, rfl⟩) | ⟨h, hh, rfl⟩)
    · exact (shows_holesOpt left h hh).within fun d =>
        ((d.append_right _).append_right _).cons _
    · exact (shows_holes target h hh).within fun d => ((d.append_left _).append_right _).cons _
    · exact (shows_holesBlock body h hh).within fun d => (d.append_left _).cons _
  | .switch init tag clauses comments => by
    simp only [holes, List.mem_append, List.mem_map]
    rintro _ (((⟨h, hh, rfl⟩ | ⟨h, hh, rfl⟩) | ⟨h, hh, rfl⟩) | ⟨h, hh, rfl⟩)
    · exact (shows_holesOpt init h hh).within fun d =>
        (((d.append_right _).append_right _).append_right _).cons _
    · exact (shows_holesOpt tag h hh).within fun d =>
        (((d.append_left _).append_right _).append_right _).cons _
    · exact (shows_holesClauses clauses h hh).within fun d =>
        ((d.append_left _).append_right _).cons _
    · exact (shows_holesAll comments h hh).within fun d => (d.append_left _).cons _
  | .select clauses comments => by
    simp only [holes, List.mem_append, List.mem_map]
    rintro _ (⟨h, hh, rfl⟩ | ⟨h, hh, rfl⟩)
    · exact (shows_holesClauses clauses h hh).within (·.append_right _)
    · exact (shows_holesAll comments h hh).within (·.append_left _)
  | .block b => by
    simp only [holes, List.mem_map]
    rintro _ ⟨h, hh, rfl⟩
    exact (shows_holesBlock b h hh).within id
  | .ret values => by
    simp only [holes, List.mem_map]
    rintro _ ⟨h, hh, rfl⟩
    exact (shows_holesAll values h hh).within (·.cons _)
  | .other kind children => by
    simp only [holes, List.mem_map]
    rintro _ ⟨h, hh, rfl⟩
    exact (shows_holesAll children h hh).within id

/-- `shows_holes` for an optional part. -/
theorem shows_holesOpt : ∀ (n : Option Node) (h : Hole (Option Node)), h ∈ holesOpt n →
    h.Shows wordsOpt n
  | none => by simp [holesOpt]
  | some n => by
    simp only [holesOpt, List.mem_map]
    rintro _ ⟨h, hh, rfl⟩
    exact (shows_holes n h hh).within id

/-- `shows_holes` over a list of nodes. -/
theorem shows_holesAll : ∀ (ns : List Node) (h : Hole (List Node)), h ∈ holesAll ns →
    h.Shows wordsAll ns
  | [] => by simp [holesAll]
  | n :: ns => by
    simp only [holesAll, List.mem_append, List.mem_map]
    rintro _ (⟨h, hh, rfl⟩ | ⟨h, hh, rfl⟩)
    · exact (shows_holes n h hh).within (·.append_right _)
    · exact (shows_holesAll ns h hh).within (·.append_left _)

/-- `shows_holes` over a block. -/
theorem shows_holesBlock : ∀ (b : Block) (h : Hole Block), h ∈ holesBlock b → h.Shows wordsBlock b
  | .mk span stmts => by
    simp only [holesBlock, List.mem_map]
    rintro _ ⟨h, hh, rfl⟩
    exact (shows_holesAll stmts h hh).within id

/-- `shows_holes` over clauses. -/
theorem shows_holesClauses : ∀ (cs : List Clause) (h : Hole (List Clause)), h ∈ holesClauses cs →
    h.Shows wordsClauses cs
  | [] => by simp [holesClauses]
  | .mk kind isDefault exprs body :: cs => by
    simp only [holesClauses, List.mem_append, List.mem_map]
    rintro _ ((⟨h, hh, rfl⟩ | ⟨h, hh, rfl⟩) | ⟨h, hh, rfl⟩)
    · exact (shows_holesAll exprs h hh).within fun d => (d.append_right _).append_right _
    · exact (shows_holesAll body h hh).within fun d => (d.append_left _).append_right _
    · exact (shows_holesClauses cs h hh).within (·.append_left _)
end

end Node

/-! ## Words without a hole -/

namespace TypeExpr

mutual
/-- Every name of a type expression has a hole. -/
theorem length_holes : ∀ t : TypeExpr, t.holes.length = t.names.length
  | .ident _ | .literal _ | .unsupported _ => by simp [holes, names]
  | .pointer t | .slice t | .chan t | .variadic t => by simp [holes, names, length_holes t]
  | .map key value => by simp [holes, names, length_holes key, length_holes value]
  | .func params results => by
    simp [holes, names, length_bindingHoles params, length_bindingHoles results]
  | .interface bs | .struct bs => by simp [holes, names, length_bindingHoles bs]
  | .selector base _ => by simp [holes, names, length_holes base]
  | .generic base args => by simp [holes, names, length_holes base, length_argHoles args]

/-- `length_holes` over the types of bindings. -/
theorem length_bindingHoles : ∀ bs : List (Binding TypeExpr),
    (bindingHoles bs).length = (bindingNames bs).length
  | [] => rfl
  | ⟨_, t⟩ :: bs => by simp [bindingHoles, bindingNames, length_holes t, length_bindingHoles bs]

/-- `length_holes` over type arguments. -/
theorem length_argHoles : ∀ ts : List TypeExpr, (argHoles ts).length = (argNames ts).length
  | [] => rfl
  | t :: ts => by simp [argHoles, argNames, length_holes t, length_argHoles ts]
end

end TypeExpr

namespace Node

/-- How many nodes of a list have a keyword in the fingerprint. -/
def keywords (ns : List Node) : Nat :=
  ns.countP fun n => n.keyword?.isSome

theorem keywords_nil : keywords [] = 0 := rfl

theorem keywords_cons (n : Node) (ns : List Node) :
    keywords (n :: ns) = n.keyword?.isSome.toNat + keywords ns := by
  rw [keywords, List.countP_cons]
  cases n.keyword? <;> simp [keywords, Nat.add_comm]

theorem keywords_append (ns ns' : List Node) :
    keywords (ns ++ ns') = keywords ns + keywords ns' :=
  List.countP_append

attribute [local simp] words wordsOpt wordsAll wordsBlock wordsClauses
  holes holesOpt holesAll holesBlock holesClauses
  preorder preorderOpt preorderAll preorderBlock preorderClauses
  keywords_nil keywords_cons keywords_append keyword? TypeExpr.length_holes

mutual
/-- Every word of a node has a hole or is the keyword of a statement. -/
theorem length_words : ∀ n : Node, n.words.length = n.holes.length + keywords n.preorder
  | .comment _ | .ident _ | .literal _ | .type _ => by simp
  | .unary _ e | .selector e _ => by simp [length_words e]; omega
  | .binary _ l r => by simp [length_words l, length_words r]; omega
  | .call f args => by simp [length_words f, length_wordsAll args]; omega
  | .cond init test body alt => by
    simp [length_wordsOpt init, length_words test, length_wordsBlock body, length_wordsOpt alt]
    omega
  | .loop init test post body => by
    simp [length_wordsOpt init, length_wordsOpt test, length_wordsOpt post, length_wordsBlock body]
    omega
  | .range left target body => by
    simp [length_wordsOpt left, length_words target, length_wordsBlock body]
    omega
  | .switch init tag clauses comments => by
    simp [length_wordsOpt init, length_wordsOpt tag, length_wordsClauses clauses,
      length_wordsAll comments]
    omega
  | .select clauses comments => by
    simp [length_wordsClauses clauses, length_wordsAll comments]
    omega
  | .block b => by simp [length_wordsBlock b]
  | .ret values => by simp [length_wordsAll values]; omega
  | .other _ children => by simp [length_wordsAll children]

/-- `length_words` for an optional part. -/
theorem length_wordsOpt : ∀ n : Option Node,
    (wordsOpt n).length = (holesOpt n).length + keywords (preorderOpt n)
  | none => rfl
  | some n => by simp [length_words n]

/-- `length_words` over a list of nodes. -/
theorem length_wordsAll : ∀ ns : List Node,
    (wordsAll ns).length = (holesAll ns).length + keywords (preorderAll ns)
  | [] => rfl
  | n :: ns => by simp [length_words n, length_wordsAll ns]; omega

/-- `length_words` over a block. -/
theorem length_wordsBlock : ∀ b : Block,
    (wordsBlock b).length = (holesBlock b).length + keywords (preorderBlock b)
  | .mk _ stmts => by simp [length_wordsAll stmts]

/-- `length_words` over clauses. -/
theorem length_wordsClauses : ∀ cs : List Clause,
    (wordsClauses cs).length = (holesClauses cs).length + keywords (preorderClauses cs)
  | [] => rfl
  | .mk _ _ exprs body :: cs => by
    simp [length_wordsAll exprs, length_wordsAll body, length_wordsClauses cs]
    omega
end

end Node

/-! ## Fingerprints -/

/-- Having seen the text `s` makes no difference for whether `t` counts as repeated, whatever else
was seen before and after it. -/
def Detector.Ignores (s t : String) : Prop :=
  ∀ before after : List String,
    ((empty.feed (before ++ s :: after)).check t).1 = ((empty.feed (before ++ after)).check t).1

/-- A text does not count as repeated because of another one. -/
theorem Detector.ignores_of_ne {s t : String} (h : s ≠ t) : Ignores s t := by
  intro before after
  rw [(holds_empty.feed _).check_fst, (holds_empty.feed _).check_fst]
  simp [Ne.symm h]

/-- **A fingerprint tells bodies apart that differ in one text.** Apart from one keyword for each
`return`, `if`, `for` and `switch`, every word of a fingerprint comes from a hole of the body. If a
hole is filled with another text than the one that was taken out, the fingerprint is another one,
and neither of the two bodies counts as repeated because of the other. -/
theorem canonicalize_fill (body : Block) :
    (Node.wordsBlock body).length =
        (Node.holesBlock body).length + Node.keywords (Node.preorderBlock body) ∧
      ∀ h ∈ Node.holesBlock body, h.fill h.text = body ∧
        ∀ text, text ≠ h.text → canonicalize (h.fill text) ≠ canonicalize body ∧
          Detector.Ignores (canonicalize body) (canonicalize (h.fill text)) ∧
          Detector.Ignores (canonicalize (h.fill text)) (canonicalize body) := by
  refine ⟨Node.length_wordsBlock body, fun h hh => ?_⟩
  obtain ⟨hfill, hwords⟩ := Node.shows_holesBlock body h hh
  refine ⟨hfill, fun text hne => ?_⟩
  have hcanonical : canonicalize body ≠ canonicalize (h.fill text) :=
    intercalate_ne hne.symm (hwords text)
  exact ⟨hcanonical.symm, Detector.ignores_of_ne hcanonical,
    Detector.ignores_of_ne hcanonical.symm⟩

/-- The field in `switch { case x == *p.next: }` is one of five holes, beside one keyword. -/
theorem canonicalize_fill_field :
    let clause (field : String) := Clause.mk .case false
      [.binary "==" (.ident "x") (.unary "*" (.selector (.ident "p") field))] []
    let body (field : String) := Block.mk default [.switch none none [clause field] []]
    (Node.holesBlock (body "next")).map Hole.text = ["==", "x", "*", "p", "next"] ∧
      canonicalize (body "next") = "switch == x * p .next" ∧
      canonicalize (body "prev") ≠ canonicalize (body "next") ∧
      Detector.Ignores (canonicalize (body "next")) (canonicalize (body "prev")) := by
  intro clause body
  have hhole : ⟨"next", body⟩ ∈ Node.holesBlock (body "next") :=
    List.mem_of_getElem? (i := 4) rfl
  obtain ⟨hne, hignores, -⟩ := ((canonicalize_fill (body "next")).2 _ hhole).2 "prev" (by decide)
  exact ⟨by decide, by decide, hne, hignores⟩

end GoSurvey
