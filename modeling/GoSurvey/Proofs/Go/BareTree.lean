import GoSurvey.Go.Source
import GoSurvey.Proofs.Go.Lexing

/-!
# Trees without comments

`Tree.bare` leaves out the places of a tree and its comments. There is one kind of comment that can
be kept: one that stands directly among the arguments of a generic type, such as the comment of
`L[ /* c */ int]`. `Tree.amongArguments` tells whether there is one at a certain place.

A comment that is put in changes the bare tree of a source only if it is kept
(`Source.bare_noteBytes`).
-/

namespace GoSurvey

/-- A span for where there is none. -/
def Span.nowhere : Span :=
  ⟨0, 0, 0, 0, 0, 0⟩

namespace Go

namespace Tree

section
variable (keep : Bool)

mutual
/-- A tree without places and comments. If comments may be kept, then those that stand directly in
the arguments of a generic type are; `stay` tells that the tree is such a list of arguments. -/
def bare (stay : Bool) : Tree → Tree
  | .leaf label kind text _ => .leaf label kind text .nowhere
  | .mark label text _ => .mark label text .nowhere
  | .absent _ => .absent .nowhere
  | .comment text _ => .comment text .nowhere
  | .node label kind _ children =>
    .node label kind .nowhere (bareAll stay (keep && kind == .genericType) children)

/-- `bare` over the parts of a node, which may be a generic type. -/
def bareAll (stay isGeneric : Bool) : List Tree → List Tree
  | [] => []
  | t :: ts =>
    if t.isComment && !stay then bareAll stay isGeneric ts
    else t.bare (isGeneric && t.label == some .typeArguments) :: bareAll stay isGeneric ts
end

mutual
/-- Whether a comment that `bare` keeps starts at a certain byte. -/
def keeps (byte : Nat) (stay : Bool) : Tree → Bool
  | .node _ kind _ children => keepsAny byte stay (keep && kind == .genericType) children
  | .leaf _ _ _ _ | .mark _ _ _ | .absent _ | .comment _ _ => false

/-- `keeps` over the parts of a node. -/
def keepsAny (byte : Nat) (stay isGeneric : Bool) : List Tree → Bool
  | [] => false
  | t :: ts =>
    stay && t.isComment && t.span.startByte == byte
      || t.keeps byte (isGeneric && t.label == some .typeArguments)
      || keepsAny byte stay isGeneric ts
end

end

/-- Whether a comment that starts at a certain byte stands directly among the arguments of a generic
type. -/
def amongArguments (byte : Nat) (t : Tree) : Bool :=
  t.keeps true byte false

variable {keep : Bool}

attribute [local simp] bare bareAll keeps keepsAny

/-- A comment has nothing but its text and its place. -/
theorem exists_of_isComment {t : Tree} (h : t.isComment = true) :
    ∃ text span, t = .comment text span := by
  cases t with
  | comment text span => exact ⟨text, span, rfl⟩
  | _ => cases h

@[simp]
theorem isComment_bare (stay : Bool) (t : Tree) : (t.bare keep stay).isComment = t.isComment := by
  cases t <;> rfl

@[simp]
theorem label_bare (stay : Bool) (t : Tree) : (t.bare keep stay).label = t.label := by
  cases t <;> rfl

@[simp]
theorem kind?_bare (stay : Bool) (t : Tree) : (t.bare keep stay).kind? = t.kind? := by
  cases t <;> rfl

@[simp]
theorem isNamed_bare (stay : Bool) (t : Tree) : (t.bare keep stay).isNamed = t.isNamed := by
  cases t <;> rfl

@[simp]
theorem text_bare (stay : Bool) (t : Tree) : (t.bare keep stay).text = t.text := by
  cases t <;> rfl

/-- The bare parts of two lists. -/
theorem bareAll_append (stay isGeneric : Bool) (ts ts' : List Tree) :
    bareAll keep stay isGeneric (ts ++ ts') =
      bareAll keep stay isGeneric ts ++ bareAll keep stay isGeneric ts' := by
  induction ts with
  | nil => rfl
  | cons t ts ih => cases ht : t.isComment <;> cases stay <;> simp [ht, ih]

/-- The comments that are kept in two lists. -/
theorem keepsAny_append (byte : Nat) (stay isGeneric : Bool) (ts ts' : List Tree) :
    keepsAny keep byte stay isGeneric (ts ++ ts') =
      (keepsAny keep byte stay isGeneric ts || keepsAny keep byte stay isGeneric ts') := by
  induction ts with
  | nil => rfl
  | cons t ts ih => simp [ih, Bool.or_assoc]

mutual
/-- If no comments may be kept, none are. -/
theorem keeps_false (byte : Nat) : ∀ t : Tree, t.keeps false byte false = false
  | .leaf _ _ _ _ | .mark _ _ _ | .absent _ | .comment _ _ => rfl
  | .node _ _ _ children => by simp [keepsAny_false byte children]

/-- `keeps_false` over the parts of a node. -/
theorem keepsAny_false (byte : Nat) : ∀ ts : List Tree, keepsAny false byte false false ts = false
  | [] => rfl
  | t :: ts => by simp [keeps_false byte t, keepsAny_false byte ts]
end

/-! ## Places -/

@[simp]
theorem isComment_locate (tokens : Array Token) (t : Tree) :
    (t.locate tokens).isComment = t.isComment := by
  cases t <;> rfl

@[simp]
theorem label_locate (tokens : Array Token) (t : Tree) : (t.locate tokens).label = t.label := by
  cases t <;> rfl

attribute [local simp] locate locateAll

mutual
/-- The bare tree has no places. -/
theorem bare_locate (tokens : Array Token) : ∀ (stay : Bool) (t : Tree),
    (t.locate tokens).bare keep stay = t.bare keep stay
  | _, .leaf _ _ _ _ | _, .mark _ _ _ | _, .absent _ | _, .comment _ _ => rfl
  | stay, .node _ kind _ children => by simp [bareAll_locateAll tokens stay _ children]

/-- `bare_locate` over the parts of a node. -/
theorem bareAll_locateAll (tokens : Array Token) : ∀ (stay isGeneric : Bool) (ts : List Tree),
    bareAll keep stay isGeneric (locateAll tokens ts) = bareAll keep stay isGeneric ts
  | _, _, [] => rfl
  | stay, isGeneric, t :: ts => by
    simp [bare_locate tokens _ t, bareAll_locateAll tokens stay isGeneric ts]
end

mutual
/-- Comments stay at their places. -/
theorem keeps_locate (tokens : Array Token) (byte : Nat) : ∀ (stay : Bool) (t : Tree),
    (t.locate tokens).keeps keep byte stay = t.keeps keep byte stay
  | _, .leaf _ _ _ _ | _, .mark _ _ _ | _, .absent _ | _, .comment _ _ => rfl
  | stay, .node _ kind _ children => by simp [keepsAny_locateAll tokens byte stay _ children]

/-- `keeps_locate` over the parts of a node. -/
theorem keepsAny_locateAll (tokens : Array Token) (byte : Nat) :
    ∀ (stay isGeneric : Bool) (ts : List Tree),
    keepsAny keep byte stay isGeneric (locateAll tokens ts) = keepsAny keep byte stay isGeneric ts
  | _, _, [] => rfl
  | stay, isGeneric, t :: ts => by
    have hstart : (t.isComment && (t.locate tokens).span.startByte == byte) =
        (t.isComment && t.span.startByte == byte) := by
      cases t <;> rfl
    simp [keeps_locate tokens byte _ t, keepsAny_locateAll tokens byte stay isGeneric ts,
      Bool.and_assoc, hstart]
end

/-! ## Comments -/

end Tree

namespace Noted

variable {byte : Nat} {cs cs' : List Comment}

/-- There is nothing to be noted in an empty list. -/
theorem eq_nil (h : Noted byte cs []) : cs = [] := by
  cases h
  rfl

/-- Both lists are cut at a rank. -/
theorem cutAt (h : Noted byte cs cs') (rank : Nat) :
    Noted byte (Comment.cutAt Comment.rank rank cs).1 (Comment.cutAt Comment.rank rank cs').1 ∧
      Noted byte (Comment.cutAt Comment.rank rank cs).2
        (Comment.cutAt Comment.rank rank cs').2 := by
  induction h with
  | nil => exact ⟨.nil, .nil⟩
  | @cons c c' cs cs' htext hrank h ih =>
    by_cases hlt : c.rank < rank
    · simp only [Comment.cutAt, List.takeWhile_cons, List.dropWhile_cons, ← hrank, hlt] at ih ⊢
      exact ⟨.cons htext hrank ih.1, ih.2⟩
    · simp only [Comment.cutAt, List.takeWhile_cons, List.dropWhile_cons, ← hrank, hlt]
      exact ⟨.nil, .cons htext hrank h⟩
  | @extra c cs cs' hstart hrank h ih =>
    by_cases hlt : c.rank < rank
    · simp only [Comment.cutAt, List.takeWhile_cons, List.dropWhile_cons, hlt] at ih ⊢
      exact ⟨.extra hstart (fun c' hc' => hrank c' (List.takeWhile_subset _ hc')) ih.1, ih.2⟩
    · -- No comment that follows has a rank low enough for the first part.
      have hnone : cs'.takeWhile (fun c => decide (c.rank < rank)) = [] := by
        cases cs' with
        | nil => rfl
        | cons c' cs' =>
          have hle := hrank c' List.mem_cons_self
          exact List.takeWhile_cons_of_neg (by simp; omega)
      simp only [Comment.cutAt, hnone] at ih
      have hnone' := ih.1.eq_nil
      have hdrop : cs.dropWhile (fun c => decide (c.rank < rank)) = cs := by
        simpa [hnone'] using List.takeWhile_append_dropWhile (l := cs)
          (p := fun c => decide (c.rank < rank))
      simp only [Comment.cutAt, List.takeWhile_cons, List.dropWhile_cons, hlt, hnone', hdrop]
      exact ⟨.nil, .extra hstart hrank h⟩

end Noted

namespace Tree

attribute [local simp] bare bareAll keeps keepsAny

/-- Of comments by themselves, those that are not kept leave no trace. -/
theorem bareAll_comments {byte : Nat} {stay isGeneric : Bool} {cs cs' : List Comment}
    (h : Noted byte cs cs')
    (hkeeps : keepsAny keep byte stay isGeneric (cs'.map Comment.tree) = false) :
    bareAll keep stay isGeneric (cs'.map Comment.tree) =
      bareAll keep stay isGeneric (cs.map Comment.tree) := by
  induction h with
  | nil => rfl
  | cons htext _ _ ih => cases stay <;> simp_all [Comment.tree, isComment]
  | extra hstart _ _ ih => cases stay <;> simp_all [Comment.tree, isComment, span]

@[simp]
theorem isComment_withComments (key : Comment → Nat) (cs : List Comment) (t : Tree) :
    (t.withComments key cs).isComment = t.isComment := by
  cases t <;> rfl

@[simp]
theorem label_withComments (key : Comment → Nat) (cs : List Comment) (t : Tree) :
    (t.withComments key cs).label = t.label := by
  cases t <;> rfl

mutual
/-- A comment more in a tree that is not kept leaves no trace. -/
theorem bare_withComments {byte : Nat} {cs cs' : List Comment} (h : Noted byte cs cs') :
    ∀ (stay : Bool) (t : Tree), (t.withComments Comment.rank cs').keeps keep byte stay = false →
      (t.withComments Comment.rank cs').bare keep stay =
        (t.withComments Comment.rank cs).bare keep stay
  | _, .leaf _ _ _ _, _ | _, .mark _ _ _, _ | _, .absent _, _ | _, .comment _ _, _ => rfl
  | stay, .node label kind span children, hkeeps => by
    rw [withComments] at hkeeps ⊢
    rw [bare, bareAll_place h stay _ children hkeeps, withComments, bare]

/-- `bare_withComments` over the parts of a node. -/
theorem bareAll_place {byte : Nat} {cs cs' : List Comment} (h : Noted byte cs cs') :
    ∀ (stay isGeneric : Bool) (ts : List Tree),
      keepsAny keep byte stay isGeneric (place Comment.rank cs' ts) = false →
      bareAll keep stay isGeneric (place Comment.rank cs' ts) =
        bareAll keep stay isGeneric (place Comment.rank cs ts)
  | _, _, [], hkeeps => bareAll_comments h hkeeps
  | stay, isGeneric, t :: ts, hkeeps => by
    have hbefore := h.cutAt t.span.startByte
    have hinside := hbefore.2.cutAt t.span.endByte
    simp only [place, keepsAny_append, keepsAny, Bool.or_eq_false_iff, label_withComments] at hkeeps
    obtain ⟨hk, ⟨-, hk'⟩, hk''⟩ := hkeeps
    simp only [place, bareAll_append, bareAll, isComment_withComments, label_withComments]
    rw [bareAll_comments hbefore.1 hk, bare_withComments hinside.1 _ t hk',
      bareAll_place hinside.2 stay isGeneric ts hk'']
end

end Tree

/-! ## Sources -/

namespace Source

open Grammar Lexer

/-- Ranks take the place of places. -/
theorem mapIdx_ranked {ts ts' : List Token}
    (h : ts.map (Token.ranked 0) = ts'.map (Token.ranked 0)) :
    ts.mapIdx Token.ranked = ts'.mapIdx Token.ranked := by
  have hranked (ts : List Token) : ts.mapIdx Token.ranked =
      (ts.map (Token.ranked 0)).mapIdx Token.ranked := by
    refine List.ext_getElem? fun k => ?_
    rw [List.getElem?_mapIdx, List.getElem?_mapIdx, List.getElem?_map, Option.map_map]
    refine congrArg (Option.map · ts[k]?) (funext fun t => ?_)
    simp [Token.ranked, Function.comp_def]
  rw [hranked ts, hranked ts', h]

/-- A source that can be read as a whole. -/
theorem read_of_parseWhole? {bytes : List UInt8} {tree : Tree}
    (h : parseWhole? ((lex bytes).1.mapIdx Token.ranked) = some tree) :
    read bytes =
      ⟨(tree.withComments Comment.rank (lex bytes).2).locate (lex bytes).1.toArray,
        none, false⟩ := by
  simp only [read, wholeTree?, h, Option.map_some]

/-- A source without errors can be read as a whole. -/
theorem parseWhole?_of_hasErrors {bytes : List UInt8} (h : (read bytes).hasErrors = false) :
    ∃ tree, parseWhole? ((lex bytes).1.mapIdx Token.ranked) = some tree := by
  cases hwhole : parseWhole? ((lex bytes).1.mapIdx Token.ranked) with
  | some tree => exact ⟨tree, rfl⟩
  | none =>
    simp only [read, wholeTree?, hwhole, Option.map_none] at h
    split at h <;> cases h

section
variable {pre post : List UInt8} (herrors : (read (pre ++ 0x20 :: post)).hasErrors = false)
  (hgap : Gap pre (lex (pre ++ 0x20 :: post)).1 (lex (pre ++ 0x20 :: post)).2)
include herrors hgap

/-- A comment that is put in for a space is no syntax error. -/
theorem hasErrors_noteBytes : (read (pre ++ (noteBytes ++ post))).hasErrors = false := by
  obtain ⟨tree, htree⟩ := parseWhole?_of_hasErrors herrors
  rw [← mapIdx_ranked (lex_note hgap).1] at htree
  rw [read_of_parseWhole? htree]

/-- A comment that is put in for a space changes the bare tree only if it is kept. -/
theorem bare_noteBytes {keep : Bool}
    (hkeeps : (read (pre ++ (noteBytes ++ post))).tree.keeps keep (pre.length + 1) false = false) :
    (read (pre ++ (noteBytes ++ post))).tree.bare keep false =
      (read (pre ++ 0x20 :: post)).tree.bare keep false := by
  obtain ⟨tree, htree⟩ := parseWhole?_of_hasErrors herrors
  have hlex := lex_note hgap
  have htree' := htree
  rw [← mapIdx_ranked hlex.1] at htree'
  rw [read_of_parseWhole? htree'] at hkeeps ⊢
  rw [Tree.keeps_locate] at hkeeps
  rw [read_of_parseWhole? htree, Tree.bare_locate, Tree.bare_locate]
  exact Tree.bare_withComments hlex.2 false tree hkeeps

end

end Source

end Go

end GoSurvey
