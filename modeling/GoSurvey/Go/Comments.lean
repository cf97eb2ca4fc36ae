import GoSurvey.Go.Tree

/-!
# Comments in trees

A comment belongs to the innermost node that has a token before it and a token after it. Where
comments stand is told by a key: their first byte, or their rank among the tokens.
-/

namespace GoSurvey.Go

/-- A comment as a part of a tree. -/
def Comment.tree (c : Comment) : Tree :=
  .comment c.text c.span

/-- Cuts a list of comments, in the order of the source, at a place. -/
def Comment.cutAt (key : Comment → Nat) (place : Nat) (cs : List Comment) :
    List Comment × List Comment :=
  (cs.takeWhile (key · < place), cs.dropWhile (key · < place))

namespace Tree

mutual
/-- Puts comments, which lie between the first token of a tree and its last, into it. -/
def withComments (key : Comment → Nat) (cs : List Comment) : Tree → Tree
  | .node label kind span children => .node label kind span (place key cs children)
  | .leaf label kind text span => .leaf label kind text span
  | .mark label text span => .mark label text span
  | .absent span => .absent span
  | .comment text span => .comment text span

/-- Puts comments into and between some trees. -/
def place (key : Comment → Nat) (cs : List Comment) : List Tree → List Tree
  | [] => cs.map Comment.tree
  | t :: ts =>
    let (before, rest) := Comment.cutAt key t.span.startByte cs
    let (inside, after) := Comment.cutAt key t.span.endByte rest
    before.map Comment.tree ++ t.withComments key inside :: place key after ts
end

end Tree

end GoSurvey.Go
