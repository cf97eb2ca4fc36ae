import GoSurvey.Go.Comments
import GoSurvey.Go.Rune

/-!
# Places of tokens

A tree that is read from ranked tokens has ranks for places. `Tree.locate` gives it the places of
the tokens in the source.
-/

namespace GoSurvey.Go

/-- The place in the source that a rank stands for: an end of a token, an end of the new line before
one, or a place inside an operator. -/
def Rank.place (tokens : Array Token) (rank : Nat) : Place :=
  let k := rank / 8
  let before := (tokens.getD (k - 1) default).span
  let t := tokens.getD k default
  let newline := t.newline.getD t.span
  match rank % 8 with
  | 0 => ⟨before.endByte, before.endLine, before.endCol⟩
  | 1 => ⟨newline.startByte, newline.startLine, newline.startCol⟩
  | 2 => ⟨newline.endByte, newline.endLine, newline.endCol⟩
  | n => ⟨t.span.startByte + (n - 4), t.span.startLine, t.span.startCol + (n - 4)⟩

/-- The span in the source that ranks stand for. -/
def Rank.located (tokens : Array Token) (s : Span) : Span :=
  (place tokens s.startByte).spanTo (place tokens s.endByte)

namespace Tree

mutual
/-- A tree with places in the source for the ranks of its tokens. Comments have their places. -/
def locate (tokens : Array Token) : Tree → Tree
  | .leaf label kind text span => .leaf label kind text (Rank.located tokens span)
  | .mark label text span => .mark label text (Rank.located tokens span)
  | .absent span => .absent (Rank.located tokens span)
  | .comment text span => .comment text span
  | .node label kind span children =>
    .node label kind (Rank.located tokens span) (locateAll tokens children)

/-- `locate` over some trees. -/
def locateAll (tokens : Array Token) : List Tree → List Tree
  | [] => []
  | t :: ts => t.locate tokens :: locateAll tokens ts
end

end Tree

end GoSurvey.Go
