import GoSurvey.Go.Kind
import GoSurvey.Go.Token

/-!
# Syntax trees

A tree keeps every token of the source it was read from, including the new lines that end
statements, so the span of a node runs from its first token to its last.
-/

namespace GoSurvey.Go

/-- A syntax tree. The label tells what a part is to the node above it. -/
inductive Tree where
  /-- A named node without parts. -/
  | leaf (label : Option Label) (kind : Kind) (text : String) (span : Span)
  /-- An operator, a delimiter, a keyword, or a new line that ends something. -/
  | mark (label : Option Label) (text : String) (span : Span)
  /-- A separator that should stand here and does not. -/
  | absent (span : Span)
  /-- A comment. It is no part of anything. -/
  | comment (text : String) (span : Span)
  /-- A named node with parts. -/
  | node (label : Option Label) (kind : Kind) (span : Span) (children : List Tree)
deriving Inhabited

namespace Tree

/-- The label of a tree. -/
def label : Tree → Option Label
  | .leaf label _ _ _ | .mark label _ _ | .node label _ _ _ => label
  | .absent _ | .comment _ _ => none

/-- The kind of a named node. A comment is of no kind. -/
def kind? : Tree → Option Kind
  | .leaf _ kind _ _ | .node _ kind _ _ => some kind
  | .mark _ _ _ | .absent _ | .comment _ _ => none

/-- The place of a tree. -/
def span : Tree → Span
  | .leaf _ _ _ span | .mark _ _ span | .absent span | .comment _ span | .node _ _ span _ => span

/-- The text of a tree without parts. -/
def text : Tree → String
  | .leaf _ _ text _ | .mark _ text _ | .comment text _ => text
  | .absent _ | .node _ _ _ _ => ""

/-- The parts of a tree. -/
def children : Tree → List Tree
  | .node _ _ _ children => children
  | .leaf _ _ _ _ | .mark _ _ _ | .absent _ | .comment _ _ => []

/-- A tree under a label. -/
def as (label : Label) : Tree → Tree
  | .leaf _ kind text span => .leaf (some label) kind text span
  | .mark _ text span => .mark (some label) text span
  | .absent span => .absent span
  | .comment text span => .comment text span
  | .node _ kind span children => .node (some label) kind span children

/-- The span from the first part to the last. -/
def spanOf : List Tree → Span
  | [] => ⟨0, 0, 0, 0, 0, 0⟩
  | t :: ts => t.span.cover (ts.getLastD t).span

/-- A node over some parts. -/
def branch (kind : Kind) (children : List Tree) : Tree :=
  .node none kind (spanOf children) children

/-- Whether a tree is named, and not just a mark. A comment counts as named. -/
def isNamed : Tree → Bool
  | .leaf _ _ _ _ | .comment _ _ | .node _ _ _ _ => true
  | .mark _ _ _ | .absent _ => false

/-- Whether a tree is a comment. -/
def isComment : Tree → Bool
  | .comment _ _ => true
  | _ => false

mutual
/-- Whether something is missing from a tree or could not be read. -/
def isDamaged : Tree → Bool
  | .absent _ => true
  | .node _ kind _ children => kind == .error || isDamagedAny children
  | .leaf _ _ _ _ | .mark _ _ _ | .comment _ _ => false

/-- Whether one of some trees is damaged. -/
def isDamagedAny : List Tree → Bool
  | [] => false
  | t :: ts => t.isDamaged || isDamagedAny ts
end

end Tree

end GoSurvey.Go
