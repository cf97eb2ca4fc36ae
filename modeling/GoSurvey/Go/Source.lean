import GoSurvey.Go.Grammar.File
import GoSurvey.Go.Layout
import GoSurvey.Go.Lexer
import GoSurvey.Go.Lowering

/-!
# Sources

A source always has a tree. If it cannot be read as a whole, functions whose head can be read are
kept with a body that is marked as damaged, and everything else that cannot be read is passed over.

A source without errors is read by the order of its tokens only. Where separators are forgotten or
something cannot be read, the distances between tokens matter for the best guess.

The language does not say what a source with errors means. The tree of such a source and the place
of its first error are choices of this module. Other parsers, which search for a repair of least
cost, may recover in another way: they may keep more or less of the source, and name another place.
-/

namespace GoSurvey.Go

/-- A source that has been read: its tree, the line and column of its first syntax error, and
whether it has any. A separator that was forgotten between two readable items is an error without a
place. -/
structure Source where
  tree : Tree
  firstError : Option (Nat × Nat)
  hasErrors : Bool

namespace Source

open Grammar Reader

/-! ## The place of an error -/

/-- The tokens a reader may go on with if they are put in. -/
def fillers : List (TokenKind × String) :=
  [(.word, "x"), (.mark, ")"), (.mark, "]"), (.mark, "\x7d")]

/-- Puts a token in before the one that starts at a place. -/
def insertBefore (place : Nat) (kind : TokenKind) (text : String) : List Token → List Token
  | [] => []
  | t :: ts =>
    if t.span.startByte = place ∧ (t.kind = .eof ∨ t.span.startByte < t.span.endByte) then
      ⟨kind, text, t.span, none⟩ :: t :: ts
    else t :: insertBefore place kind text ts

/-- Whether reading gets past a place. -/
def getsPast (place : Nat) (tokens : List Token) : Bool :=
  match parse false tokens with
  | .ok _ => true
  | .error reach => place < reach

/-- The last token before a place. -/
def tokenBefore? (place : Nat) (tokens : List Token) : Option Token :=
  (tokens.takeWhile (·.span.startByte < place)).getLast?

/-- The line and column of the token at a place. If something is missing before it, that is the end
of the token before. This is a guess, which stands in for the place that a search for a repair would
find. -/
def errorPlace (tokens : List Token) (place : Nat) : Nat × Nat :=
  let isMissing := fillers.any fun (kind, text) =>
    getsPast place (insertBefore place kind text tokens)
  match isMissing, tokenBefore? place tokens, tokens.find? (place ≤ ·.span.startByte) with
  | true, some t, _ => (t.span.endLine, t.span.endCol)
  | _, _, some t => (t.span.startLine, t.span.startCol)
  | _, _, none => (1, 1)

/-! ## Damaged sources -/

/-- A node for something that cannot be read. -/
def unreadable (t : Token) : Tree :=
  .branch .error [.mark none t.text t.span]

/-- Passes over tokens up to the brace that closes an open one. -/
def skipToClosing (depth : Nat) : List Token → List Token × List Token
  | [] => ([], [])
  | t :: ts =>
    if t.kind = .eof then ([], t :: ts)
    else
      match (if t.isMark "\x7b" then some (depth + 1)
        else if t.isMark "\x7d" then (if depth ≤ 1 then none else some (depth - 1))
        else some depth) with
      | none => ([t], ts)
      | some depth =>
        let (skipped, rest) := skipToClosing depth ts
        (t :: skipped, rest)

/-- A block of which only the braces are read. -/
def damagedBlock : Reader Reading :=
  fun ts reach =>
    match skipToClosing 0 ts with
    | (t :: skipped, rest) =>
      let span := t.span.cover ((t :: skipped).getLastD t).span
      (some (⟨.node none .block span [unreadable t], 0⟩, rest), reach)
    | ([], rest) => (refuse : Reader Reading) rest reach

/-- The rules, with blocks that are not looked into. -/
def damagedRules (self : Grammar) : Grammar :=
  fun {α} rule =>
    match α, rule with
    | _, .block => damagedBlock
    | _, rule => self rule

/-- An item of a damaged file: one that can be read, a function with a damaged body, or else a
single token. -/
def damagedItem (self : Grammar) : Reader Reading :=
  item self
  <|> (do if ← atWord "func" then functionItem (damagedRules self) else refuse)
  <|> (do return ⟨unreadable (← next), 0⟩)

/-- The items of a damaged file. -/
def damagedItems (self : Grammar) : Reader (List Reading) :=
  iterate (fun found => do
    if (← peek).kind == .eof then return none
    let r ← damagedItem self
    return some (found ++ r :: (← terminator?).toList)) []

/-- The tree of a damaged file. It stands in for what a search for a repair would find: what can be
read item by item is kept, and nothing is repaired. -/
def damagedTree (tokens : List Token) : Tree :=
  match damagedItems (rules true (depthFor tokens)) tokens 0 with
  | (some (parts, _), _) => .branch .sourceFile (parts.map (·.tree))
  | (none, _) => .branch .sourceFile []

/-- The tree of a source without errors, by the ranks of its tokens. -/
def wholeTree? (tokens : List Token) (comments : List Comment) : Option Tree :=
  (parseWhole? (tokens.mapIdx Token.ranked)).map fun tree =>
    (tree.withComments Comment.rank comments).locate tokens.toArray

/-- Reads a source. -/
def read (bytes : List UInt8) : Source :=
  let (tokens, comments) := Lexer.lex bytes
  match wholeTree? tokens comments with
  | some tree => ⟨tree, none, false⟩
  | none =>
    let noted := Tree.withComments (·.span.startByte) comments
    match parse true tokens with
    | .ok tree => ⟨noted tree, none, true⟩
    | .error place => ⟨noted (damagedTree tokens), some (errorPlace tokens place), true⟩

/-- The code in a source. -/
def toSourceFile (path : String) (s : Source) : SourceFile :=
  { s.tree.toSourceFile path with hasErrors := s.hasErrors }

end Source

end GoSurvey.Go
