import GoSurvey.Code.Span

/-!
# Tokens

The pieces of a source that a grammar sees. Comments are kept apart from them. Whether a new line
counts as a token depends on the grammar, so each token remembers the first new line in the gap
before it.

A grammar goes by the order of tokens, and not by how far they are apart. `Rank` gives each token
eight numbers, four for the gap before it and four for the token itself, so that it can be cut in
parts.
-/

namespace GoSurvey.Go

/-- The class of a token. -/
inductive TokenKind where
  /-- An identifier or a keyword; the grammar tells them apart. -/
  | word
  /-- An operator or a delimiter. -/
  | mark
  | int
  | float
  | imaginary
  | rune
  | string
  | rawString
  /-- The character with code zero, which ends a statement. -/
  | nul
  /-- A character that starts no token. -/
  | stray
  /-- The end of the source. -/
  | eof
deriving DecidableEq, Repr, Inhabited

/-- A token with its text, its place, and the first new line between it and the token before. -/
structure Token where
  kind : TokenKind
  text : String
  span : Span
  newline : Option Span
deriving DecidableEq, Repr, Inhabited

namespace Token

/-- Whether a token is a certain operator or delimiter. -/
def isMark (text : String) (t : Token) : Bool :=
  t.kind == .mark && t.text == text

/-- Whether a token is a certain word. -/
def isWord (text : String) (t : Token) : Bool :=
  t.kind == .word && t.text == text

/-- The token that is left of an operator after its first `n` characters, all of one byte. -/
def dropFirst (n : Nat) (t : Token) : Token :=
  { t with
    text := String.ofList (t.text.toList.drop n)
    span := { t.span with startByte := t.span.startByte + n, startCol := t.span.startCol + n }
    newline := none }

/-- The first `n` characters of an operator, all of one byte. -/
def takeFirst (n : Nat) (t : Token) : Token :=
  { t with
    text := String.ofList (t.text.toList.take n)
    span := { t.span with
      endByte := t.span.startByte + n
      endLine := t.span.startLine
      endCol := t.span.startCol + n } }

end Token

/-! ## Ranks -/

namespace Rank

/-- The ranks of a token by its number. -/
def token (k : Nat) : Span :=
  ⟨8 * k + 4, 8 * k + 8, 0, 0, 0, 0⟩

/-- The ranks of the new line before a token. -/
def newline (k : Nat) : Span :=
  ⟨8 * k + 1, 8 * k + 2, 0, 0, 0, 0⟩

/-- The rank of what stands before a token, before or after the new line there. -/
def gap (k : Nat) (isAfterNewline : Bool) : Nat :=
  8 * k + if isAfterNewline then 2 else 0

end Rank

/-- A token with its ranks in place of its place. -/
def Token.ranked (k : Nat) (t : Token) : Token :=
  { t with span := Rank.token k, newline := t.newline.map fun _ => Rank.newline k }

/-- A comment with its text and place, and its rank among the tokens. -/
structure Comment where
  text : String
  span : Span
  rank : Nat
deriving DecidableEq, Repr, Inhabited

end GoSurvey.Go
