/-!
# Places in a source file

A span is a half-open range of bytes together with the lines and columns of its two ends. Lines and
columns start at one, and a column counts bytes.
-/

namespace GoSurvey

/-- A range of source text. -/
structure Span where
  startByte : Nat
  endByte : Nat
  startLine : Nat
  startCol : Nat
  endLine : Nat
  endCol : Nat
deriving DecidableEq, Repr, Inhabited

namespace Span

/-- The number of lines a span touches, both ends included. A span that ends before it starts
touches none. -/
def lineCount (s : Span) : Nat :=
  if s.endLine < s.startLine then 0 else s.endLine - s.startLine + 1

/-- A span is shown by the place it starts at. -/
def display (s : Span) : String :=
  s!"{s.startLine}:{s.startCol}"

/-- The smallest span from the start of one to the end of another. -/
def cover (first last : Span) : Span where
  startByte := first.startByte
  endByte := last.endByte
  startLine := first.startLine
  startCol := first.startCol
  endLine := last.endLine
  endCol := last.endCol

/-- A span that starts no later than it ends touches at least one line. -/
theorem lineCount_pos {s : Span} (h : s.startLine ≤ s.endLine) : 0 < s.lineCount := by
  unfold lineCount
  split <;> omega

end Span

end GoSurvey
