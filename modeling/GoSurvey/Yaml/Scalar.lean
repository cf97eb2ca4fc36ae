import GoSurvey.Yaml.Basic

/-!
# Scalars

A scalar may go over several lines. What stands between two of its words is a *gap*: blanks, which
are kept, or ends of lines, which are folded.
-/

namespace GoSurvey.Yaml

/-- What stands between two words of a scalar, latest first. -/
inductive Gap where
  | blanks (cs : List Char)
  /-- Ends of lines. The first one is missing if it was escaped. -/
  | lines (first : Option Char) (more : List Char)

namespace Gap

/-- No gap. -/
def none : Gap :=
  .blanks []

/-- Whether there is an end of a line. -/
def hasLines : Gap → Bool
  | .blanks _ => false
  | .lines _ _ => true

/-- Adds a blank. Blanks at the start of a line do not count. -/
def addBlank (c : Char) : Gap → Gap
  | .blanks cs => .blanks (c :: cs)
  | .lines first more => .lines first more

/-- Adds the end of a line. -/
def addLine (c : Char) : Gap → Gap
  | .blanks _ => .lines c []
  | .lines first more => .lines first (c :: more)

/-- What a gap stands for, latest first. A single line feed stands for a space. -/
def fold : Gap → List Char
  | .blanks cs => cs
  | .lines (some '\n') [] => [' ']
  | .lines (some '\n') more => more
  | .lines (some c) more => more ++ [c]
  | .lines Option.none more => more

end Gap

/-! ## Plain scalars -/

/-- Characters with a meaning of their own. -/
def indicators : List Char :=
  ['-', '?', ':', ',', '[', ']', '\x7b', '\x7d', '#', '&', '*', '!', '|', '>', '\'', '"',
    '%', '@', '\x60']

/-- Characters that end a plain scalar inside a flow collection. -/
def isFlowEnd (c : Char) : Bool :=
  c == ',' || c == '[' || c == ']' || c == '\x7b' || c == '\x7d'

/-- Whether a plain scalar can start here. -/
def startsPlain (inFlow : Bool) : List Char → Bool
  | [] => false
  | c :: rest =>
    if c == '-' then !isGap rest
    else if c == '?' || c == ':' then !inFlow && !isGap rest
    else !indicators.contains c && !isSpace c && !isBreak c

/-- Reads the words of a plain scalar. Further lines have to reach the margin. -/
def readPlain (inFlow : Bool) (margin : Nat) (text : List Char) (gap : Gap) (line column : Nat) :
    List Char → Option (List Char × Cursor)
  | [] => some (text, ⟨[], line, column, gap.hasLines⟩)
  | c :: cs =>
    let here : Cursor := ⟨c :: cs, line, column, gap.hasLines⟩
    if isBreak c then readPlain inFlow margin text (gap.addLine c) (line + 1) 0 cs
    else if isSpace c then
      if c == '\t' && gap.hasLines && column < margin then none
      else readPlain inFlow margin text (gap.addBlank c) line (column + 1) cs
    else
      let folded := gap.fold
      if gap.hasLines && (here.atMarker || (!inFlow && column < margin)) then some (text, here)
      else if c == '#' && !folded.isEmpty then some (text, here)
      else if c == ':' && isGap cs then some (text, here)
      else if inFlow && c == ':' && (cs.take 1).any (fun d => isFlowEnd d || d == '?') then none
      else if inFlow && isFlowEnd c then some (text, here)
      else readPlain inFlow margin (c :: (folded ++ text)) .none line (column + 1) cs

/-! ## Quoted scalars -/

/-- The value of a hexadecimal digit. -/
def hexDigit? (c : Char) : Option Nat :=
  if '0' ≤ c ∧ c ≤ '9' then some (c.toNat - 48)
  else if 'a' ≤ c ∧ c ≤ 'f' then some (c.toNat - 87)
  else if 'A' ≤ c ∧ c ≤ 'F' then some (c.toNat - 55)
  else none

/-- The character with a code given by hexadecimal digits. -/
def hexChar? (digits : List Char) : Option Char := do
  let n ← digits.foldlM (fun n c => (hexDigit? c).map (n * 16 + ·)) 0
  if n.isValidChar then some (Char.ofNat n) else none

/-- The character for a letter after a backslash. -/
def letterEscape? : Char → Option Char
  | '0' => some '\x00'
  | 'a' => some '\x07'
  | 'b' => some '\x08'
  | 't' | '\t' => some '\t'
  | 'n' => some '\n'
  | 'v' => some '\x0b'
  | 'f' => some '\x0c'
  | 'r' => some '\r'
  | 'e' => some '\x1b'
  | ' ' => some ' '
  | '"' => some '"'
  | '/' => some '/'
  | '\\' => some '\\'
  | 'N' => some '\u0085'
  | '_' => some '\u00a0'
  | 'L' => some '\u2028'
  | 'P' => some '\u2029'
  | _ => none

/-- How many digits follow a letter after a backslash. -/
def escapeWidth? : Char → Option Nat
  | 'x' => some 2
  | 'u' => some 4
  | 'U' => some 8
  | _ => none

/-- The character that an escape stands for, and how many characters it takes after the
backslash. -/
def escape? : List Char → Option (Char × Nat)
  | [] => none
  | c :: cs =>
    match escapeWidth? c with
    | some width =>
      if cs.length < width then none else (hexChar? (cs.take width)).map fun d => (d, width + 1)
    | none => (letterEscape? c).map fun d => (d, 1)

/-- Reads a quoted scalar up to its closing quote. The length of the text is fuel enough. -/
def readQuoted (quote : Char) : Nat → List Char → Gap → Cursor → Option (List Char × Cursor)
  | 0, _, _, _ => none
  | fuel + 1, text, gap, c =>
    match c.rest with
    | [] => none
    | x :: rest =>
      let whole := gap.fold ++ text
      if isBreak x then readQuoted quote fuel text (gap.addLine x) ⟨rest, c.line + 1, 0, false⟩
      else if isSpace x then readQuoted quote fuel text (gap.addBlank x) (c.drop 1)
      else if c.atMarker then none
      else if x == quote then
        if quote == '\'' && rest.head? == some '\'' then
          readQuoted quote fuel ('\'' :: whole) .none (c.drop 2)
        else some (whole, { c.drop 1 with fresh := false })
      else if x == '\\' && quote == '"' then
        match rest with
        | [] => none
        | y :: after =>
          if isBreak y then
            readQuoted quote fuel whole (.lines none []) ⟨after, c.line + 1, 0, false⟩
          else
            match escape? rest with
            | none => none
            | some (d, width) => readQuoted quote fuel (d :: whole) .none (c.drop (width + 1))
      else readQuoted quote fuel (x :: whole) .none (c.drop 1)

/-! ## All scalars -/

/-- Reads a scalar. -/
def readScalar (inFlow : Bool) (margin : Nat) (c : Cursor) :
    Option ((Bool × String) × Cursor) :=
  match c.rest with
  | [] => none
  | x :: _ =>
    if x == '"' || x == '\'' then
      (readQuoted x (c.rest.length + 1) [] .none (c.drop 1)).map fun (text, after) =>
        ((false, String.ofList text.reverse), after)
    else if startsPlain inFlow c.rest then
      (readPlain inFlow margin [] .none c.line c.column c.rest).map fun (text, after) =>
        ((true, String.ofList text.reverse), after)
    else none

/-- Keys are at most this long. -/
def keyLimit : Nat := 1024

/-- What follows the colon, if a scalar from one place to another is a key: it and the colon stand
on one line. -/
def afterColon? (inFlow : Bool) (start stop : Cursor) : Option Cursor :=
  let spaces := stop.rest.length - (skipSpaces stop.rest).length
  let c := stop.drop spaces
  match c.rest with
  | ':' :: rest =>
    if c.line == start.line && (inFlow || isGap rest) &&
        start.rest.length - c.rest.length ≤ keyLimit then
      some { c.drop 1 with fresh := false }
    else none
  | _ => none

end GoSurvey.Yaml
