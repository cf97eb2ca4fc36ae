/-!
# YAML values

A document of the part of YAML that settings are written in: block and flow lists and mappings, and
plain and quoted scalars.

The text is read by a cursor that knows its line and column. Keys and the dashes of block lists may
only stand where nothing else has come before them on the line; the cursor is *fresh* there.
-/

namespace GoSurvey.Yaml

/-- A value. Only a plain scalar can stand for something else than a text. -/
inductive Value where
  | scalar (plain : Bool) (text : String)
  | list (items : List Value)
  | mapping (fields : List (String × Value))
deriving Inhabited

namespace Value

/-- The value of a place where nothing is written. -/
def empty : Value :=
  .scalar true ""

/-- Whether nothing is written in the place of a value. -/
def isEmpty : Value → Bool
  | .scalar true "" => true
  | _ => false

end Value

/-- A place in a text. -/
structure Cursor where
  rest : List Char
  line : Nat := 0
  column : Nat := 0
  fresh : Bool := true

/-! ## Classes of characters -/

/-- Whether a character ends a line. -/
def isBreak (c : Char) : Bool :=
  c == '\n' || c == '\u2028' || c == '\u2029'

/-- Whether a character is a blank. -/
def isSpace (c : Char) : Bool :=
  c == ' ' || c == '\t'

/-- Whether a text ends or goes on with a blank or a new line. -/
def isGap : List Char → Bool
  | [] => true
  | c :: _ => isSpace c || isBreak c

/-- Whether a document may have a character. -/
def isAllowed (c : Char) : Bool :=
  let n := c.toNat
  n == 0x9 || n == 0xA || n == 0xD || n == 0x85 ||
    (0x20 ≤ n && n ≤ 0x7E) || (0xA0 ≤ n && n ≤ 0xFFFD && n != 0xFEFF) || 0x10000 ≤ n

/-- Line feeds in place of all ends of lines that are not kept as they are. -/
def unifyBreaks : List Char → List Char
  | '\r' :: '\n' :: cs => '\n' :: unifyBreaks cs
  | '\r' :: cs => '\n' :: unifyBreaks cs
  | '\u0085' :: cs => '\n' :: unifyBreaks cs
  | c :: cs => c :: unifyBreaks cs
  | [] => []

namespace Cursor

/-- Takes the first characters of the line. -/
def drop (c : Cursor) (n : Nat) : Cursor :=
  { c with rest := c.rest.drop n, column := c.column + n }

/-- Whether a line starts with three dashes or three dots that divide documents. -/
def atMarker (c : Cursor) : Bool :=
  c.column == 0 &&
    match c.rest with
    | '-' :: '-' :: '-' :: rest => isGap rest
    | '.' :: '.' :: '.' :: rest => isGap rest
    | _ => false

/-- Whether a document ends. -/
def atEnd (c : Cursor) : Bool :=
  c.rest.isEmpty || c.atMarker

/-- Whether a dash starts the item of a block list. -/
def atDash (c : Cursor) : Bool :=
  match c.rest with
  | '-' :: rest => isGap rest
  | _ => false

end Cursor

/-- Skips a comment. -/
def skipComment : List Char → List Char
  | [] => []
  | c :: cs => if isBreak c then c :: cs else skipComment cs

/-- Skips blanks, comments and ends of lines. A tab does not count as a blank where a key could
stand. The length of the text is fuel enough. -/
def skipFrom (inFlow : Bool) : Nat → Cursor → Cursor
  | 0, c => c
  | fuel + 1, c =>
    match c.rest with
    | [] => c
    | x :: rest =>
      if x == ' ' || (x == '\t' && (inFlow || !c.fresh)) then
        skipFrom inFlow fuel { c with rest, column := c.column + 1 }
      else if x == '#' then skipFrom inFlow fuel { c with rest := skipComment rest }
      else if isBreak x then
        skipFrom inFlow fuel ⟨rest, c.line + 1, 0, c.fresh || !inFlow⟩
      else c

/-- Skips to the next thing that counts. -/
def Cursor.skip (inFlow : Bool) (c : Cursor) : Cursor :=
  skipFrom inFlow (c.rest.length + 1) c

/-- Skips blanks on a line. -/
def skipSpaces : List Char → List Char
  | [] => []
  | c :: cs => if isSpace c then skipSpaces cs else c :: cs

end GoSurvey.Yaml
