import GoSurvey.Json.Value
import GoSurvey.Decimal.Shortest

/-!
# JSON text

`compact` writes a value without any blank, `pretty` puts every item on a line of its own and
indents it by two blanks a level. Both write the same tokens.
-/

namespace GoSurvey.Json

/-- Numbers are positional from five places below one up to sixteen digits. -/
def layout : Decimal.Layout := ⟨-5, 15⟩

/-- The digit of a number below sixteen. -/
def hexDigit (n : Nat) : Char :=
  (Nat.toDigits 16 n).headD '0'

/-- How a character is written inside quotes. -/
def escape (c : Char) : List Char :=
  if c = '"' then ['\\', '"']
  else if c = '\\' then ['\\', '\\']
  else if c = '\n' then ['\\', 'n']
  else if c = '\r' then ['\\', 'r']
  else if c = '\t' then ['\\', 't']
  else if c.toNat = 8 then ['\\', 'b']
  else if c.toNat = 12 then ['\\', 'f']
  else if c.toNat < 32 then ['\\', 'u', '0', '0', hexDigit (c.toNat / 16), hexDigit (c.toNat % 16)]
  else [c]

/-- A text in quotes. -/
def quote (s : String) : List Char :=
  '"' :: (s.toList.flatMap escape ++ ['"'])

/-- A whole number. -/
def writeInt (n : Int) : List Char :=
  if n < 0 then '-' :: Nat.toDigits 10 n.natAbs else Nat.toDigits 10 n.natAbs

/-- A double; one that is not finite is written as `null`. -/
def writeFloat (x : Float) : List Char :=
  (layout.text? x).getD "null".toList

/-- The values without parts. -/
def writeAtom : Json → List Char
  | .null => "null".toList
  | .bool true => "true".toList
  | .bool false => "false".toList
  | .int n => writeInt n
  | .float x => writeFloat x
  | .string s => quote s
  | .array _ => "[]".toList
  | .object _ => "\x7b\x7d".toList

/-! ## Without blanks -/

mutual
/-- The characters of a value. -/
def compactChars : Json → List Char
  | .array (j :: js) => '[' :: (j.compactChars ++ compactItems js ++ [']'])
  | .object ((k, j) :: fs) =>
    '\x7b' :: (quote k ++ ':' :: (j.compactChars ++ compactFields fs ++ ['\x7d']))
  | j => writeAtom j

/-- Further items, each after a comma. -/
def compactItems : List Json → List Char
  | [] => []
  | j :: js => ',' :: (j.compactChars ++ compactItems js)

/-- Further fields, each after a comma. -/
def compactFields : List (String × Json) → List Char
  | [] => []
  | (k, j) :: fs => ',' :: (quote k ++ ':' :: (j.compactChars ++ compactFields fs))
end

/-- The text of a value on one line. -/
def compact (j : Json) : String :=
  String.ofList j.compactChars

/-! ## One item a line -/

/-- A new line at the given level. -/
def newline (level : Nat) : List Char :=
  '\n' :: List.replicate (2 * level) ' '

mutual
/-- The characters of a value whose own line stands at `level`. -/
def prettyChars (level : Nat) : Json → List Char
  | .array (j :: js) =>
    '[' :: (newline (level + 1) ++ j.prettyChars (level + 1) ++ prettyItems (level + 1) js
      ++ newline level ++ [']'])
  | .object ((k, j) :: fs) =>
    '\x7b' :: (newline (level + 1) ++ quote k ++ ':' :: ' ' :: (j.prettyChars (level + 1)
      ++ prettyFields (level + 1) fs ++ newline level ++ ['\x7d']))
  | j => writeAtom j

/-- Further items, each after a comma and on a line of its own. -/
def prettyItems (level : Nat) : List Json → List Char
  | [] => []
  | j :: js => ',' :: (newline level ++ j.prettyChars level ++ prettyItems level js)

/-- Further fields, each after a comma and on a line of its own. -/
def prettyFields (level : Nat) : List (String × Json) → List Char
  | [] => []
  | (k, j) :: fs =>
    ',' :: (newline level ++ quote k ++ ':' :: ' ' :: (j.prettyChars level
      ++ prettyFields level fs))
end

/-- The text of a value with an item a line. -/
def pretty (j : Json) : String :=
  String.ofList (j.prettyChars 0)

end GoSurvey.Json
