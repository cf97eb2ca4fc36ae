/-!
# Globs

Patterns for paths. A star or a question mark also stands for a slash. Two stars that fill a whole
component stand for any number of components. Matching goes by bytes.
-/

namespace GoSurvey

namespace Glob

/-- A part of a pattern. -/
inductive Token where
  /-- The character itself. -/
  | literal (c : Char)
  /-- Any byte. -/
  | any
  /-- Any bytes. -/
  | many
  /-- Any leading components. -/
  | leading
  /-- A slash and whatever follows. -/
  | trailing
  /-- A slash, or any components between two slashes. -/
  | between
  /-- A byte from some ranges of characters, or from none of them. -/
  | oneOf (negated : Bool) (ranges : List (Char × Char))
  /-- One of several patterns. -/
  | choice (alternatives : List (List Token))
deriving Inhabited

/-- Why a pattern makes no sense. -/
inductive Error where
  | unclosedClass
  | invalidRange (first last : Char)
  | unclosedGroup
  | unopenedGroup
  | danglingEscape
deriving DecidableEq, Repr, Inhabited

/-- What is wrong with a pattern, in words. -/
def Error.message : Error → String
  | .unclosedClass => "unclosed character class; missing ']'"
  | .invalidRange first last =>
    "invalid range; '" ++ String.singleton first ++ "' > '" ++ String.singleton last ++ "'"
  | .unclosedGroup =>
    "unclosed alternate group; missing '\x7d' (maybe escape '\x7b' with '[\x7b]'?)"
  | .unopenedGroup =>
    "unopened alternate group; missing '\x7b' (maybe escape '\x7d' with '[\x7d]'?)"
  | .danglingEscape => "dangling '\\'"

/-! ## Matching -/

/-- The bytes of a character. -/
def bytesOf (c : Char) : List UInt8 :=
  (String.singleton c).toUTF8.toList

/-- The bytes of a slash. -/
def slash : UInt8 := 47

/-- All ends of a list, the longest first. -/
def tails : List UInt8 → List (List UInt8)
  | [] => [[]]
  | b :: bs => (b :: bs) :: tails bs

/-- What is left after each slash. -/
def afterSlashes : List UInt8 → List (List UInt8)
  | [] => []
  | b :: bs => if b = slash then bs :: afterSlashes bs else afterSlashes bs

/-- The ranges of bytes that a range of characters stands for. A character of several bytes counts
as these bytes, of which the last starts the range and the first ends it. -/
def byteRanges (range : Char × Char) : List (UInt8 × UInt8) :=
  let single := fun b => (b, b)
  if range.1 = range.2 then (bytesOf range.1).map single
  else
    match (bytesOf range.1).reverse, bytesOf range.2 with
    | low :: before, high :: after => before.map single ++ (low, high) :: after.map single
    | _, _ => []

/-- Whether a byte belongs to some ranges of characters. -/
def inRanges (ranges : List (Char × Char)) (b : UInt8) : Bool :=
  (ranges.flatMap byteRanges).any fun (low, high) => low ≤ b && b ≤ high

/-- Cuts a beginning off a list. -/
def dropStart? : List UInt8 → List UInt8 → Option (List UInt8)
  | [], bs => some bs
  | _ :: _, [] => none
  | p :: ps, b :: bs => if p = b then dropStart? ps bs else none

mutual
/-- Whether a part of a pattern is a group without content. -/
def Token.isVoid : Token → Bool
  | .choice alternatives => areVoid alternatives
  | _ => false

/-- Whether parts of a pattern have no content. -/
def isVoid : List Token → Bool
  | [] => true
  | t :: ts => t.isVoid && isVoid ts

/-- Whether no alternative has content. -/
def areVoid : List (List Token) → Bool
  | [] => true
  | a :: as => isVoid a && areVoid as
end

mutual
/-- Whether a part of a pattern matches some beginning of a list and the rest satisfies `k`. -/
def Token.run (k : List UInt8 → Bool) (bs : List UInt8) : Token → Bool
  | .literal c => (dropStart? (bytesOf c) bs).any k
  | .any =>
    match bs with
    | [] => false
    | _ :: rest => k rest
  | .many => (tails bs).any k
  | .leading => k bs || (afterSlashes bs).any k
  | .trailing => (dropStart? [slash] bs).any fun rest => (tails rest).any k
  | .between => (dropStart? [slash] bs).any fun rest => k rest || (afterSlashes rest).any k
  | .oneOf negated ranges =>
    match bs with
    | [] => false
    | b :: rest => (inRanges ranges b != negated) && k rest
  | .choice alternatives =>
    if areVoid alternatives then k bs else runAny k bs alternatives

/-- Whether parts of a pattern, one after the other, match some beginning of a list and the rest
satisfies `k`. -/
def runAll (k : List UInt8 → Bool) (bs : List UInt8) : List Token → Bool
  | [] => k bs
  | t :: ts => t.run (fun rest => runAll k rest ts) bs

/-- Whether one of several alternatives does. Those without content do not count. -/
def runAny (k : List UInt8 → Bool) (bs : List UInt8) : List (List Token) → Bool
  | [] => false
  | a :: as => (!isVoid a && runAll k bs a) || runAny k bs as
end

end Glob

/-- A pattern. -/
structure Glob where
  tokens : List Glob.Token
deriving Inhabited

namespace Glob

/-- Whether a pattern matches a path as a whole. Two stars alone match everything. -/
def isMatch (g : Glob) (path : String) : Bool :=
  match g.tokens with
  | [.leading] => true
  | tokens => runAll List.isEmpty path.toUTF8.toList tokens

end Glob

end GoSurvey
