import GoSurvey.Go.Rune
import GoSurvey.Go.Token
import GoSurvey.Text.Identifier

/-!
# Lexing

Each lexeme is the longest one that starts at its place. The functions for the single classes give
the number of runes of the lexeme at the start of a text, and zero if there is none.

The character with code zero belongs to no lexeme but its own, not even inside quotes or comments.
-/

namespace GoSurvey.Go.Lexer

/-- Whether a text starts with a character of a class. -/
def ahead (p : Char → Bool) : List Rune → Bool
  | [] => false
  | r :: _ => r.satisfies p

/-- Whether a text starts with a certain character. -/
def aheadIs (c : Char) : List Rune → Bool :=
  ahead (· == c)

/-- Whether a text starts with the characters of a string. -/
def startsWith : List Char → List Rune → Bool
  | [], _ => true
  | _ :: _, [] => false
  | c :: cs, r :: rs => r.is c && startsWith cs rs

/-- The characters that separate tokens. -/
def isSpace (c : Char) : Bool :=
  c == ' ' || (9 ≤ c.toNat && c.toNat ≤ 13)

/-- A length after some runes, if it is not zero. -/
def further (n m : Nat) : Nat :=
  if m = 0 then 0 else n + m

/-- A length that follows another one, if neither is zero. -/
def andThen (n : Nat) (rest : List Rune → Nat) (rs : List Rune) : Nat :=
  if n = 0 then 0 else further n (rest (rs.drop n))

/-! ## Words and numbers -/

/-- A word: a letter or an underscore, then letters, digits and underscores. -/
def word (rs : List Rune) : Nat :=
  if ahead Text.isIdentifierStart rs then (rs.takeWhile (·.satisfies Text.isIdentifierPart)).length
  else 0

/-- Whether a character is a hexadecimal digit. -/
def isHex (c : Char) : Bool :=
  c.isDigit || ('a' ≤ c && c ≤ 'f') || ('A' ≤ c && c ≤ 'F')

/-- Whether a character is an octal digit. -/
def isOctal (c : Char) : Bool :=
  '0' ≤ c && c ≤ '7'

/-- Whether a character is a binary digit. -/
def isBinary (c : Char) : Bool :=
  c == '0' || c == '1'

/-- Digits of a class, with single underscores between them. -/
def digits (p : Char → Bool) : List Rune → Nat
  | [] => 0
  | [r] => if r.satisfies p then 1 else 0
  | r :: s :: rs =>
    if r.satisfies p then
      if s.is '_' then (if ahead p rs then 2 + digits p rs else 1)
      else 1 + digits p (s :: rs)
    else 0

/-- Digits that an underscore may precede. -/
def digitsAfterBar (p : Char → Bool) (rs : List Rune) : Nat :=
  if aheadIs '_' rs then andThen 1 (digits p) rs else digits p rs

/-- A zero, one of two letters, and digits of a class. -/
def radix (lower upper : Char) (p : Char → Bool) (rs : List Rune) : Nat :=
  if startsWith ['0', lower] rs || startsWith ['0', upper] rs then
    andThen 2 (digitsAfterBar p) rs
  else 0

/-- A whole number. -/
def int (rs : List Rune) : Nat :=
  let decimal :=
    if aheadIs '0' rs then 1
    else if ahead Char.isDigit rs then 1 + digitsAfterBar Char.isDigit (rs.drop 1)
    else 0
  let octal := if aheadIs '0' rs then andThen 1 (digitsAfterBar isOctal) rs else 0
  max (max decimal octal)
    (max (radix 'x' 'X' isHex rs) (max (radix 'o' 'O' isOctal rs) (radix 'b' 'B' isBinary rs)))

/-- An exponent with one of two marks. -/
def exponent (lower upper : Char) (rs : List Rune) : Nat :=
  if aheadIs lower rs || aheadIs upper rs then
    let sign := if ahead (fun c => c == '+' || c == '-') (rs.drop 1) then 1 else 0
    andThen (1 + sign) (digits Char.isDigit) rs
  else 0

/-- A point and the digits that may follow it. -/
def fraction (p : Char → Bool) (rs : List Rune) : Nat :=
  if aheadIs '.' rs then 1 + digits p (rs.drop 1) else 0

/-- A decimal number with a point or an exponent. -/
def decimalFloat (rs : List Rune) : Nat :=
  let whole := digits Char.isDigit rs
  let point := fraction Char.isDigit (rs.drop whole)
  let mantissa := whole + point
  let power := exponent 'e' 'E' (rs.drop mantissa)
  if whole = 0 ∧ point ≤ 1 then 0
  else if point = 0 ∧ power = 0 then 0
  else mantissa + power

/-- A hexadecimal number with an exponent. -/
def hexFloat (rs : List Rune) : Nat :=
  if startsWith ['0', 'x'] rs || startsWith ['0', 'X'] rs then
    let whole := digitsAfterBar isHex (rs.drop 2)
    let point := fraction isHex (rs.drop (2 + whole))
    if whole = 0 ∧ point ≤ 1 then 0 else andThen (2 + whole + point) (exponent 'p' 'P') rs
  else 0

/-- A number with a point or an exponent. -/
def float (rs : List Rune) : Nat :=
  max (decimalFloat rs) (hexFloat rs)

/-- The letter that marks an imaginary number. -/
def imaginaryMark (rs : List Rune) : Nat :=
  if aheadIs 'i' rs then 1 else 0

/-- An imaginary number. -/
def imaginary (rs : List Rune) : Nat :=
  max (andThen (digits Char.isDigit rs) imaginaryMark rs)
    (max (andThen (int rs) imaginaryMark rs) (andThen (float rs) imaginaryMark rs))

/-! ## Quoted text -/

/-- The characters that end nothing but their own lexeme. -/
def isNul (r : Rune) : Bool :=
  r.is (Char.ofNat 0)

/-- Whether a text starts with a number of characters of a class. -/
def aheadMany (p : Char → Bool) (n : Nat) (rs : List Rune) : Bool :=
  (rs.take n).length == n && (rs.take n).all (·.satisfies p)

/-- Whether the character after a backslash is complete with what follows. -/
def escapeFits (r : Rune) (rest : List Rune) : Bool :=
  if r.is 'x' then aheadMany isHex 2 rest
  else if r.is 'u' then aheadMany isHex 4 rest
  else if r.is 'U' then aheadMany isHex 8 rest
  else !isNul r

/-- What follows an opening quote, up to and including the closing one. -/
def stringRest : List Rune → Nat
  | [] => 0
  | [r] => if r.is '"' then 1 else 0
  | r :: s :: rs =>
    if r.is '"' then 1
    else if r.is '\n' || isNul r then 0
    else if r.is '\\' then (if escapeFits s rs then further 2 (stringRest rs) else 0)
    else further 1 (stringRest (s :: rs))

/-- A text in quotes. -/
def string (rs : List Rune) : Nat :=
  if aheadIs '"' rs then andThen 1 stringRest rs else 0

/-- Everything up to and including a character, unless the character with code zero comes first. -/
def through (c : Char) : List Rune → Nat
  | [] => 0
  | r :: rs =>
    if r.is c then 1
    else if isNul r then 0
    else further 1 (through c rs)

/-- A text in back quotes. -/
def rawString (rs : List Rune) : Nat :=
  if aheadIs (Char.ofNat 96) rs then andThen 1 (through (Char.ofNat 96)) rs else 0

/-- The one character, or the escape, inside a rune literal. -/
def runeBody (rs : List Rune) : Nat :=
  match rs with
  | [] => 0
  | r :: rest =>
    if r.is '\\' then
      if aheadIs 'x' rest then (if aheadMany isHex 2 (rest.drop 1) then 4 else 0)
      else if aheadIs 'u' rest then (if aheadMany isHex 4 (rest.drop 1) then 6 else 0)
      else if aheadIs 'U' rest then (if aheadMany isHex 8 (rest.drop 1) then 10 else 0)
      else if aheadMany isOctal 3 rest then 4
      else if ahead (fun c => "abfnrtv\\'\"".toList.contains c) rest then 2
      else 0
    else if r.is '\'' || isNul r then 0
    else 1

/-- The quote that closes a rune literal. -/
def closingQuote (rs : List Rune) : Nat :=
  if aheadIs '\'' rs then 1 else 0

/-- A rune literal. -/
def rune (rs : List Rune) : Nat :=
  if aheadIs '\'' rs then andThen (andThen 1 runeBody rs) closingQuote rs else 0

/-! ## Comments and operators -/

/-- What follows the start of a bracketed comment, up to and including its end. -/
def commentRest : List Rune → Nat
  | [] => 0
  | r :: rs =>
    if isNul r then 0
    else if r.is '*' && aheadIs '/' rs then 2
    else further 1 (commentRest rs)

/-- A comment, up to the end of the line or in brackets. -/
def comment (rs : List Rune) : Nat :=
  if startsWith ['/', '/'] rs then (rs.takeWhile fun r => !(r.is '\n' || isNul r)).length
  else if startsWith ['/', '*'] rs then andThen 2 commentRest rs
  else 0

/-- The operators and delimiters, longer ones first. -/
def marks : List String :=
  ["<<=", ">>=", "&^=", "...",
   "&&", "||", "<-", "++", "--", "==", "!=", "<=", ">=", ":=", "<<", ">>", "&^",
   "+=", "-=", "*=", "/=", "%=", "&=", "|=", "^=",
   "+", "-", "*", "/", "%", "&", "|", "^", "<", ">", "=", "!", "~",
   "(", ")", "[", "]", "\x7b", "\x7d", ",", ";", ".", ":"]

/-- An operator or a delimiter. -/
def mark (rs : List Rune) : Nat :=
  match marks.find? fun m => startsWith m.toList rs with
  | some m => m.length
  | none => 0

/-! ## All lexemes of a source -/

/-- The first of the longest candidates; nothing if all of them are empty. -/
def longest (candidates : List (TokenKind × Nat)) : TokenKind × Nat :=
  candidates.foldl (fun best c => if best.2 < c.2 then c else best) (.stray, 0)

/-- All that a text may start with, operators and single characters apart. -/
def candidates (rs : List Rune) : List (TokenKind × Nat) :=
  [(.word, word rs), (.imaginary, imaginary rs), (.float, float rs), (.int, int rs),
   (.string, string rs), (.rawString, rawString rs), (.rune, rune rs)]

/-- The class and the length of the lexeme at the start of a text that is not empty. -/
def lexeme (rs : List Rune) : TokenKind × Nat :=
  let best := longest (candidates rs)
  if best.2 = 0 then
    match mark rs with
    | 0 => (if ahead (· == Char.ofNat 0) rs then .nul else .stray, 1)
    | n => (.mark, n)
  else best

/-- What a piece of a text is. -/
inductive Piece where
  | blank
  | comment
  | token (kind : TokenKind)
deriving DecidableEq, Repr, Inhabited

/-- What stands at the start of a text that is not empty, and its length. -/
def piece (rs : List Rune) : Piece × Nat :=
  if ahead isSpace rs then (.blank, 1)
  else
    match comment rs with
    | 0 =>
      let (kind, n) := lexeme rs
      (.token kind, n)
    | n => (.comment, n)

/-- What has been read so far, latest first, and the first new line since the last token. -/
structure State where
  place : Place
  newline : Option Span
  tokens : List Token
  comments : List Comment

namespace State

/-- Nothing read yet. -/
def start : State :=
  ⟨.start, none, [], []⟩

/-- Passes blanks. -/
def blank (rs : List Rune) (s : State) : State :=
  let next := s.place.afterAll rs
  let newline :=
    if rs.any (·.is '\n') then s.newline.or (some (s.place.spanTo next)) else s.newline
  { s with place := next, newline }

/-- Adds a comment. -/
def comment (rs : List Rune) (s : State) : State :=
  let next := s.place.afterAll rs
  let rank := Rank.gap s.tokens.length s.newline.isSome
  { s with place := next, comments := ⟨Rune.text rs, s.place.spanTo next, rank⟩ :: s.comments }

/-- Adds a token. -/
def token (kind : TokenKind) (rs : List Rune) (s : State) : State :=
  let next := s.place.afterAll rs
  { s with
    place := next, newline := none
    tokens := ⟨kind, Rune.text rs, s.place.spanTo next, s.newline⟩ :: s.tokens }

/-- Takes a piece of a text. -/
def pass (p : Piece) (rs : List Rune) (s : State) : State :=
  match p with
  | .blank => s.blank rs
  | .comment => s.comment rs
  | .token kind => s.token kind rs

end State

/-- Reads pieces to the end of a text. Each takes at least one rune, so the number of runes is fuel
enough. -/
def run : Nat → State → List Rune → State
  | 0, s, _ => s
  | _ + 1, s, [] => s
  | fuel + 1, s, r :: rs =>
    let (p, n) := piece (r :: rs)
    run fuel (s.pass p ((r :: rs).take n)) ((r :: rs).drop n)

/-- Reads a text to its end. -/
def readAll (s : State) (rs : List Rune) : State :=
  run rs.length s rs

/-- A byte order mark, which may open a file. -/
def byteOrderMark : Char :=
  Char.ofNat 0xFEFF

/-- Passes a byte order mark at the start of a text, and gives what is left of the text. -/
def opened : List Rune → State × List Rune
  | [] => (State.start, [])
  | r :: rs =>
    if r.is byteOrderMark then ({ State.start with place := Place.start.after r }, rs)
    else (State.start, r :: rs)

/-- The tokens of a source, with one for its end, and its comments. -/
def lex (source : List UInt8) : List Token × List Comment :=
  let opening := opened (Rune.decode source)
  let s := (readAll opening.1 opening.2).token .eof []
  (s.tokens.reverse, s.comments.reverse)

end GoSurvey.Go.Lexer
