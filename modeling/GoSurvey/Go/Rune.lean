import GoSurvey.Code.Span

/-!
# Runes

Source text is decoded rune by rune. A byte that is no part of well-formed UTF-8 stands for itself,
as a rune without a character.
-/

namespace GoSurvey.Go

/-- A decoded character, or a byte that could not be decoded, and its length in bytes. -/
structure Rune where
  char? : Option Char
  size : Nat
deriving DecidableEq, Repr, Inhabited

namespace Rune

/-- Whether a rune is a certain character. -/
def is (c : Char) (r : Rune) : Bool :=
  r.char? == some c

/-- Whether a rune is a character of a class. -/
def satisfies (p : Char → Bool) (r : Rune) : Bool :=
  match r.char? with
  | some c => p c
  | none => false

/-- The payload of a byte that continues a character. -/
def continuation? (b : UInt8) : Option Nat :=
  if 0x80 ≤ b.toNat ∧ b.toNat < 0xC0 then some (b.toNat - 0x80) else none

/-- A scalar value that is at least `low`, the least one that needs that many bytes. -/
def scalar? (low n : Nat) : Option Char :=
  if low ≤ n then (if h : n.isValidChar then some (Char.ofNatAux n h) else none) else none

/-- A number that some bytes continue: a given number of them add six bits each. -/
def continued? : Nat → Nat → List UInt8 → Option Nat
  | 0, high, _ => some high
  | _ + 1, _, [] => none
  | count + 1, high, b :: bs => do continued? count (high * 0x40 + (← continuation? b)) bs

/-- A character of several bytes, from the payload of the first one and the number of the others. -/
def wide? (low count high : Nat) (bs : List UInt8) : Option (Char × Nat) := do
  return (← scalar? low (← continued? count high bs), count + 1)

/-- The character at the start of some bytes, and its length. -/
def first? : List UInt8 → Option (Char × Nat)
  | [] => none
  | b :: bs =>
    let n := b.toNat
    if n < 0x80 then some (Char.ofNat n, 1)
    else if n < 0xC0 then none
    else if n < 0xE0 then wide? 0x80 1 (n - 0xC0) bs
    else if n < 0xF0 then wide? 0x800 2 (n - 0xE0) bs
    else if n < 0xF8 then wide? 0x10000 3 (n - 0xF0) bs
    else none

/-- Decodes bytes, of which the first few may belong to a character that is already decoded. -/
def decodeFrom (skipped : Nat) : List UInt8 → List Rune
  | [] => []
  | b :: bs =>
    match skipped with
    | k + 1 => decodeFrom k bs
    | 0 =>
      match first? (b :: bs) with
      | some (c, size) => ⟨some c, size⟩ :: decodeFrom (size - 1) bs
      | none => ⟨none, 1⟩ :: decodeFrom 0 bs

/-- All runes of some bytes. -/
def decode (bytes : List UInt8) : List Rune :=
  decodeFrom 0 bytes

/-- The text of some runes; it is empty if a byte among them could not be decoded. -/
def text (rs : List Rune) : String :=
  match rs.mapM (·.char?) with
  | some cs => String.ofList cs
  | none => ""

end Rune

/-- A place between two runes. -/
structure Place where
  byte : Nat
  line : Nat
  col : Nat
deriving DecidableEq, Repr, Inhabited

namespace Place

/-- The start of a file. -/
def start : Place :=
  ⟨0, 1, 1⟩

/-- The place after a rune. -/
def after (p : Place) (r : Rune) : Place :=
  if r.is '\n' then ⟨p.byte + r.size, p.line + 1, 1⟩
  else ⟨p.byte + r.size, p.line, p.col + r.size⟩

/-- The place after some runes. -/
def afterAll (p : Place) (rs : List Rune) : Place :=
  rs.foldl after p

/-- The span between two places. -/
def spanTo (p q : Place) : Span :=
  ⟨p.byte, q.byte, p.line, p.col, q.line, q.col⟩

end Place

end GoSurvey.Go
