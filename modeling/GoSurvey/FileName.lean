/-!
# Names of files

A file or a directory has a name of bytes, which need not be the UTF-8 of any text. Names are
compared, looked up and sorted by their bytes. They are shown as texts, in which a replacement
character stands for bytes that are no part of a character.
-/

namespace GoSurvey

/-! ## Bytes as a text -/

namespace Utf8

/-- The first bytes of a character: the bits they hold, the number of bytes that come after the next
one, and the range of the next one. -/
structure Pending where
  bits : Nat
  left : Nat
  low : Nat
  high : Nat

/-- The character that stands for bytes that are no part of one. -/
def replacement : Char := '\uFFFD'

/-- What the first byte of a character of several bytes leaves pending. Bytes that would start an
overlong form, a surrogate or a number above all characters are told by the range of the next. -/
def lead? (b : Nat) : Option Pending :=
  if b < 0xC2 then none
  else if b < 0xE0 then some ⟨b - 0xC0, 0, 0x80, 0xBF⟩
  else if b < 0xF0 then
    some ⟨b - 0xE0, 1, if b = 0xE0 then 0xA0 else 0x80, if b = 0xED then 0x9F else 0xBF⟩
  else if b < 0xF5 then
    some ⟨b - 0xF0, 2, if b = 0xF0 then 0x90 else 0x80, if b = 0xF4 then 0x8F else 0xBF⟩
  else none

/-- Reads a byte where a character may start: the characters it gives, and what is pending. -/
def begin (b : Nat) : List Char × Option Pending :=
  if b < 0x80 then ([Char.ofNat b], none)
  else
    match lead? b with
    | some p => ([], some p)
    | none => ([replacement], none)

/-- Reads a byte. One that does not go on with what is pending ends it and starts anew. -/
def step : Option Pending → Nat → List Char × Option Pending
  | none, b => begin b
  | some p, b =>
    if p.low ≤ b ∧ b ≤ p.high then
      let bits := p.bits * 0x40 + (b - 0x80)
      match p.left with
      | 0 => ([Char.ofNat bits], none)
      | left + 1 => ([], some ⟨bits, left, 0x80, 0xBF⟩)
    else (replacement :: (begin b).1, (begin b).2)

/-- The characters of some bytes after what is pending. -/
def decode : Option Pending → List UInt8 → List Char
  | none, [] => []
  | some _, [] => [replacement]
  | pending, b :: bs => (step pending b.toNat).1 ++ decode (step pending b.toNat).2 bs

end Utf8

/-! ## Names -/

/-- The name of a file or a directory. -/
structure FileName where
  bytes : List UInt8
deriving DecidableEq, Repr, Inhabited

namespace FileName

/-- The name that a text is. -/
def ofString (s : String) : FileName :=
  ⟨s.toList.flatMap String.utf8EncodeChar⟩

instance : Coe String FileName :=
  ⟨ofString⟩

instance : Ord FileName :=
  ⟨compareOn bytes⟩

/-- The text by which a name is shown. -/
def shown (n : FileName) : String :=
  String.ofList (Utf8.decode none n.bytes)

/-- The text that a name is, if it is one. -/
def text? (n : FileName) : Option String :=
  if ofString n.shown = n then some n.shown else none

/-- The part of a name after its last dot, if that is a text. A dot at the start does not count. -/
def extension (n : FileName) : String :=
  let tail := (n.bytes.reverse.takeWhile (· != 0x2E)).reverse
  if n.bytes.length ≤ tail.length + 1 ∨ n = ".." then "" else (text? ⟨tail⟩).getD ""

end FileName

end GoSurvey
