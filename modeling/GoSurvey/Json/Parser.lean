import GoSurvey.Json.Value

/-!
# Reading JSON

A reader takes characters and gives a value with the characters that are left. The nesting depth is
bounded by the number of characters, which is the fuel `parse?` starts with.
-/

namespace GoSurvey.Json

/-- Whether a character may stand between tokens. -/
def isBlank (c : Char) : Bool :=
  c == ' ' || c == '\n' || c == '\r' || c == '\t'

/-- What is left after blanks. -/
def skip : List Char → List Char
  | [] => []
  | c :: cs => if isBlank c then skip cs else c :: cs

/-- The rest after an expected character. -/
def expect (c : Char) : List Char → Option (List Char)
  | [] => none
  | d :: cs => if d = c then some cs else none

/-- The rest after expected characters. -/
def expectAll : List Char → List Char → Option (List Char)
  | [], cs => some cs
  | w :: ws, cs => (expect w cs).bind (expectAll ws)

/-- The value of a hexadecimal digit. -/
def hexValue? (c : Char) : Option Nat :=
  if '0' ≤ c ∧ c ≤ '9' then some (c.toNat - '0'.toNat)
  else if 'a' ≤ c ∧ c ≤ 'f' then some (c.toNat - 'a'.toNat + 10)
  else if 'A' ≤ c ∧ c ≤ 'F' then some (c.toNat - 'A'.toNat + 10)
  else none

/-- The number four hexadecimal digits stand for. -/
def hex4? (a b c d : Char) : Option Nat := do
  return ((← hexValue? a) * 16 + (← hexValue? b)) * 256 + (← hexValue? c) * 16 + (← hexValue? d)

/-- The character a short escape stands for. -/
def unescape? (c : Char) : Option Char :=
  if c = '"' ∨ c = '\\' ∨ c = '/' then some c
  else if c = 'n' then some '\n'
  else if c = 'r' then some '\r'
  else if c = 't' then some '\t'
  else if c = 'b' then some (Char.ofNat 8)
  else if c = 'f' then some (Char.ofNat 12)
  else none

/-- The rest of a quoted text up to its closing quote. The characters read so far are passed along
in reverse. -/
def readText (seen : List Char) : List Char → Option (String × List Char)
  | [] => none
  | '"' :: cs => some (String.ofList seen.reverse, cs)
  | '\\' :: 'u' :: a :: b :: c :: d :: '\\' :: 'u' :: e :: f :: g :: h :: cs => do
    let high ← hex4? a b c d
    if 0xD800 ≤ high ∧ high < 0xDC00 then
      let low ← hex4? e f g h
      if 0xDC00 ≤ low ∧ low < 0xE000 then
        readText (Char.ofNat (0x10000 + (high - 0xD800) * 0x400 + (low - 0xDC00)) :: seen) cs
      else none
    else if 0xDC00 ≤ high ∧ high < 0xE000 then none
    else readText (Char.ofNat high :: seen) ('\\' :: 'u' :: e :: f :: g :: h :: cs)
  | '\\' :: 'u' :: a :: b :: c :: d :: cs => do
    let n ← hex4? a b c d
    if 0xD800 ≤ n ∧ n < 0xE000 then none else readText (Char.ofNat n :: seen) cs
  | '\\' :: e :: cs => do readText ((← unescape? e) :: seen) cs
  | c :: cs => if c = '\\' ∨ c.toNat < 32 then none else readText (c :: seen) cs

/-- The leading decimal digits and what follows them. -/
def digits (cs : List Char) : List Char × List Char :=
  (cs.takeWhile Char.isDigit, cs.dropWhile Char.isDigit)

/-- The number that decimal digits stand for. -/
def digitsValue (ds : List Char) : Nat :=
  ds.foldl (fun n d => 10 * n + (d.toNat - '0'.toNat)) 0

/-- A number `± mantissa · 10 ^ exponent` as a double. It is assumed that numbers are read exactly:
the decimal is rounded once, to the nearest double. A reader that first rounds the mantissa and then
scales it can be off by a unit in the last place. -/
def scientific (negative : Bool) (mantissa : Nat) (exponent : Int) : Float :=
  let x := Float.ofScientific mantissa (exponent < 0) exponent.natAbs
  if negative then -x else x

/-- The exponent after its mark: a sign that may be missing, then digits. -/
def readPower : List Char → Option (Int × List Char)
  | '-' :: cs => match digits cs with
    | ([], _) => none
    | (ds, rest) => some (-(digitsValue ds : Int), rest)
  | cs =>
    let cs := match cs with
      | '+' :: cs => cs
      | cs => cs
    match digits cs with
    | ([], _) => none
    | (ds, rest) => some ((digitsValue ds : Int), rest)

/-- A whole number if it fits into sixty-four bits and is not a negative zero, and else a double. -/
def ofWhole (negative : Bool) (n : Nat) : Json :=
  if negative then
    if 0 < n ∧ n ≤ Nat.pow 2 63 then .int (-(n : Int)) else .float (scientific true n 0)
  else if n < Nat.pow 2 64 then .int n else .float (scientific false n 0)

/-- A number without its sign. -/
def readNumber (negative : Bool) (cs : List Char) : Option (Json × List Char) :=
  let (whole, rest) := digits cs
  if whole = [] ∨ (whole.head? = some '0' ∧ whole.length ≠ 1) then none
  else
    let (fraction, rest, pointed) := match rest with
      | '.' :: more => ((digits more).1, (digits more).2, true)
      | rest => ([], rest, false)
    if pointed ∧ fraction = [] then none
    else
      let mantissa := digitsValue (whole ++ fraction)
      let shift := -(fraction.length : Int)
      match rest with
      | 'e' :: more | 'E' :: more => do
        let (power, rest) ← readPower more
        return (.float (scientific negative mantissa (shift + power)), rest)
      | rest =>
        if pointed then some (.float (scientific negative mantissa shift), rest)
        else some (ofWhole negative mantissa, rest)

mutual
/-- One value, blanks before it allowed. -/
def readValue : Nat → List Char → Option (Json × List Char)
  | 0, _ => none
  | n + 1, cs =>
    match skip cs with
    | '"' :: cs => (readText [] cs).map fun (s, rest) => (.string s, rest)
    | '[' :: cs =>
      match skip cs with
      | ']' :: rest => some (.array [], rest)
      | cs => do
        let (j, rest) ← readValue n cs
        let (js, rest) ← readItems n rest
        return (.array (j :: js), rest)
    | '\x7b' :: cs =>
      match skip cs with
      | '\x7d' :: rest => some (.object [], rest)
      | cs => do
        let (f, rest) ← readField n cs
        let (fs, rest) ← readFields n rest
        return (.object (f :: fs), rest)
    | 't' :: cs => (expectAll "rue".toList cs).map (.bool true, ·)
    | 'f' :: cs => (expectAll "alse".toList cs).map (.bool false, ·)
    | 'n' :: cs => (expectAll "ull".toList cs).map (.null, ·)
    | '-' :: cs => readNumber true cs
    | cs => readNumber false cs

/-- The items after the first one, up to the closing bracket. -/
def readItems : Nat → List Char → Option (List Json × List Char)
  | 0, _ => none
  | n + 1, cs =>
    match skip cs with
    | ']' :: rest => some ([], rest)
    | ',' :: cs => do
      let (j, rest) ← readValue n cs
      let (js, rest) ← readItems n rest
      return (j :: js, rest)
    | _ => none

/-- A key, a colon and a value. -/
def readField : Nat → List Char → Option ((String × Json) × List Char)
  | 0, _ => none
  | n + 1, cs => do
    let cs ← expect '"' (skip cs)
    let (k, cs) ← readText [] cs
    let cs ← expect ':' (skip cs)
    let (j, rest) ← readValue n cs
    return ((k, j), rest)

/-- The fields after the first one, up to the closing brace. -/
def readFields : Nat → List Char → Option (List (String × Json) × List Char)
  | 0, _ => none
  | n + 1, cs =>
    match skip cs with
    | '\x7d' :: rest => some ([], rest)
    | ',' :: cs => do
      let (f, rest) ← readField n cs
      let (fs, rest) ← readFields n rest
      return (f :: fs, rest)
    | _ => none
end

/-- The value a text stands for, if it is JSON. -/
def parse? (text : String) : Option Json :=
  let cs := text.toList
  match readValue (2 * cs.length + 2) cs with
  | some (j, rest) => if skip rest = [] then some j else none
  | none => none

end GoSurvey.Json
