import GoSurvey.Glob.Basic

/-!
# Reading globs

Groups may be nested. Each open group keeps the alternatives that are complete, and the parts of the
one being read are kept latest first.
-/

namespace GoSurvey.Glob

/-! ## Character classes -/

/-- A class being read: its ranges, latest first, and whether a dash waits for the end of a
range. -/
structure ClassState where
  ranges : List (Char × Char) := []
  first : Bool := true
  inRange : Bool := false

namespace ClassState

/-- Adds a character, which may end a range. -/
def add (s : ClassState) (c : Char) : Except Error ClassState :=
  match s.inRange, s.ranges with
  | true, (low, _) :: rest =>
    if c < low then .error (.invalidRange low c) else .ok ⟨(low, c) :: rest, false, false⟩
  | _, ranges => .ok ⟨(c, c) :: ranges, false, false⟩

/-- All ranges; a dash at the end stands for itself. -/
def finish (s : ClassState) : List (Char × Char) :=
  (if s.inRange then ('-', '-') :: s.ranges else s.ranges).reverse

end ClassState

/-- Reads a class up to its closing bracket. -/
def readClass (s : ClassState) : List Char → Except Error (List (Char × Char) × List Char)
  | [] => .error .unclosedClass
  | c :: cs =>
    if c = ']' ∧ s.first = false then .ok (s.finish, cs)
    else if c = '-' ∧ s.first = false ∧ s.inRange = false then
      readClass { s with inRange := true } cs
    else
      match s.add c with
      | .ok s => readClass s cs
      | .error e => .error e

/-- Reads what follows an opening bracket. -/
def readOneOf : List Char → Except Error (Token × List Char)
  | [] => .error .unclosedClass
  | c :: cs =>
    let negated := c = '!' ∨ c = '^'
    match readClass {} (if negated then cs else c :: cs) with
    | .ok (ranges, rest) => .ok (.oneOf negated ranges, rest)
    | .error e => .error e

/-! ## Whole patterns -/

/-- A group being read: its complete alternatives and the parts of the current one, both latest
first. -/
structure Frame where
  complete : List (List Token) := []
  current : List Token := []

/-- What has been read: the groups around the current place, innermost first, and the character
before it. -/
structure ParseState where
  frame : Frame := {}
  outer : List Frame := []
  previous : Option Char := none

namespace ParseState

/-- Adds a part. -/
def push (s : ParseState) (t : Token) : ParseState :=
  { s with frame := { s.frame with current := t :: s.frame.current } }

/-- Whether the current place is inside a group. -/
def inGroup (s : ParseState) : Bool :=
  !s.outer.isEmpty

/-- Opens a group. -/
def openGroup (s : ParseState) : ParseState :=
  { s with frame := {}, outer := s.frame :: s.outer }

/-- Ends an alternative. -/
def comma (s : ParseState) : ParseState :=
  if s.inGroup then
    { s with frame := ⟨s.frame.current.reverse :: s.frame.complete, []⟩ }
  else s.push (.literal ',')

/-- Closes a group. -/
def closeGroup (s : ParseState) : Except Error ParseState :=
  match s.outer with
  | [] => .error .unopenedGroup
  | frame :: outer =>
    let alternatives := (s.frame.current.reverse :: s.frame.complete).reverse
    .ok (push { s with frame, outer } (.choice alternatives))

/-- Adds what two stars between components stand for, in place of the slash before them. -/
def pushComponents (s : ParseState) (t : Token) : ParseState :=
  match s.frame.current with
  | .leading :: _ | .trailing :: _ => s
  | _ :: rest => { s with frame := { s.frame with current := t :: rest } }
  | [] => s.push t

end ParseState

/-- Whether a component can start after a character: after a slash, and inside a group also after a
comma or an opening brace. -/
def ParseState.atStart (s : ParseState) : Bool :=
  match s.previous with
  | some '/' => true
  | some ',' | some '\x7b' => s.inGroup
  | _ => false

/-- Adds two stars. They are special only if they fill a whole component; a slash after them is then
taken together with them. -/
def readStars (s : ParseState) (rest : List Char) : ParseState × List Char :=
  let stars (s : ParseState) := ({ s with previous := some '*' }, rest)
  let plain := stars ((s.push .many).push .many)
  if s.frame.current.isEmpty then
    match rest with
    | [] => stars (s.push .leading)
    | '/' :: after => ({ s.push .leading with previous := some '/' }, after)
    | _ => plain
  else if s.atStart then
    match rest with
    | [] => stars (s.pushComponents .trailing)
    | '/' :: after => ({ s.pushComponents .between with previous := some '/' }, after)
    | c :: _ =>
      if s.inGroup && (c == ',' || c == '\x7d') then stars (s.pushComponents .trailing) else plain
  else plain

/-- Reads parts to the end of a pattern. Each takes a character, so the length of the pattern is
fuel enough. -/
def readParts : Nat → ParseState → List Char → Except Error ParseState
  | 0, s, _ => .ok s
  | _ + 1, s, [] => .ok s
  | fuel + 1, s, c :: cs =>
    let after (s : ParseState) : ParseState := { s with previous := some c }
    match c, cs with
    | '?', _ => readParts fuel (after (s.push .any)) cs
    | '*', '*' :: rest =>
      let (s, rest) := readStars s rest
      readParts fuel s rest
    | '*', _ => readParts fuel (after (s.push .many)) cs
    | '[', _ =>
      match readOneOf cs with
      | .ok (t, rest) => readParts fuel { s.push t with previous := some ']' } rest
      | .error e => .error e
    | '\x7b', _ => readParts fuel (after s.openGroup) cs
    | '\x7d', _ =>
      match s.closeGroup with
      | .ok s => readParts fuel (after s) cs
      | .error e => .error e
    | ',', _ => readParts fuel (after s.comma) cs
    | '\\', d :: rest => readParts fuel { s.push (.literal d) with previous := some d } rest
    | '\\', [] => .error .danglingEscape
    | _, _ => readParts fuel (after (s.push (.literal c))) cs

/-- Reads a pattern. -/
def parse (pattern : String) : Except Error Glob :=
  match readParts pattern.length {} pattern.toList with
  | .error e => .error e
  | .ok s => if s.inGroup then .error .unclosedGroup else .ok ⟨s.frame.current.reverse⟩

end GoSurvey.Glob
