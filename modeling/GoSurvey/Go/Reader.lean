import GoSurvey.Go.Token

/-!
# Readers

A reader takes tokens from the front of a list and gives a result, or refuses the token it stands
at. The place of the farthest token refused is kept even when another way of reading is tried from
an earlier place, because that is the token a reader of the whole source stumbles over.
-/

namespace GoSurvey.Go

/-- A reader of tokens. Beside the tokens it is given the start of the farthest refused token. -/
def Reader (α : Type) : Type :=
  List Token → Nat → Option (α × List Token) × Nat

namespace Reader

variable {α β : Type}

instance : Monad Reader where
  pure a := fun ts reach => (some (a, ts), reach)
  bind p f := fun ts reach =>
    match p ts reach with
    | (some (a, ts), reach) => f a ts reach
    | (none, reach) => (none, reach)

/-- What stands for the next token when there is none. -/
def ending : Token :=
  ⟨.eof, "", ⟨0, 0, 0, 0, 0, 0⟩, none⟩

/-- All tokens ahead. -/
def ahead : Reader (List Token) :=
  fun ts reach => (some (ts, ts), reach)

/-- The next token, which stays. -/
def peek : Reader Token :=
  fun ts reach => (some (ts.headD ending, ts), reach)

/-- Takes the next token. -/
def next : Reader Token :=
  fun ts reach => (some (ts.headD ending, ts.tail), reach)

/-- Puts a token in front. -/
def push (t : Token) : Reader Unit :=
  fun ts reach => (some ((), t :: ts), reach)

/-- Refuses the next token. -/
def refuse : Reader α :=
  fun ts reach => (none, max reach (ts.headD ending).span.startByte)

/-- Tries a second way if the first one refuses a token. -/
def orElse (p : Reader α) (q : Unit → Reader α) : Reader α :=
  fun ts reach =>
    match p ts reach with
    | (none, reach) => q () ts reach
    | found => found

instance : OrElse (Reader α) := ⟨orElse⟩

/-- A result, or a refusal of the next token if there is none. -/
def ofOption : Option α → Reader α
  | some a => pure a
  | none => refuse

/-- Takes a step as often as it leads somewhere, at most a given number of times. -/
def iterateUpTo (step : α → Reader (Option α)) : Nat → α → Reader α
  | 0, a => pure a
  | n + 1, a => do
    match ← step a with
    | some b => iterateUpTo step n b
    | none => pure a

/-- Takes a step as often as it leads somewhere. A step takes a token, so no more steps are needed
than there are tokens. -/
def iterate (step : α → Reader (Option α)) (a : α) : Reader α := do
  iterateUpTo step (← ahead).length a

end Reader

end GoSurvey.Go
