import GoSurvey.Proofs.Json.Number
import GoSurvey.Proofs.Json.Text

/-!
# Values read back

What is written of a value with an item a line is read as the same value (`parse?_pretty`), as long
as its numbers can be written exactly. The reader spends its fuel on characters: twice the length of
the text is enough (`readValue_prettyChars`).
-/

namespace GoSurvey.Json

/-! ## Steps of the reader -/

/-- What is left after blanks does not start with one. -/
theorem skip_skip (cs : List Char) : skip (skip cs) = skip cs := by
  induction cs with
  | nil => rfl
  | cons c cs ih =>
    rw [skip]
    split
    · exact ih
    · rename_i hblank
      rw [skip, if_neg hblank]

/-- A new line and its indentation are blanks. -/
theorem skip_newline (level : Nat) (cs : List Char) : skip (newline level ++ cs) = skip cs := by
  have hspaces : ∀ n, skip (List.replicate n ' ' ++ cs) = skip cs := by
    intro n
    induction n with
    | zero => rfl
    | succ n ih => exact ih
  exact hspaces (2 * level)

/-- There are no blanks before a quote. -/
theorem skip_quote (s : String) (cs : List Char) :
    skip (quote s ++ cs) = '"' :: (s.toList.flatMap escape ++ '"' :: cs) := by
  rw [quote, List.cons_append, List.append_assoc]
  rfl

/-- Blanks before a value do not matter. -/
theorem readValue_skip (n : Nat) (cs : List Char) : readValue n (skip cs) = readValue n cs := by
  cases n with
  | zero => rfl
  | succ n => simp only [readValue, skip_skip]

theorem readValue_newline (n level : Nat) (cs : List Char) :
    readValue n (newline level ++ cs) = readValue n cs := by
  rw [← readValue_skip, skip_newline, readValue_skip]

theorem readItems_newline (n level : Nat) (cs : List Char) :
    readItems n (newline level ++ cs) = readItems n cs := by
  cases n with
  | zero => rfl
  | succ n => simp only [readItems, skip_newline]

/-- Blanks before a field do not matter. -/
theorem readField_skip (n : Nat) (cs : List Char) : readField n (skip cs) = readField n cs := by
  cases n with
  | zero => rfl
  | succ n => simp only [readField, skip_skip]

theorem readField_newline (n level : Nat) (cs : List Char) :
    readField n (newline level ++ cs) = readField n cs := by
  rw [← readField_skip, skip_newline, readField_skip]

theorem readFields_newline (n level : Nat) (cs : List Char) :
    readFields n (newline level ++ cs) = readFields n cs := by
  cases n with
  | zero => rfl
  | succ n => simp only [readFields, skip_newline]

/-- No value starts with a closing bracket. -/
theorem readValue_bracket (n : Nat) (cs : List Char) : readValue n (']' :: cs) = none := by
  cases n with
  | zero => rfl
  | succ n => simp [readValue, skip, isBlank, readNumber, digits]

/-- No field starts with a closing brace. -/
theorem readField_brace (n : Nat) (cs : List Char) : readField n ('\x7d' :: cs) = none := by
  cases n with
  | zero => rfl
  | succ n => simp [readField, skip, isBlank, expect]

/-- A number starts with a digit. -/
theorem isDigit_of_readNumber {c : Char} {cs : List Char} {negative : Bool} {r : Json × List Char}
    (h : readNumber negative (c :: cs) = some r) : c.isDigit = true := by
  by_contra hc
  have hdigits : (digits (c :: cs)).1 = [] := List.takeWhile_cons_of_neg hc
  rw [readNumber] at h
  simp [hdigits] at h

/-- A number without a sign. -/
theorem readValue_of_readNumber {cs : List Char} {r : Json × List Char}
    (h : readNumber false cs = some r) (n : Nat) : readValue (n + 1) cs = some r := by
  cases cs with
  | nil => cases h
  | cons c cs =>
    have hc := isDigit_of_readNumber h
    have hskip : skip (c :: cs) = c :: cs := by
      rw [skip, if_neg]
      intro hblank
      simp only [isBlank, Bool.or_eq_true, beq_iff_eq] at hblank
      rcases hblank with ((rfl | rfl) | rfl) | rfl <;> cases hc
    simp only [readValue, hskip]
    split
    all_goals first
      | exact h
      | rename_i heq
        cases heq
        cases hc

section
variable {n : Nat} {cs rest rest' : List Char} {j : Json} {k : String}

/-- An array with its first item and the others. -/
theorem readValue_array {js : List Json} (hitem : readValue n cs = some (j, rest))
    (hitems : readItems n rest = some (js, rest')) :
    readValue (n + 1) ('[' :: cs) = some (.array (j :: js), rest') := by
  rw [← readValue_skip] at hitem
  have hskip : skip ('[' :: cs) = '[' :: cs := rfl
  simp only [readValue, hskip]
  split
  · rename_i hbracket
    rw [hbracket, readValue_bracket] at hitem
    cases hitem
  · simp [hitem, hitems]

/-- One more item. -/
theorem readItems_cons {js : List Json} (hitem : readValue n cs = some (j, rest))
    (hitems : readItems n rest = some (js, rest')) :
    readItems (n + 1) (',' :: cs) = some (j :: js, rest') := by
  have hskip : skip (',' :: cs) = ',' :: cs := rfl
  simp [readItems, hskip, hitem, hitems]

/-- A key and its value. -/
theorem readField_quote (hvalue : readValue n cs = some (j, rest)) :
    readField (n + 1) (quote k ++ ':' :: ' ' :: cs) = some ((k, j), rest) := by
  have hcolon : skip (':' :: ' ' :: cs) = ':' :: ' ' :: cs := rfl
  have hblank : readValue n (' ' :: cs) = some (j, rest) := by
    rw [← readValue_skip, show skip (' ' :: cs) = skip cs from rfl, readValue_skip, hvalue]
  simp [readField, skip_quote, expect, readText_quote, hcolon, hblank]

/-- An object with its first field and the others. -/
theorem readValue_object {fs : List (String × Json)} (hfield : readField n cs = some ((k, j), rest))
    (hfields : readFields n rest = some (fs, rest')) :
    readValue (n + 1) ('\x7b' :: cs) = some (.object ((k, j) :: fs), rest') := by
  rw [← readField_skip] at hfield
  have hskip : skip ('\x7b' :: cs) = '\x7b' :: cs := rfl
  simp only [readValue, hskip]
  split
  · rename_i hbrace
    rw [hbrace, readField_brace] at hfield
    cases hfield
  · simp [hfield, hfields]

/-- One more field. -/
theorem readFields_cons {fs : List (String × Json)} (hfield : readField n cs = some ((k, j), rest))
    (hfields : readFields n rest = some (fs, rest')) :
    readFields (n + 1) (',' :: cs) = some ((k, j) :: fs, rest') := by
  have hskip : skip (',' :: cs) = ',' :: cs := rfl
  simp [readFields, hskip, hfield, hfields]

end

/-! ## Values -/

mutual
/-- Whether the numbers of a value can be written exactly: whole numbers of at most sixty-four bits,
and finite doubles. -/
def isExact : Json → Bool
  | .int n => -(Nat.pow 2 63 : Int) ≤ n && n < (Nat.pow 2 64 : Int)
  | .float x => x.isFinite
  | .array items => allExact items
  | .object fields => allExactFields fields
  | _ => true

/-- `isExact` over items. -/
def allExact : List Json → Bool
  | [] => true
  | j :: js => j.isExact && allExact js

/-- `isExact` over fields. -/
def allExactFields : List (String × Json) → Bool
  | [] => true
  | (_, j) :: fs => j.isExact && allExactFields fs
end

/-- After a value there is no more of a number. -/
theorem endsNumber_newline (level : Nat) (cs : List Char) : EndsNumber (newline level ++ cs) := by
  intro c hc
  cases hc
  decide

theorem endsNumber_prettyItems (level : Nat) (js : List Json) (level' : Nat) (cs : List Char) :
    EndsNumber (prettyItems level js ++ (newline level' ++ cs)) := by
  cases js with
  | nil => exact endsNumber_newline level' cs
  | cons j js =>
    intro c hc
    cases hc
    decide

theorem endsNumber_prettyFields (level : Nat) (fs : List (String × Json)) (level' : Nat)
    (cs : List Char) : EndsNumber (prettyFields level fs ++ (newline level' ++ cs)) := by
  cases fs with
  | nil => exact endsNumber_newline level' cs
  | cons f fs =>
    obtain ⟨k, j⟩ := f
    intro c hc
    cases hc
    decide

/-- A whole number is read back. -/
theorem readValue_writeInt {i : Int} (hexact : (Json.int i).isExact = true) (n : Nat)
    {rest : List Char} (hrest : EndsNumber rest) :
    readValue (n + 1) (writeInt i ++ rest) = some (.int i, rest) := by
  simp only [isExact, Bool.and_eq_true, decide_eq_true_eq] at hexact
  have hread := readNumber_natAbs hexact.1 hexact.2 hrest
  unfold writeInt
  split <;> rename_i hneg
  · rw [decide_eq_true hneg] at hread
    exact hread
  · rw [decide_eq_false hneg] at hread
    exact readValue_of_readNumber hread n

/-- A finite double is read back. -/
theorem readValue_writeFloat {x : Float} (hexact : (Json.float x).isExact = true) (n : Nat)
    {rest : List Char} (hrest : EndsNumber rest) :
    readValue (n + 1) (writeFloat x ++ rest) = some (.float x, rest) := by
  obtain ⟨negative, text, htext, hread⟩ := readNumber_text hexact layout
  rw [writeFloat, htext, Option.getD_some, List.append_assoc]
  cases negative with
  | true => exact hread rest hrest
  | false => exact readValue_of_readNumber (hread rest hrest) n

/-- A text is read back. -/
theorem readValue_quote (s : String) (n : Nat) (rest : List Char) :
    readValue (n + 1) (quote s ++ rest) = some (.string s, rest) := by
  simp [readValue, skip_quote, readText_quote]

/-- The end of an array. -/
theorem readItems_end (n level : Nat) (rest : List Char) :
    readItems (n + 1) (newline level ++ (']' :: rest)) = some ([], rest) := by
  rw [readItems_newline]
  rfl

/-- The end of an object. -/
theorem readFields_end (n level : Nat) (rest : List Char) :
    readFields (n + 1) (newline level ++ ('\x7d' :: rest)) = some ([], rest) := by
  rw [readFields_newline]
  rfl

mutual
/-- A value is read back from what is written of it. -/
theorem readValue_prettyChars (j : Json) (level : Nat) {n : Nat} {rest : List Char}
    (hexact : j.isExact = true) (hrest : EndsNumber rest)
    (hn : 2 * (prettyChars level j).length < n) :
    readValue n (prettyChars level j ++ rest) = some (j, rest) := by
  obtain ⟨n, rfl⟩ := Nat.exists_eq_add_one_of_ne_zero (Nat.ne_zero_of_lt hn)
  cases j with
  | array items =>
    cases items with
    | nil => rfl
    | cons j js =>
      -- The two units of fuel for the bracket pay for this step and for what follows it.
      simp only [isExact, allExact, Bool.and_eq_true] at hexact
      simp only [prettyChars, List.length_cons, List.length_append] at hn
      have hitem := readValue_prettyChars j (level + 1) hexact.1
        (endsNumber_prettyItems (level + 1) js level (']' :: rest)) (n := n) (by omega)
      have hitems := readItems_prettyItems js (level + 1) level rest hexact.2 (n := n) (by omega)
      rw [← readValue_newline n (level + 1)] at hitem
      simpa [prettyChars] using readValue_array hitem hitems
  | object fields =>
    cases fields with
    | nil => rfl
    | cons f fs =>
      obtain ⟨k, j⟩ := f
      simp only [isExact, allExactFields, Bool.and_eq_true] at hexact
      simp only [prettyChars, List.length_cons, List.length_append] at hn
      obtain ⟨n, rfl⟩ := Nat.exists_eq_add_one_of_ne_zero (show n ≠ 0 by omega)
      have hvalue := readValue_prettyChars j (level + 1) hexact.1
        (endsNumber_prettyFields (level + 1) fs level ('\x7d' :: rest)) (n := n) (by omega)
      have hfields := readFields_prettyFields fs (level + 1) level rest hexact.2 (n := n + 1)
        (by omega)
      have hfield := readField_quote (k := k) hvalue
      rw [← readField_newline (n + 1) (level + 1)] at hfield
      simpa [prettyChars] using readValue_object hfield hfields
  | null => rfl
  | bool b => cases b <;> rfl
  | int i => exact readValue_writeInt hexact n hrest
  | float x => exact readValue_writeFloat hexact n hrest
  | string s => exact readValue_quote s n rest
termination_by structural j

/-- The further items are read back. -/
theorem readItems_prettyItems (js : List Json) (level level' : Nat) {n : Nat} (rest : List Char)
    (hexact : allExact js = true) (hn : 2 * (prettyItems level js).length < n) :
    readItems n (prettyItems level js ++ (newline level' ++ (']' :: rest))) = some (js, rest) := by
  obtain ⟨n, rfl⟩ := Nat.exists_eq_add_one_of_ne_zero (Nat.ne_zero_of_lt hn)
  cases js with
  | nil => exact readItems_end n level' rest
  | cons j js =>
    simp only [allExact, Bool.and_eq_true] at hexact
    simp only [prettyItems, List.length_cons, List.length_append] at hn
    have hitem := readValue_prettyChars j level hexact.1
      (endsNumber_prettyItems level js level' (']' :: rest)) (n := n) (by omega)
    have hitems := readItems_prettyItems js level level' rest hexact.2 (n := n) (by omega)
    rw [← readValue_newline n level] at hitem
    simpa [prettyItems] using readItems_cons hitem hitems
termination_by structural js

/-- The further fields are read back. -/
theorem readFields_prettyFields (fs : List (String × Json)) (level level' : Nat) {n : Nat}
    (rest : List Char) (hexact : allExactFields fs = true)
    (hn : 2 * (prettyFields level fs).length < n) :
    readFields n (prettyFields level fs ++ (newline level' ++ ('\x7d' :: rest))) =
      some (fs, rest) := by
  obtain ⟨n, rfl⟩ := Nat.exists_eq_add_one_of_ne_zero (Nat.ne_zero_of_lt hn)
  cases fs with
  | nil => exact readFields_end n level' rest
  | cons f fs =>
    obtain ⟨k, j⟩ := f
    simp only [allExactFields, Bool.and_eq_true] at hexact
    simp only [prettyFields, List.length_cons, List.length_append] at hn
    obtain ⟨n, rfl⟩ := Nat.exists_eq_add_one_of_ne_zero (show n ≠ 0 by omega)
    have hvalue := readValue_prettyChars j level hexact.1
      (endsNumber_prettyFields level fs level' ('\x7d' :: rest)) (n := n) (by omega)
    have hfields := readFields_prettyFields fs level level' rest hexact.2 (n := n + 1) (by omega)
    have hfield := readField_quote (k := k) hvalue
    rw [← readField_newline (n + 1) level] at hfield
    simpa [prettyFields] using readFields_cons hfield hfields
termination_by structural fs
end

/-- The written text of a value stands for that value. -/
theorem parse?_pretty {j : Json} (hexact : j.isExact = true) : parse? j.pretty = some j := by
  have hend : EndsNumber [] := nofun
  have hread := readValue_prettyChars j 0 hexact hend
    (n := 2 * (prettyChars 0 j).length + 2) (by omega)
  rw [List.append_nil] at hread
  simp [parse?, pretty, hread, skip]

end GoSurvey.Json
