import GoSurvey.Json.Parser
import GoSurvey.Json.Printer

/-!
# Quoted texts read back

Each character of a text is written by itself or as an escape, and the reader takes it back
(`readText_escape`). So what follows the closing quote is all that is left of a quoted text
(`readText_quote`).
-/

namespace GoSurvey.Json

/-- A hexadecimal digit has the value it was written for. -/
theorem hexValue?_hexDigit : ∀ n, n < 16 → hexValue? (hexDigit n) = some n := by
  decide

/-- The four digits of a small number have its value. -/
theorem hex4?_hexDigit {n : Nat} (h : n < 32) :
    hex4? '0' '0' (hexDigit (n / 16)) (hexDigit (n % 16)) = some n := by
  have hzero : hexValue? '0' = some 0 := rfl
  rw [hex4?, hzero, hexValue?_hexDigit _ (by omega), hexValue?_hexDigit _ (by omega)]
  simp only [Option.bind_eq_bind, Option.bind_some, Option.pure_def, Option.some.injEq]
  omega

/-- A number below the surrogates is read as the character with that number, whatever follows. -/
theorem readText_hex {a b c d : Char} {n : Nat} (h : hex4? a b c d = some n) (hn : n < 0xD800)
    (seen rest : List Char) :
    readText seen ('\\' :: 'u' :: a :: b :: c :: d :: rest) =
      readText (Char.ofNat n :: seen) rest := by
  have hhigh : ¬(0xD800 ≤ n ∧ n < 0xDC00) := by omega
  have hlow : ¬(0xDC00 ≤ n ∧ n < 0xE000) := by omega
  have hboth : ¬(0xD800 ≤ n ∧ n < 0xE000) := by omega
  rw [readText.eq_def]
  split <;> rename_i heq
  · cases heq
  · cases heq
  · -- Another such escape follows, which is not the second half of a pair.
    simp only [List.cons.injEq, true_and] at heq
    obtain ⟨rfl, rfl, rfl, rfl, rfl⟩ := heq
    simp [h, hhigh, hlow]
  · simp only [List.cons.injEq, true_and] at heq
    obtain ⟨rfl, rfl, rfl, rfl, rfl⟩ := heq
    simp [h, hboth]
  · rename_i hno
    simp only [List.cons.injEq, true_and] at heq
    obtain ⟨rfl, rfl⟩ := heq
    exact (hno _ _ _ _ _ rfl rfl).elim
  · rename_i hno
    simp only [List.cons.injEq] at heq
    obtain ⟨rfl, rfl⟩ := heq
    exact (hno _ _ rfl rfl).elim

/-- A short escape is read as the character it stands for. -/
theorem readText_short {e c : Char} (h : unescape? e = some c) (seen rest : List Char) :
    readText seen ('\\' :: e :: rest) = readText (c :: seen) rest := by
  have hu : e ≠ 'u' := by
    rintro rfl
    cases h
  rw [readText.eq_def]
  split <;> rename_i heq
  · cases heq
  · cases heq
  · cases heq
    exact absurd rfl hu
  · cases heq
    exact absurd rfl hu
  · obtain ⟨-, rfl, rfl⟩ : _ ∧ e = _ ∧ rest = _ := by simpa only [List.cons.injEq] using heq
    rw [h]
    rfl
  · rename_i hno
    simp only [List.cons.injEq] at heq
    obtain ⟨rfl, rfl⟩ := heq
    exact (hno _ _ rfl rfl).elim

/-- A character that is written by itself is read by itself. -/
theorem readText_plain {c : Char} (hquote : c ≠ '"') (hslash : c ≠ '\\') (hc : ¬c.toNat < 32)
    (seen rest : List Char) : readText seen (c :: rest) = readText (c :: seen) rest := by
  rw [readText.eq_def]
  split <;> rename_i heq
  · cases heq
  · exact absurd (List.cons.inj heq).1 hquote
  · exact absurd (List.cons.inj heq).1 hslash
  · exact absurd (List.cons.inj heq).1 hslash
  · exact absurd (List.cons.inj heq).1 hslash
  · obtain ⟨rfl, rfl⟩ := List.cons.inj heq
    rw [if_neg (not_or.2 ⟨hslash, hc⟩)]

/-- Every character is read back, however it is written. -/
theorem readText_escape (c : Char) (seen rest : List Char) :
    readText seen (escape c ++ rest) = readText (c :: seen) rest := by
  unfold escape
  iterate 5
    split
    · rename_i h
      subst h
      exact readText_short rfl seen rest
  iterate 2
    split
    · rename_i h
      rw [← Char.ofNat_toNat c, h]
      exact readText_short rfl seen rest
  split
  · rename_i h
    have hread := readText_hex (hex4?_hexDigit h) (by omega) seen rest
    rwa [Char.ofNat_toNat] at hread
  · rename_i hquote hslash _ _ _ _ _ hc
    exact readText_plain hquote hslash hc seen rest

/-- A quoted text is read up to its closing quote. -/
theorem readText_quote (cs seen rest : List Char) :
    readText seen (cs.flatMap escape ++ '"' :: rest) =
      some (String.ofList (seen.reverse ++ cs), rest) := by
  induction cs generalizing seen with
  | nil => simp [readText]
  | cons c cs ih =>
    rw [List.flatMap_cons, List.append_assoc, readText_escape, ih]
    simp

end GoSurvey.Json
