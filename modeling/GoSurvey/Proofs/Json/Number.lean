import GoSurvey.Json.Parser
import GoSurvey.Json.Printer
import GoSurvey.Proofs.Decimal.Scientific

/-!
# Numbers read back

A number is read up to the first character that cannot belong to it (`EndsNumber`). Whole numbers of
sixty-four bits are read back as they are (`readNumber_natAbs`). A double is written as the shortest
decimal in its interval, in one of three layouts, and each layout gives the digits and the exponent
of the decimal again (`readNumber_write`). Hence every finite double is read back
(`readNumber_text`).
-/

namespace GoSurvey.Json

/-! ## Digits -/

/-- The value of digits as the standard library has it. -/
theorem digitsValue_eq (ds : List Char) : digitsValue ds = Nat.ofDigitChars 10 ds 0 :=
  Nat.ofDigitChars_eq_foldl.symm

/-- The digits of a number have its value. -/
@[simp]
theorem digitsValue_toDigits (n : Nat) : digitsValue (Nat.toDigits 10 n) = n := by
  rw [digitsValue_eq, Nat.ofDigitChars_ten_toDigits]

/-- Zeros in front do not count. -/
theorem digitsValue_zeros (n : Nat) (ds : List Char) :
    digitsValue (List.replicate n '0' ++ ds) = digitsValue ds := by
  rw [digitsValue_eq, digitsValue_eq, Nat.ofDigitChars_append, Nat.ofDigitChars_replicate_zero,
    Nat.mul_zero]

/-- Each zero at the end is a factor of ten. -/
theorem digitsValue_append_zeros (ds : List Char) (n : Nat) :
    digitsValue (ds ++ List.replicate n '0') = digitsValue ds * 10 ^ n := by
  rw [digitsValue_eq, digitsValue_eq, Nat.ofDigitChars_append, Nat.ofDigitChars_replicate_zero,
    Nat.mul_comm]

/-- All characters are digits. -/
def AllDigits (ds : List Char) : Prop :=
  ∀ c ∈ ds, c.isDigit = true

theorem allDigits_toDigits (n : Nat) : AllDigits (Nat.toDigits 10 n) :=
  fun _ hc => Nat.isDigit_of_mem_toDigits (by decide) (by decide) hc

/-- What follows a number does not belong to it. -/
def EndsNumber (rest : List Char) : Prop :=
  ∀ c ∈ rest.head?, c.isDigit = false ∧ c ≠ '.' ∧ c ≠ 'e' ∧ c ≠ 'E'

/-- Digits are read up to the first other character. -/
theorem digits_append {ds rest : List Char} (hds : AllDigits ds)
    (hrest : ∀ c ∈ rest.head?, c.isDigit = false) : digits (ds ++ rest) = (ds, rest) := by
  have htake : rest.takeWhile Char.isDigit = [] := by
    cases rest with
    | nil => rfl
    | cons c cs => rw [List.takeWhile_cons_of_neg (by simp [hrest c rfl])]
  have hdrop : rest.dropWhile Char.isDigit = rest := by
    cases rest with
    | nil => rfl
    | cons c cs => rw [List.dropWhile_cons_of_neg (by simp [hrest c rfl])]
  rw [digits, List.takeWhile_append_of_pos hds, List.dropWhile_append_of_pos hds, htake, hdrop,
    List.append_nil]

/-- A positive number does not start with a zero. -/
theorem head?_toDigits_ne_zero {n : Nat} (hn : 0 < n) :
    (Nat.toDigits 10 n).head? ≠ some '0' := by
  induction n using Nat.strongRecOn with
  | ind n ih =>
    rw [Nat.toDigits_eq_if (by decide)]
    split
    · rename_i hlt
      have hdigit : ∀ m, m < 10 → 0 < m → m.digitChar ≠ '0' := by decide
      simpa using hdigit n hlt hn
    · rw [List.head?_append, Option.or_of_isSome (by simp [Nat.toDigits_ne_nil])]
      exact ih (n / 10) (by omega) (by omega)

/-! ## The parts of a number -/

/-- Digits that may stand before the point: at least one, and no zero before others. -/
structure IsWhole (whole : List Char) : Prop where
  allDigits : AllDigits whole
  ne_nil : whole ≠ []
  noZero : whole.head? = some '0' → whole.length = 1

theorem isWhole_toDigits (n : Nat) : IsWhole (Nat.toDigits 10 n) where
  allDigits := allDigits_toDigits n
  ne_nil := Nat.toDigits_ne_nil
  noZero hzero := by
    cases Nat.eq_zero_or_pos n with
    | inl h => subst h; rfl
    | inr h => exact absurd hzero (head?_toDigits_ne_zero h)

/-- The digits before the point are found, and they are fit to stand there. -/
theorem IsWhole.accepted {whole : List Char} (hwhole : IsWhole whole) :
    ¬(whole = [] ∨ (whole.head? = some '0' ∧ whole.length ≠ 1)) := by
  rintro (h | ⟨hzero, hlength⟩)
  · exact hwhole.ne_nil h
  · exact hlength (hwhole.noZero hzero)

section
variable (negative : Bool) {whole fraction rest : List Char}

/-- A number without point and exponent. -/
theorem readNumber_whole (hwhole : IsWhole whole) (hrest : EndsNumber rest) :
    readNumber negative (whole ++ rest) = some (ofWhole negative (digitsValue whole), rest) := by
  unfold readNumber
  rw [digits_append hwhole.allDigits fun c hc => (hrest c hc).1]
  simp only [if_neg hwhole.accepted]
  cases rest with
  | nil => simp
  | cons c cs =>
    obtain ⟨-, hpoint, he, hE⟩ := hrest c rfl
    simp [hpoint, he, hE]

/-- A number with a point and without exponent. -/
theorem readNumber_fraction (hwhole : IsWhole whole) (hdigits : AllDigits fraction)
    (hfraction : fraction ≠ []) (hrest : EndsNumber rest) :
    readNumber negative (whole ++ '.' :: (fraction ++ rest)) =
      some (.float (scientific negative (digitsValue (whole ++ fraction)) (-fraction.length)),
        rest) := by
  unfold readNumber
  rw [digits_append hwhole.allDigits (by simp)]
  simp only [if_neg hwhole.accepted]
  rw [digits_append hdigits fun c hc => (hrest c hc).1]
  cases rest with
  | nil => simp [hfraction]
  | cons c cs =>
    obtain ⟨-, hpoint, he, hE⟩ := hrest c rfl
    simp [hfraction, he, hE]

/-- A signed exponent. -/
theorem readPower_signed (p : Int) (hrest : EndsNumber rest) :
    readPower ((if p < 0 then '-' else '+') :: (Nat.toDigits 10 p.natAbs ++ rest)) =
      some (p, rest) := by
  have hdigits := digits_append (allDigits_toDigits p.natAbs) fun c hc => (hrest c hc).1
  cases hds : Nat.toDigits 10 p.natAbs with
  | nil => exact absurd hds Nat.toDigits_ne_nil
  | cons d ds =>
    have hvalue := digitsValue_toDigits p.natAbs
    rw [hds] at hdigits hvalue
    split <;> rename_i hsign
    · have habs : -(p.natAbs : Int) = p := by omega
      simp only [readPower, hdigits, hvalue, habs]
    · have habs : (p.natAbs : Int) = p := by omega
      unfold readPower
      simp only [List.cons_append] at hdigits
      simp [hdigits, hvalue, habs]

/-- A number with an exponent and without point. -/
theorem readNumber_power (hwhole : IsWhole whole) {power : List Char} {p : Int}
    (hpower : readPower power = some (p, rest)) :
    readNumber negative (whole ++ 'e' :: power) =
      some (.float (scientific negative (digitsValue whole) p), rest) := by
  unfold readNumber
  rw [digits_append hwhole.allDigits (by simp)]
  simp only [if_neg hwhole.accepted]
  simp [hpower]

/-- A number with a point and an exponent. -/
theorem readNumber_fraction_power (hwhole : IsWhole whole) (hdigits : AllDigits fraction)
    (hfraction : fraction ≠ []) {power : List Char} {p : Int}
    (hpower : readPower power = some (p, rest)) :
    readNumber negative (whole ++ '.' :: (fraction ++ 'e' :: power)) =
      some (.float (scientific negative (digitsValue (whole ++ fraction)) (-fraction.length + p)),
        rest) := by
  unfold readNumber
  rw [digits_append hwhole.allDigits (by simp)]
  simp only [if_neg hwhole.accepted]
  rw [digits_append hdigits (by simp)]
  simp [hfraction, hpower]

end

/-! ## Whole numbers -/

/-- A whole number is read back if it fits into sixty-four bits. -/
theorem readNumber_natAbs {n : Int} (hlow : -(Nat.pow 2 63 : ℤ) ≤ n)
    (hhigh : n < (Nat.pow 2 64 : ℤ)) {rest : List Char} (hrest : EndsNumber rest) :
    readNumber (decide (n < 0)) (Nat.toDigits 10 n.natAbs ++ rest) = some (.int n, rest) := by
  rw [readNumber_whole _ (isWhole_toDigits _) hrest, digitsValue_toDigits, ofWhole]
  by_cases hneg : n < 0
  · have hfits : 0 < n.natAbs ∧ n.natAbs ≤ Nat.pow 2 63 := by omega
    have habs : -(n.natAbs : ℤ) = n := by omega
    simp only [decide_eq_true hneg, if_true, if_pos hfits, habs]
  · have hfits : n.natAbs < Nat.pow 2 64 := by omega
    have habs : (n.natAbs : ℤ) = n := by omega
    simp only [decide_eq_false hneg, Bool.false_eq_true, if_false, if_pos hfits, habs]

/-! ## Decimals -/

open Decimal

/-- Digits that do not start with a zero may stand before the point. -/
theorem isWhole_of_head {whole : List Char} (hdigits : AllDigits whole) (hne : whole ≠ [])
    (hhead : whole.head? ≠ some '0') : IsWhole whole :=
  ⟨hdigits, hne, fun hzero => absurd hzero hhead⟩

theorem allDigits_append {ds ds' : List Char} (hds : AllDigits ds) (hds' : AllDigits ds') :
    AllDigits (ds ++ ds') := by
  intro c hc
  rcases List.mem_append.1 hc with hc | hc
  · exact hds c hc
  · exact hds' c hc

theorem allDigits_zeros (n : Nat) : AllDigits (List.replicate n '0') := by
  intro c hc
  rw [List.eq_of_mem_replicate hc]
  rfl

section
variable {ds rest : List Char} (hdigits : AllDigits ds) (hrest : EndsNumber rest) (negative : Bool)
include hdigits hrest

/-- A decimal with zeros between the point and its digits. -/
theorem readNumber_small (hne : ds ≠ []) (n : Nat) :
    readNumber negative ('0' :: '.' :: (List.replicate n '0' ++ ds) ++ rest) =
      some (.float (scientific negative (digitsValue ds) (-(n + ds.length : ℕ))), rest) := by
  have hmantissa : digitsValue (['0'] ++ (List.replicate n '0' ++ ds)) = digitsValue ds :=
    digitsValue_zeros (n + 1) ds
  have hread := readNumber_fraction negative (isWhole_toDigits 0)
    (allDigits_append (allDigits_zeros n) hdigits) (List.append_ne_nil_of_right_ne_nil _ hne) hrest
  rw [Nat.toDigits_zero, hmantissa, List.length_append, List.length_replicate] at hread
  exact hread

variable (hhead : ds.head? ≠ some '0')
include hhead

/-- A decimal with zeros between its digits and the point. -/
theorem readNumber_large (hne : ds ≠ []) (n : Nat) :
    readNumber negative (ds ++ List.replicate n '0' ++ ['.', '0'] ++ rest) =
      some (.float (scientific negative (digitsValue ds * 10 ^ (n + 1)) (-1)), rest) := by
  have hwhole : IsWhole (ds ++ List.replicate n '0') := by
    refine isWhole_of_head (allDigits_append hdigits (allDigits_zeros n))
      (List.append_ne_nil_of_left_ne_nil hne _) ?_
    rwa [List.head?_append_of_ne_nil _ hne]
  have hmantissa : digitsValue (ds ++ List.replicate n '0' ++ ['0']) =
      digitsValue ds * 10 ^ (n + 1) := by
    rw [← digitsValue_append_zeros, List.replicate_succ', List.append_assoc]
  have hread := readNumber_fraction negative hwhole (allDigits_zeros 1) (by simp) hrest
  rw [List.replicate_one, hmantissa] at hread
  rw [List.append_assoc]
  exact hread

/-- A decimal with the point among its digits. -/
theorem readNumber_middle {p : Nat} (hpos : 0 < p) (hlt : p < ds.length) :
    readNumber negative (ds.take p ++ '.' :: ds.drop p ++ rest) =
      some (.float (scientific negative (digitsValue ds) (-(ds.length - p : ℕ))), rest) := by
  have hne : ds.take p ≠ [] := List.ne_nil_of_length_pos (by rw [List.length_take]; omega)
  have hne' : ds.drop p ≠ [] := List.ne_nil_of_length_pos (by rw [List.length_drop]; omega)
  have hwhole : IsWhole (ds.take p) := by
    refine isWhole_of_head (fun c hc => hdigits c (List.mem_of_mem_take hc)) hne ?_
    rwa [List.head?_take, if_neg hpos.ne']
  have hread := readNumber_fraction negative hwhole
    (fun c hc => hdigits c (List.mem_of_mem_drop hc)) hne' hrest
  rw [List.take_append_drop, List.length_drop] at hread
  rw [List.append_assoc]
  exact hread

end

/-- A decimal with one digit before the point and an exponent. -/
theorem readNumber_leading {d : Char} {more : List Char} (hdigits : AllDigits (d :: more))
    (hhead : d ≠ '0') (hmore : more ≠ []) {power rest : List Char} {p : Int}
    (hpower : readPower power = some (p, rest)) (negative : Bool) :
    readNumber negative (d :: '.' :: (more ++ 'e' :: power)) =
      some (.float (scientific negative (digitsValue (d :: more)) (p - more.length)), rest) := by
  obtain ⟨hd, hall⟩ := List.forall_mem_cons.1 hdigits
  have hwhole : IsWhole [d] :=
    isWhole_of_head (List.forall_mem_singleton.2 hd) (List.cons_ne_nil _ _) (by simpa using hhead)
  have hread := readNumber_fraction_power negative hwhole hall hmore hpower
  rw [neg_add_eq_sub] at hread
  exact hread

/-- Zeros at the end of the digits and a smaller exponent make up for each other. -/
theorem value_append_zeros (m k : Nat) :
    Scaled.value ⟨m * 10 ^ (k + 1), -1⟩ = Scaled.value ⟨m, k⟩ := by
  rw [Scaled.value, Scaled.value, zpow_natCast, zpow_neg_one, pow_succ]
  push_cast
  field_simp

/-- A written decimal is read as one with the same value. -/
theorem readNumber_write (l : Layout) {s : Scaled} (hs : 0 < s.digits) (negative : Bool)
    {rest : List Char} (hrest : EndsNumber rest) :
    ∃ t : Scaled, t.value = s.value ∧ readNumber negative (l.write s ++ rest) =
      some (.float (scientific negative t.digits t.exponent), rest) := by
  have hdigits := allDigits_toDigits s.digits
  have hne : Nat.toDigits 10 s.digits ≠ [] := Nat.toDigits_ne_nil
  have hhead := head?_toDigits_ne_zero hs
  have hvalue := digitsValue_toDigits s.digits
  unfold Layout.write
  simp only
  generalize Nat.toDigits 10 s.digits = ds at *
  split
  · split
    · refine ⟨s, rfl, ?_⟩
      rw [readNumber_small hdigits hrest negative hne, hvalue]
      congr 4
      omega
    split
    · rw [readNumber_large hdigits hrest negative hhead hne, hvalue]
      obtain ⟨k, hk⟩ : ∃ k : ℕ, s.exponent = k := ⟨s.exponent.toNat, by omega⟩
      have hzeros : (s.exponent + ds.length).toNat - ds.length = k := by omega
      refine ⟨⟨s.digits * 10 ^ (k + 1), -1⟩, ?_, by rw [hzeros]⟩
      rw [value_append_zeros, ← hk]
    · refine ⟨s, rfl, ?_⟩
      rw [readNumber_middle hdigits hrest negative hhead (by omega) (by omega), hvalue]
      congr 4
      omega
  · have hpower := readPower_signed (s.exponent + ds.length - 1) hrest
    refine ⟨s, rfl, ?_⟩
    rcases ds with _ | ⟨d, _ | ⟨d', more⟩⟩
    · exact absurd rfl hne
    · have hread := readNumber_power negative (isWhole_of_head hdigits hne hhead) hpower
      rw [hvalue, List.length_singleton, Nat.cast_one, add_sub_cancel_right] at hread
      rw [List.length_singleton, Nat.cast_one, add_sub_cancel_right]
      exact hread
    · have hread := readNumber_leading hdigits (by simpa using hhead) (List.cons_ne_nil _ _) hpower
        negative
      have hexponent : s.exponent + ((d :: d' :: more).length : ℤ) - 1 -
          ((d' :: more).length : ℤ) = s.exponent := by
        rw [List.length_cons (a := d)]
        omega
      rw [hvalue, hexponent] at hread
      rw [← hread]
      simp

/-! ## Doubles -/

/-- A decimal in the interval of a double is read as that double, with its sign. -/
theorem scientific_of_holds {b : Binary} (hb : b.Canonical) {m : Nat} {e : Int}
    (h : (Interval.ofBinary b).Holds (Scaled.value ⟨m, e⟩)) :
    scientific b.negative m e = b.toFloat := by
  rw [scientific, ofScientific_of_holds hb h, Binary.toFloat, dif_neg hb.pos.ne', Binary.sign]
  cases b.negative with
  | false => rfl
  | true => exact Binary.neg_pack hb

/-- Zero is read with its sign. -/
theorem scientific_zero {b : Binary} (hzero : b.mantissa = 0) :
    scientific b.negative 0 (-1) = b.toFloat := by
  rw [Binary.toFloat, dif_pos hzero, Binary.sign]
  cases b.negative <;> decide

/-- A finite double is read back, up to the sign that stands before it. -/
theorem readNumber_text {x : Float} (hx : x.isFinite = true) (l : Layout) :
    ∃ negative text, l.text? x = some ((if negative then ['-'] else []) ++ text) ∧
      ∀ rest, EndsNumber rest → readNumber negative (text ++ rest) = some (.float x, rest) := by
  obtain ⟨b, hb⟩ := Real.exists_of_isFinite hx
  rw [Layout.text?, hb, ← Binary.toFloat_of_ofFloat hb]
  by_cases hzero : b.mantissa = 0
  · refine ⟨b.negative, ['0', '.', '0'], ?_, fun rest hrest => ?_⟩
    · simp only [if_pos hzero]
    · rw [← scientific_zero hzero]
      exact readNumber_fraction b.negative (isWhole_toDigits 0) (allDigits_zeros 1) (by simp) hrest
  · have hcanonical := Real.canonical_of_ofBits hb hzero
    have hholds := holds_shortest hcanonical
    have hpos : 0 < (shortest b).digits := digits_pos_of_holds hcanonical hholds
    refine ⟨b.negative, l.write (shortest b), ?_, fun rest hrest => ?_⟩
    · simp only [if_neg hzero]
    · obtain ⟨t, ht, hread⟩ := readNumber_write l hpos b.negative hrest
      rw [hread, scientific_of_holds hcanonical (ht ▸ hholds)]

end GoSurvey.Json
