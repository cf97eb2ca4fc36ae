import GoSurvey.Go.Lexer

/-!
# Lexing up to a space

A space ends every word, number and operator, so what follows it does not matter for them
(`StopsAtSpace`). Inside quotes, and in a comment that ends, a space is like any other character.
There the text after it matters, but not whether more is put in that neither closes nor breaks what
is open (`piece_of_space`).
-/

namespace GoSurvey.Go

/-- Whether a token can hold a space: it is a text or a character in quotes. -/
def TokenKind.isText : TokenKind → Bool
  | .string | .rawString | .rune => true
  | _ => false

/-! ## Decoding -/

namespace Rune

/-- The number of bytes of some runes. -/
def bytes : List Rune → Nat
  | [] => 0
  | r :: rs => r.size + bytes rs

@[simp]
theorem bytes_nil : bytes [] = 0 := rfl

@[simp]
theorem bytes_cons (r : Rune) (rs : List Rune) : bytes (r :: rs) = r.size + bytes rs := rfl

@[simp]
theorem bytes_append (rs rs' : List Rune) : bytes (rs ++ rs') = bytes rs + bytes rs' := by
  induction rs with
  | nil => rw [List.nil_append, bytes_nil, Nat.zero_add]
  | cons r rs ih => rw [List.cons_append, bytes_cons, ih, bytes_cons, Nat.add_assoc]

/-- A byte that is a character by itself continues no other one. -/
theorem continued?_append {b : UInt8} (hb : b.toNat < 0x80) (rest : List UInt8) :
    ∀ (count high : Nat) (bs : List UInt8),
      continued? count high (bs ++ b :: rest) = continued? count high bs
  | 0, _, _ => by simp [continued?]
  | count + 1, high, [] => by
    have hnone : continuation? b = none := if_neg (by omega)
    simp [continued?, hnone]
  | count + 1, high, b' :: bs => by
    simp only [List.cons_append, continued?, continued?_append hb rest count]

/-- The bytes that continue a number are there. -/
theorem le_length_of_continued? : ∀ {count high n : Nat} {bs : List UInt8},
    continued? count high bs = some n → count ≤ bs.length
  | 0, _, _, _, _ => Nat.zero_le _
  | count + 1, _, _, [], h => nomatch h
  | count + 1, _, _, _ :: bs, h => by
    obtain ⟨_, -, h⟩ := Option.bind_eq_some_iff.1 h
    exact Nat.succ_le_succ (le_length_of_continued? h)

/-- A character that starts before such a byte ends before it. -/
theorem first?_append {b : UInt8} (hb : b.toNat < 0x80) (rest : List UInt8) (b' : UInt8)
    (bs : List UInt8) : first? (b' :: bs ++ b :: rest) = first? (b' :: bs) := by
  simp only [List.cons_append, first?, wide?, continued?_append hb rest]

/-- A character of several bytes has them all. -/
theorem wide?_eq_some {low count high size : Nat} {bs : List UInt8} {c : Char}
    (h : wide? low count high bs = some (c, size)) : size = count + 1 ∧ count ≤ bs.length := by
  obtain ⟨n, hn, h⟩ := Option.bind_eq_some_iff.1 h
  obtain ⟨_, -, h⟩ := Option.bind_eq_some_iff.1 h
  cases h
  exact ⟨rfl, le_length_of_continued? hn⟩

/-- A character at the start of some bytes is one of them, or several. -/
theorem size_of_first? {b : UInt8} {bs : List UInt8} {c : Char} {size : Nat}
    (h : first? (b :: bs) = some (c, size)) : 0 < size ∧ size ≤ bs.length + 1 := by
  simp only [first?] at h
  split at h
  · cases h
    omega
  split at h
  · cases h
  have hwide {low count high : Nat} (h : wide? low count high bs = some (c, size)) :
      0 < size ∧ size ≤ bs.length + 1 := by
    obtain ⟨rfl, hle⟩ := wide?_eq_some h
    omega
  repeat' split at h
  all_goals first | exact hwide h | cases h

/-- Decoding starts anew at a byte that is a character by itself. -/
theorem decodeFrom_append {b : UInt8} (hb : b.toNat < 0x80) (rest : List UInt8) :
    ∀ (bs : List UInt8) (skipped : Nat), skipped ≤ bs.length →
      decodeFrom skipped (bs ++ b :: rest) =
        decodeFrom skipped bs ++ ⟨some (Char.ofNat b.toNat), 1⟩ :: decodeFrom 0 rest
  | [], 0, _ => by simp [decodeFrom, first?, hb]
  | _ :: bs, skipped + 1, h => by
    simpa [decodeFrom] using decodeFrom_append hb rest bs skipped (Nat.le_of_succ_le_succ h)
  | b' :: bs, 0, _ => by
    have hfirst := first?_append hb rest b' bs
    rw [List.cons_append] at hfirst ⊢
    rw [decodeFrom, decodeFrom, hfirst]
    cases hc : first? (b' :: bs) with
    | none => simp [decodeFrom_append hb rest bs 0 (Nat.zero_le _)]
    | some found =>
      have hsize := size_of_first? hc
      simp [decodeFrom_append hb rest bs (found.2 - 1) (by omega)]

/-- Decoding keeps the number of bytes. -/
theorem bytes_decodeFrom : ∀ (bs : List UInt8) (skipped : Nat), skipped ≤ bs.length →
    bytes (decodeFrom skipped bs) + skipped = bs.length
  | [], 0, _ => rfl
  | _ :: bs, skipped + 1, h => by
    have ih := bytes_decodeFrom bs skipped (Nat.le_of_succ_le_succ h)
    simp only [decodeFrom, List.length_cons]
    omega
  | b :: bs, 0, _ => by
    rw [decodeFrom]
    cases hc : first? (b :: bs) with
    | none =>
      have ih := bytes_decodeFrom bs 0 (Nat.zero_le _)
      simp only [bytes_cons, List.length_cons]
      omega
    | some found =>
      have hsize := size_of_first? hc
      have ih := bytes_decodeFrom bs (found.2 - 1) (by omega)
      simp only [bytes_cons, List.length_cons]
      omega

/-- The rune of a space. -/
def space : Rune :=
  ⟨some ' ', 1⟩

end Rune

namespace Lexer

open Rune

/-! ## Words, numbers and operators -/

section
variable {x : List Rune} (y : List Rune)

/-- A space is ahead of no class without it. -/
@[simp]
theorem ahead_space {p : Char → Bool} (hp : p ' ' = false) :
    ahead p (x ++ space :: y) = ahead p x := by
  cases x with
  | nil => exact hp
  | cons r x => rfl

/-- A space is no certain other character. -/
@[simp]
theorem aheadIs_space {c : Char} (hc : (' ' == c) = false) :
    aheadIs c (x ++ space :: y) = aheadIs c x :=
  ahead_space y hc

/-- A text without spaces starts before a space or not at all. -/
theorem startsWith_space : ∀ {cs : List Char}, ' ' ∉ cs → ∀ x : List Rune,
    startsWith cs (x ++ space :: y) = startsWith cs x
  | [], _, x => by cases x <;> rfl
  | c :: cs, h, [] => by
    have hc : ' ' ≠ c := fun h' => h (h' ▸ List.mem_cons_self)
    simp [startsWith, space, Rune.is, hc]
  | c :: cs, h, r :: x => by
    have ih := startsWith_space (fun h' => h (List.mem_cons_of_mem c h')) x
    simp [startsWith, ih]

/-- What a text starts with is not longer than the text. -/
theorem length_le_of_startsWith : ∀ {cs : List Char} {x : List Rune},
    startsWith cs x = true → cs.length ≤ x.length
  | [], _, _ => Nat.zero_le _
  | _ :: cs, _ :: x, h => by
    rw [startsWith, Bool.and_eq_true] at h
    exact Nat.succ_le_succ (length_le_of_startsWith h.2)

/-- A text that starts with a character is not empty. -/
theorem length_pos_of_ahead {p : Char → Bool} (h : ahead p x = true) : 0 < x.length := by
  cases x with
  | nil => cases h
  | cons r x => exact Nat.succ_pos _

end

/-- A length that lies within the text, and does not depend on what follows a space. -/
structure StopsAtSpace (f : List Rune → Nat) : Prop where
  le : ∀ x, f x ≤ x.length
  space : ∀ x y, f (x ++ space :: y) = f x

namespace StopsAtSpace

variable {f g : List Rune → Nat}

/-- A length further on in the text. -/
theorem drop (hf : StopsAtSpace f) {n : Nat} {x : List Rune} (hn : n ≤ x.length) (y : List Rune) :
    f ((x ++ Rune.space :: y).drop n) = f (x.drop n) := by
  rw [List.drop_append_of_le_length hn, hf.space]

/-- A length further on in the text lies within what is left. -/
theorem drop_le (hf : StopsAtSpace f) {n : Nat} {x : List Rune} (hn : n ≤ x.length) :
    n + f (x.drop n) ≤ x.length := by
  have hle := hf.le (x.drop n)
  rw [List.length_drop] at hle
  omega

/-- The longer of two lengths. -/
theorem max (hf : StopsAtSpace f) (hg : StopsAtSpace g) :
    StopsAtSpace fun x => Nat.max (f x) (g x) where
  le x := Nat.max_le.2 ⟨hf.le x, hg.le x⟩
  space x y := by rw [hf.space, hg.space]

/-- A length that is taken only if a text starts in a certain way. -/
theorem guard {p : List Rune → Bool} (hp : ∀ x y, p (x ++ Rune.space :: y) = p x)
    (hle : ∀ x, p x = true → f x ≤ x.length)
    (hf : ∀ x y, p x = true → f (x ++ Rune.space :: y) = f x) (hg : StopsAtSpace g) :
    StopsAtSpace fun x => if p x then f x else g x where
  le x := by
    split
    · rename_i h
      exact hle x h
    · exact hg.le x
  space x y := by
    rw [hp]
    split
    · rename_i h
      exact hf x y h
    · exact hg.space x y

/-- Nothing. -/
theorem zero : StopsAtSpace fun _ => 0 where
  le _ := Nat.zero_le _
  space _ _ := rfl

end StopsAtSpace

/-- A length that follows another one does not depend on what follows a space. -/
theorem andThen_space {g : List Rune → Nat} (hg : StopsAtSpace g) {n : Nat} {x : List Rune}
    (hn : n ≤ x.length) (y : List Rune) : andThen n g (x ++ space :: y) = andThen n g x := by
  rw [andThen, andThen, hg.drop hn]

/-- A length that follows another one lies within the text. -/
theorem andThen_le {g : List Rune → Nat} (hg : StopsAtSpace g) {n : Nat} {x : List Rune}
    (hn : n ≤ x.length) : andThen n g x ≤ x.length := by
  have hle := hg.drop_le hn
  unfold andThen further
  repeat' split
  all_goals omega

/-- Two lengths one after the other. -/
theorem StopsAtSpace.andThen {f g : List Rune → Nat} (hf : StopsAtSpace f) (hg : StopsAtSpace g) :
    StopsAtSpace fun x => Lexer.andThen (f x) g x where
  le x := andThen_le hg (hf.le x)
  space x y := by rw [hf.space, andThen_space hg (hf.le x)]

/-- Words end at a space. -/
theorem stopsAtSpace_word : StopsAtSpace word where
  le x := by
    rw [word]
    split
    · exact (List.takeWhile_sublist _).length_le
    · exact Nat.zero_le _
  space x y := by
    have hpart : space.satisfies Text.isIdentifierPart = false := by decide
    have htake : (x ++ space :: y).takeWhile (·.satisfies Text.isIdentifierPart) =
        x.takeWhile (·.satisfies Text.isIdentifierPart) := by
      rw [List.takeWhile_append]
      split
      · rename_i h
        rw [List.takeWhile_cons_of_neg (by simp [hpart]), List.append_nil]
        exact ((List.takeWhile_prefix _).eq_of_length h).symm
      · rfl
    rw [word, word, ahead_space y (by decide), htake]

/-- Digits end at a space. -/
theorem stopsAtSpace_digits {p : Char → Bool} (hp : p ' ' = false) : StopsAtSpace (digits p) where
  le x := by
    fun_induction digits p x <;> simp_all <;> omega
  space x y := by
    have hspace : space.satisfies p = false := hp
    have hend : digits p (space :: y) = 0 := by
      cases y <;> simp [digits, hspace]
    have hbar : space.is '_' = false := by decide
    fun_induction digits p x with
    | case1 => exact hend
    | case2 r hr => simp [digits, hr, hbar, hend]
    | case3 r hr => simp [digits, hr]
    | case4 r s rs hr hs hrs ih => simp [digits, hr, hs, hrs, ahead_space y hp, ih]
    | case5 r s rs hr hs hrs => simp [digits, hr, hs, hrs, ahead_space y hp]
    | case6 r s rs hr hs ih => simpa [digits, hr, hs] using ih
    | case7 r s rs hr => simp [digits, hr]

/-- Digits that an underscore may precede end at a space. -/
theorem stopsAtSpace_digitsAfterBar {p : Char → Bool} (hp : p ' ' = false) :
    StopsAtSpace (digitsAfterBar p) := by
  have hdigits := stopsAtSpace_digits hp
  exact .guard (fun x y => aheadIs_space y (by decide))
    (fun x h => andThen_le hdigits (length_pos_of_ahead h))
    (fun x y h => andThen_space hdigits (length_pos_of_ahead h) y) hdigits

/-- Numbers to another base end at a space. -/
theorem stopsAtSpace_radix {lower upper : Char} (hlower : ' ' ∉ ['0', lower])
    (hupper : ' ' ∉ ['0', upper]) {p : Char → Bool} (hp : p ' ' = false) :
    StopsAtSpace (radix lower upper p) := by
  have hdigits := stopsAtSpace_digitsAfterBar hp
  have hlength {x : List Rune}
      (h : (startsWith ['0', lower] x || startsWith ['0', upper] x) = true) : 2 ≤ x.length := by
    rcases Bool.or_eq_true_iff.1 h with h | h <;> exact length_le_of_startsWith h
  exact .guard (fun x y => by rw [startsWith_space y hlower, startsWith_space y hupper])
    (fun x h => andThen_le hdigits (hlength h)) (fun x y h => andThen_space hdigits (hlength h) y)
    .zero

/-- Whole numbers end at a space. -/
theorem stopsAtSpace_int : StopsAtSpace int := by
  have hdigits : StopsAtSpace (digitsAfterBar Char.isDigit) :=
    stopsAtSpace_digitsAfterBar (by decide)
  have hoctals : StopsAtSpace (digitsAfterBar isOctal) := stopsAtSpace_digitsAfterBar (by decide)
  have hnonzero : StopsAtSpace fun x =>
      if ahead Char.isDigit x then 1 + digitsAfterBar Char.isDigit (x.drop 1) else 0 :=
    .guard (fun x y => ahead_space y (by decide))
      (fun x h => hdigits.drop_le (length_pos_of_ahead h))
      (fun x y h => by rw [hdigits.drop (length_pos_of_ahead h)]) .zero
  have hdecimal : StopsAtSpace fun x =>
      if aheadIs '0' x then 1
      else if ahead Char.isDigit x then 1 + digitsAfterBar Char.isDigit (x.drop 1)
      else 0 :=
    .guard (fun x y => aheadIs_space y (by decide)) (fun x h => length_pos_of_ahead h)
      (fun _ _ _ => rfl) hnonzero
  have hoctal : StopsAtSpace fun x =>
      if aheadIs '0' x then andThen 1 (digitsAfterBar isOctal) x else 0 :=
    .guard (fun x y => aheadIs_space y (by decide))
      (fun x h => andThen_le hoctals (length_pos_of_ahead h))
      (fun x y h => andThen_space hoctals (length_pos_of_ahead h) y) .zero
  have hhex : StopsAtSpace (radix 'x' 'X' isHex) :=
    stopsAtSpace_radix (by decide) (by decide) (by decide)
  have hoct : StopsAtSpace (radix 'o' 'O' isOctal) :=
    stopsAtSpace_radix (by decide) (by decide) (by decide)
  have hbin : StopsAtSpace (radix 'b' 'B' isBinary) :=
    stopsAtSpace_radix (by decide) (by decide) (by decide)
  exact (hdecimal.max hoctal).max (hhex.max (hoct.max hbin))

/-- Exponents end at a space. -/
theorem stopsAtSpace_exponent {lower upper : Char} (hlower : (' ' == lower) = false)
    (hupper : (' ' == upper) = false) : StopsAtSpace (exponent lower upper) := by
  have hdigits : StopsAtSpace (digits Char.isDigit) := stopsAtSpace_digits (by decide)
  -- The sign counts only if it is there, so the digits start within the text.
  have hsign {x : List Rune} (h : (aheadIs lower x || aheadIs upper x) = true) :
      1 + (if ahead (fun c => c == '+' || c == '-') (x.drop 1) then 1 else 0) ≤ x.length := by
    have hpos : 0 < x.length := by
      rcases Bool.or_eq_true_iff.1 h with h | h <;> exact length_pos_of_ahead h
    split
    · rename_i h
      have := length_pos_of_ahead h
      rw [List.length_drop] at this
      omega
    · exact hpos
  refine .guard (fun x y => by rw [aheadIs_space y hlower, aheadIs_space y hupper])
    (fun x h => andThen_le hdigits (hsign h)) (fun x y h => ?_) .zero
  have hpos : 1 ≤ x.length := Nat.le_trans (Nat.le_add_right ..) (hsign h)
  rw [List.drop_append_of_le_length hpos, ahead_space y (by decide)]
  exact andThen_space hdigits (hsign h) y

/-- Fractions end at a space. -/
theorem stopsAtSpace_fraction {p : Char → Bool} (hp : p ' ' = false) :
    StopsAtSpace (fraction p) := by
  have hdigits := stopsAtSpace_digits hp
  exact .guard (fun x y => aheadIs_space y (by decide))
    (fun x h => hdigits.drop_le (length_pos_of_ahead h))
    (fun x y h => by rw [hdigits.drop (length_pos_of_ahead h)]) .zero

/-- Decimal numbers with a point or an exponent end at a space. -/
theorem stopsAtSpace_decimalFloat : StopsAtSpace decimalFloat := by
  have hdigits : StopsAtSpace (digits Char.isDigit) := stopsAtSpace_digits (by decide)
  have hfraction : StopsAtSpace (fraction Char.isDigit) := stopsAtSpace_fraction (by decide)
  have hexponent : StopsAtSpace (exponent 'e' 'E') := stopsAtSpace_exponent (by decide) (by decide)
  refine ⟨fun x => ?_, fun x y => ?_⟩
  · have hpoint := hfraction.drop_le (hdigits.le x)
    have hpower := hexponent.drop_le hpoint
    simp only [decimalFloat]
    split
    · exact Nat.zero_le _
    split
    · exact Nat.zero_le _
    · exact hpower
  · have hpoint := hfraction.drop_le (hdigits.le x)
    simp only [decimalFloat, hdigits.space, hfraction.drop (hdigits.le x), hexponent.drop hpoint]

/-- Hexadecimal numbers with an exponent end at a space. -/
theorem stopsAtSpace_hexFloat : StopsAtSpace hexFloat := by
  have hdigits : StopsAtSpace (digitsAfterBar isHex) := stopsAtSpace_digitsAfterBar (by decide)
  have hfraction : StopsAtSpace (fraction isHex) := stopsAtSpace_fraction (by decide)
  have hexponent : StopsAtSpace (exponent 'p' 'P') := stopsAtSpace_exponent (by decide) (by decide)
  have hlength {x : List Rune}
      (h : (startsWith ['0', 'x'] x || startsWith ['0', 'X'] x) = true) : 2 ≤ x.length := by
    rcases Bool.or_eq_true_iff.1 h with h | h <;> exact length_le_of_startsWith h
  refine .guard (fun x y => by rw [startsWith_space y (by decide), startsWith_space y (by decide)])
    (fun x h => ?_) (fun x y h => ?_) .zero
  · have hpoint := hfraction.drop_le (hdigits.drop_le (hlength h))
    dsimp only
    split
    · exact Nat.zero_le _
    · exact andThen_le hexponent hpoint
  · have hwhole := hdigits.drop_le (hlength h)
    have hpoint := hfraction.drop_le hwhole
    dsimp only
    rw [hdigits.drop (hlength h), hfraction.drop hwhole, andThen_space hexponent hpoint]

/-- Imaginary numbers end at a space. -/
theorem stopsAtSpace_imaginary : StopsAtSpace imaginary := by
  have hmark : StopsAtSpace imaginaryMark :=
    .guard (fun x y => aheadIs_space y (by decide)) (fun x h => length_pos_of_ahead h)
      (fun _ _ _ => rfl) .zero
  have hdigits : StopsAtSpace (digits Char.isDigit) := stopsAtSpace_digits (by decide)
  have hfloat : StopsAtSpace float := stopsAtSpace_decimalFloat.max stopsAtSpace_hexFloat
  exact (hdigits.andThen hmark).max ((stopsAtSpace_int.andThen hmark).max (hfloat.andThen hmark))

/-- Of texts without spaces, the first that a text starts with is the same before a space. -/
theorem find?_startsWith_space {x : List Rune} (y : List Rune) {ms : List String}
    (h : ∀ m ∈ ms, ' ' ∉ m.toList) :
    (ms.find? fun m => startsWith m.toList (x ++ space :: y)) =
      ms.find? fun m => startsWith m.toList x := by
  induction ms with
  | nil => rfl
  | cons m ms ih =>
    rw [List.find?_cons, List.find?_cons, startsWith_space y (h m List.mem_cons_self),
      ih fun m' hm' => h m' (List.mem_cons_of_mem m hm')]

/-- Operators end at a space. -/
theorem stopsAtSpace_mark : StopsAtSpace mark where
  le x := by
    rw [mark]
    split
    · rename_i m h
      have hstarts := List.find?_some h
      exact String.length_toList ▸ length_le_of_startsWith hstarts
    · exact Nat.zero_le _
  space x y := by
    have hspaces : ∀ m ∈ marks, ' ' ∉ m.toList := by decide
    rw [mark, mark, find?_startsWith_space y hspaces]

/-! ## Quoted text -/

/-- What is put in after a space: a comment and a space. -/
def note : List Rune :=
  [⟨some '/', 1⟩, ⟨some '*', 1⟩, space, ⟨some 'c', 1⟩, space, ⟨some '*', 1⟩, ⟨some '/', 1⟩, space]

/-- A length further on is zero if it is. -/
@[simp]
theorem further_eq_zero {n m : Nat} : further n m = 0 ↔ m = 0 := by
  unfold further
  split <;> omega

/-- A length further on is greater than the way to it. -/
theorem further_le {n m k : Nat} (h : further n m ≤ n + k) : m ≤ k := by
  unfold further at h
  split at h <;> omega

/-- A length that is zero after a space is zero after what is put in there. -/
theorem through_note {c : Char} (hc : ∀ r ∈ note, r.is c = false) {y : List Rune}
    (h : through c y = 0) : through c (note ++ y) = 0 := by
  have hmore (rs : List Rune) (hrs : ∀ r ∈ rs, r.is c = false) : through c (rs ++ y) = 0 := by
    induction rs with
    | nil => exact h
    | cons r rs ih =>
      simp [through, hrs r List.mem_cons_self, ih fun r' hr' => hrs r' (List.mem_cons_of_mem r hr')]
  exact hmore note hc

/-- Text in back quotes is the same if more is put in after it. -/
theorem through_of_space {c : Char} (hspace : space.is c = false)
    (hc : ∀ r ∈ note, r.is c = false) :
    ∀ {x y : List Rune}, through c (x ++ space :: y) ≤ x.length →
      through c (x ++ space :: (note ++ y)) = through c (x ++ space :: y)
  | [], y, h => by
    have hnul : isNul space = false := by decide
    have hzero : through c y = 0 := by simpa [through, hspace, hnul] using h
    simp [through, hspace, hnul, hzero, through_note hc hzero]
  | r :: x, y, h => by
    rw [List.cons_append] at h ⊢
    rw [through] at h
    rw [List.cons_append, through, through]
    split
    · rfl
    split
    · rfl
    · rename_i hr hnul
      rw [if_neg hr, if_neg hnul, List.length_cons, Nat.add_comm] at h
      rw [through_of_space hspace hc (further_le h)]

/-- Whether a rune is like any other one inside quotes. -/
def isPlain (r : Rune) : Bool :=
  !(r.is '"' || r.is '\n' || isNul r || r.is '\\')

/-- Plain runes are passed inside quotes. -/
theorem stringRest_plain {r : Rune} (hr : isPlain r = true) (y : List Rune) :
    stringRest (r :: y) = further 1 (stringRest y) := by
  simp only [isPlain, Bool.not_eq_true', Bool.or_eq_false_iff] at hr
  cases y with
  | nil => simp [stringRest, hr, further]
  | cons s y => simp [stringRest, hr]

/-- Text in quotes that is not closed after a space is not closed after what is put in there. -/
theorem stringRest_note {y : List Rune} (h : stringRest y = 0) : stringRest (note ++ y) = 0 := by
  have hmore (rs : List Rune) (hrs : ∀ r ∈ rs, isPlain r = true) : stringRest (rs ++ y) = 0 := by
    induction rs with
    | nil => exact h
    | cons r rs ih =>
      rw [List.cons_append, stringRest_plain (hrs r List.mem_cons_self), further_eq_zero]
      exact ih fun r' hr' => hrs r' (List.mem_cons_of_mem r hr')
  exact hmore note (by decide)

/-- Characters of a class come before a space or not at all. -/
theorem aheadMany_space {p : Char → Bool} (hp : p ' ' = false) (n : Nat) (x y : List Rune) :
    aheadMany p n (x ++ space :: y) = aheadMany p n x := by
  have hspace : space.satisfies p = false := hp
  by_cases hn : n ≤ x.length
  · rw [aheadMany, aheadMany, List.take_append_of_le_length hn]
  · have hall : ((x ++ space :: y).take n).all (·.satisfies p) = false := by
      rw [List.take_append, List.all_append, List.take_cons (by omega), List.all_cons, hspace,
        Bool.false_and, Bool.and_false]
    have hlength : ((x.take n).length == n) = false := by
      rw [List.length_take, beq_eq_false_iff_ne]
      omega
    rw [aheadMany, aheadMany, hall, hlength, Bool.and_false, Bool.false_and]

/-- An escape fits before a space or not at all. -/
theorem escapeFits_space (r : Rune) (x y : List Rune) :
    escapeFits r (x ++ space :: y) = escapeFits r x := by
  have hhex : isHex ' ' = false := by decide
  simp only [escapeFits, aheadMany_space hhex]

/-- Text in quotes is the same if more is put in after it. -/
theorem stringRest_of_space : ∀ {x y : List Rune}, stringRest (x ++ space :: y) ≤ x.length →
    stringRest (x ++ space :: (note ++ y)) = stringRest (x ++ space :: y)
  | [], y, h => by
    have hplain : isPlain space = true := by decide
    rw [List.nil_append, stringRest_plain hplain] at h ⊢
    have hzero : stringRest y = 0 := further_eq_zero.1 (Nat.le_zero.1 h)
    rw [List.nil_append, stringRest_plain hplain, stringRest_note hzero, hzero]
  | [r], y, h => by
    simp only [List.cons_append, List.nil_append, stringRest] at h ⊢
    split
    · rfl
    split
    · rfl
    rename_i hquote hend
    rw [if_neg hquote, if_neg hend] at h
    split
    · rename_i hescape
      have hfits (y : List Rune) : escapeFits space y = true := by
        simp [escapeFits, show space.is 'x' = false by decide, show space.is 'u' = false by decide,
          show space.is 'U' = false by decide, show isNul space = false by decide]
      rw [if_pos hescape, if_pos (hfits y)] at h
      have hzero : stringRest y = 0 := by
        unfold further at h
        split at h
        · assumption
        · rw [List.length_singleton] at h
          omega
      rw [if_pos (hfits _), if_pos (hfits _), hzero, stringRest_note hzero]
    · rename_i hescape
      rw [if_neg hescape, List.length_singleton] at h
      have hrest := stringRest_of_space (x := []) (further_le (n := 1) (k := 0) h)
      rw [List.nil_append, List.nil_append] at hrest
      rw [hrest]
  | r :: s :: x, y, h => by
    simp only [List.cons_append, stringRest] at h ⊢
    split
    · rfl
    split
    · rfl
    rename_i hquote hend
    rw [if_neg hquote, if_neg hend] at h
    split
    · rename_i hescape
      rw [if_pos hescape] at h
      rw [escapeFits_space, escapeFits_space]
      rw [escapeFits_space] at h
      split
      · rename_i hfits
        rw [if_pos hfits, List.length_cons, List.length_cons, Nat.add_assoc, Nat.add_comm] at h
        rw [stringRest_of_space (further_le h)]
      · rfl
    · rename_i hescape
      rw [if_neg hescape, List.length_cons, Nat.add_comm] at h
      have hrest := stringRest_of_space (x := s :: x) (further_le h)
      rw [List.cons_append, List.cons_append] at hrest
      rw [hrest]

/-- Text after an opening quote is the same if more is put in after it. -/
theorem quoted_of_space {c : Char} (hc : (' ' == c) = false) {f : List Rune → Nat}
    (hf : ∀ {x y}, f (x ++ space :: y) ≤ x.length →
      f (x ++ space :: (note ++ y)) = f (x ++ space :: y))
    {x y : List Rune}
    (h : (if aheadIs c (x ++ space :: y) then andThen 1 f (x ++ space :: y) else 0) ≤ x.length) :
    (if aheadIs c (x ++ space :: (note ++ y)) then andThen 1 f (x ++ space :: (note ++ y)) else 0) =
      if aheadIs c (x ++ space :: y) then andThen 1 f (x ++ space :: y) else 0 := by
  rw [aheadIs_space _ hc] at h ⊢
  rw [aheadIs_space _ hc]
  split
  · rename_i hquote
    rw [if_pos hquote] at h
    cases x with
    | nil => cases hquote
    | cons r x =>
      have hthen (y : List Rune) :
          andThen 1 f (r :: x ++ space :: y) = further 1 (f (x ++ space :: y)) :=
        rfl
      rw [hthen, List.length_cons, Nat.add_comm] at h
      rw [hthen, hthen, hf (further_le h)]
  · rfl

/-- What is inside a rune literal ends before a space, unless it is the space. -/
theorem runeBody_space (r : Rune) (x y : List Rune) :
    runeBody (r :: x ++ space :: y) = runeBody (r :: x) := by
  have hhex : isHex ' ' = false := by decide
  have hoctal : isOctal ' ' = false := by decide
  have hdrop {c : Char} (h : aheadIs c x = true) :
      (x ++ space :: y).drop 1 = x.drop 1 ++ space :: y :=
    List.drop_append_of_le_length (length_pos_of_ahead h)
  rw [List.cons_append, runeBody, runeBody,
    aheadIs_space y (by decide), aheadIs_space y (by decide),
    aheadIs_space y (by decide), aheadMany_space hoctal, ahead_space y (by decide)]
  split
  · split
    · rename_i h
      rw [hdrop h, aheadMany_space hhex]
    split
    · rename_i h
      rw [hdrop h, aheadMany_space hhex]
    split
    · rename_i h
      rw [hdrop h, aheadMany_space hhex]
    · rfl
  · rfl

/-- A number of characters is there only if the text is long enough. -/
theorem le_length_of_aheadMany {p : Char → Bool} {n : Nat} {x : List Rune}
    (h : aheadMany p n x = true) : n ≤ x.length := by
  rw [aheadMany, Bool.and_eq_true, beq_iff_eq, List.length_take] at h
  omega

/-- What is inside a rune literal lies within the text. -/
theorem runeBody_le (r : Rune) (x : List Rune) : runeBody (r :: x) ≤ x.length + 1 := by
  have hdrop {c : Char} (hc : aheadIs c x = true) {n : Nat}
      (hn : aheadMany isHex n (x.drop 1) = true) : n + 2 ≤ x.length + 1 := by
    have hpos := length_pos_of_ahead hc
    have hle := le_length_of_aheadMany hn
    rw [List.length_drop] at hle
    omega
  rw [runeBody]
  split
  · split
    · rename_i hc
      split
      · rename_i hn
        exact hdrop hc hn
      · exact Nat.zero_le _
    split
    · rename_i hc
      split
      · rename_i hn
        exact hdrop hc hn
      · exact Nat.zero_le _
    split
    · rename_i hc
      split
      · rename_i hn
        exact hdrop hc hn
      · exact Nat.zero_le _
    split
    · rename_i hn
      exact Nat.succ_le_succ (le_length_of_aheadMany hn)
    split
    · rename_i h
      exact Nat.succ_le_succ (length_pos_of_ahead h)
    · exact Nat.zero_le _
  · split <;> omega

/-- A rune literal is the same if more is put in after it. -/
theorem rune_of_space {x y : List Rune} (h : rune (x ++ space :: y) ≤ x.length) :
    rune (x ++ space :: (note ++ y)) = rune (x ++ space :: y) := by
  have hclosing : StopsAtSpace closingQuote :=
    .guard (fun x y => aheadIs_space y (by decide)) (fun x h => length_pos_of_ahead h)
      (fun _ _ _ => rfl) .zero
  rcases x with _ | ⟨q, _ | ⟨r, x⟩⟩
  · rfl
  · -- The space itself may stand in the quotes, but then it is part of the literal.
    have hbody (y : List Rune) : runeBody (space :: y) = 1 := by
      simp [runeBody, show space.is '\\' = false by decide, show space.is '\'' = false by decide,
        show isNul space = false by decide]
    have hrune (y : List Rune) : rune (q :: space :: y) =
        if aheadIs '\'' [q] then further 2 (closingQuote y) else 0 := by
      have hq : aheadIs '\'' (q :: space :: y) = aheadIs '\'' [q] := rfl
      simp [rune, hq, andThen, further, hbody]
    have hnote : closingQuote (note ++ y) = 0 := by
      simp [closingQuote, note, aheadIs, ahead, Rune.satisfies]
    rw [List.singleton_append, hrune] at h ⊢
    rw [List.singleton_append, hrune, hnote]
    split
    · rename_i hq
      rw [if_pos hq, List.length_singleton] at h
      have hzero : closingQuote y = 0 := by
        unfold further at h
        split at h
        · assumption
        · omega
      rw [hzero]
    · rfl
  · have hinner (y : List Rune) :
        andThen 1 runeBody (q :: r :: x ++ space :: y) = further 1 (runeBody (r :: x)) := by
      rw [← runeBody_space r x y]
      rfl
    have hle : further 1 (runeBody (r :: x)) ≤ (q :: r :: x).length := by
      have hbody := runeBody_le r x
      unfold further
      split
      · exact Nat.zero_le _
      · rw [List.length_cons, List.length_cons]
        omega
    have hlocal (y : List Rune) : rune (q :: r :: x ++ space :: y) =
        if aheadIs '\'' (q :: r :: x) then
          andThen (further 1 (runeBody (r :: x))) closingQuote (q :: r :: x)
        else 0 := by
      rw [rune, hinner, andThen_space hclosing hle, aheadIs_space y (by decide)]
    rw [hlocal, hlocal]

/-! ## Comments -/

/-- A comment that is closed before a space is closed there whatever follows. -/
theorem commentRest_of_space (y' : List Rune) : ∀ {x y : List Rune},
    commentRest (x ++ space :: y) ≠ 0 → commentRest (x ++ space :: y) ≤ x.length →
      commentRest (x ++ space :: y') = commentRest (x ++ space :: y)
  | [], y, hne, hle => absurd (Nat.le_zero.1 hle) hne
  | r :: x, y, hne, hle => by
    rw [List.cons_append, commentRest] at hne hle
    rw [List.cons_append, List.cons_append, commentRest, commentRest]
    rw [aheadIs_space y (by decide)] at hne hle ⊢
    rw [aheadIs_space y' (by decide)]
    split
    · rfl
    split
    · rfl
    · rename_i hnul hend
      rw [if_neg hnul, if_neg hend] at hne hle
      rw [List.length_cons, Nat.add_comm] at hle
      rw [commentRest_of_space y' (fun h => hne (further_eq_zero.2 h)) (further_le hle)]

/-- A comment that is not closed before a character with code zero is not closed at all. -/
theorem commentRest_of_nul {y y' : List Rune} : ∀ {x : List Rune}, (∃ r ∈ x, isNul r = true) →
    commentRest (x ++ y) = 0 → commentRest (x ++ y') = 0
  | [], hnul, _ => by
    obtain ⟨r, hr, -⟩ := hnul
    cases hr
  | r :: x, hnul, h => by
    rw [List.cons_append, commentRest] at h ⊢
    split
    · rfl
    · rename_i hr
      have hrest : ∃ r ∈ x, isNul r = true := by
        obtain ⟨r', hr', hnul⟩ := hnul
        rcases List.mem_cons.1 hr' with rfl | hr'
        · exact absurd hnul hr
        · exact ⟨r', hr', hnul⟩
      have hahead : aheadIs '/' (x ++ y') = aheadIs '/' (x ++ y) := by
        cases x with
        | nil => obtain ⟨_, hr', _⟩ := hrest; cases hr'
        | cons => rfl
      rw [if_neg hr] at h
      rw [hahead]
      split at h
      · cases h
      · rename_i hend
        rw [if_neg hend, further_eq_zero]
        exact commentRest_of_nul hrest (further_eq_zero.1 h)

/-- A comment is the same if more is put in after it, unless it would be closed by that. -/
theorem comment_of_space (y' : List Rune) {x y : List Rune}
    (hclosed : startsWith ['/', '*'] x = true → comment (x ++ space :: y) = 0 →
      ∃ r ∈ x.drop 2, isNul r = true)
    (hle : comment (x ++ space :: y) ≤ x.length) :
    comment (x ++ space :: y') = comment (x ++ space :: y) := by
  have hline (y : List Rune) : startsWith ['/', '/'] (x ++ space :: y) = startsWith ['/', '/'] x :=
    startsWith_space y (by decide) x
  have hbracket (y : List Rune) :
      startsWith ['/', '*'] (x ++ space :: y) = startsWith ['/', '*'] x :=
    startsWith_space y (by decide) x
  rw [comment, hline, hbracket] at hle hclosed ⊢
  rw [comment, hline, hbracket]
  split
  · rename_i h
    rw [if_pos h] at hle
    rw [List.takeWhile_append] at hle
    split at hle
    · -- The line would not end before the space.
      have hpass : (!(space.is '\n' || isNul space)) = true := by decide
      rw [List.takeWhile_cons, if_pos hpass, List.length_append, List.length_cons] at hle
      omega
    · rename_i hshort
      rw [List.takeWhile_append, List.takeWhile_append, if_neg hshort, if_neg hshort]
  split
  · rename_i hline' h
    have hlength : 2 ≤ x.length := length_le_of_startsWith h
    rw [if_neg hline', if_pos h] at hle
    have hnul := hclosed h
    rw [if_neg hline', if_pos h] at hnul
    rw [andThen, List.drop_append_of_le_length hlength] at hnul hle ⊢
    rw [andThen, List.drop_append_of_le_length hlength]
    have hdrop : 2 + (x.drop 2).length = x.length := by
      rw [List.length_drop]
      omega
    rw [if_neg (by decide)] at hnul hle
    rw [← hdrop] at hle
    by_cases hrest : commentRest (x.drop 2 ++ space :: y) = 0
    · rw [hrest, commentRest_of_nul (hnul (further_eq_zero.2 hrest)) hrest]
    · rw [commentRest_of_space y' hrest (further_le hle)]
  · rfl

/-! ## Lexemes and pieces -/

/-- The longest of more candidates is one of them, or the longest so far. -/
theorem foldl_longest (best : TokenKind × Nat) (cs : List (TokenKind × Nat)) :
    let found := cs.foldl (fun best c => if best.2 < c.2 then c else best) best
    best.2 ≤ found.2 ∧ (∀ c ∈ cs, c.2 ≤ found.2) ∧ (found = best ∨ found ∈ cs) := by
  induction cs generalizing best with
  | nil => simp
  | cons c cs ih =>
    intro found
    by_cases hc : best.2 < c.2
    · obtain ⟨hle, hall, hfound⟩ := ih c
      have hstep : found = cs.foldl (fun best c => if best.2 < c.2 then c else best) c := by
        simp [found, hc]
      rw [← hstep] at hle hall hfound
      refine ⟨by omega, ?_, ?_⟩
      · exact List.forall_mem_cons.2 ⟨hle, hall⟩
      · exact .inr (List.mem_cons.2 hfound)
    · obtain ⟨hle, hall, hfound⟩ := ih best
      have hstep : found = cs.foldl (fun best c => if best.2 < c.2 then c else best) best := by
        simp [found, hc]
      rw [← hstep] at hle hall hfound
      refine ⟨hle, ?_, ?_⟩
      · exact List.forall_mem_cons.2 ⟨by omega, hall⟩
      · exact hfound.imp_right (List.mem_cons_of_mem c)

/-- No candidate is longer than the longest. -/
theorem le_longest {cs : List (TokenKind × Nat)} {c : TokenKind × Nat} (hc : c ∈ cs) :
    c.2 ≤ (longest cs).2 :=
  (foldl_longest _ cs).2.1 c hc

/-- The longest candidate is a candidate, if it is not empty. -/
theorem longest_mem {cs : List (TokenKind × Nat)} (h : (longest cs).2 ≠ 0) : longest cs ∈ cs := by
  rcases (foldl_longest (.stray, 0) cs).2.2 with hstart | hmem
  · exact absurd (congrArg Prod.snd hstart) h
  · exact hmem

/-- What a text may start with is the same if more is put in after it. -/
theorem candidates_of_space {x y : List Rune}
    (h : ∀ c ∈ candidates (x ++ space :: y), c.2 ≤ x.length) :
    candidates (x ++ space :: (note ++ y)) = candidates (x ++ space :: y) := by
  have hfloat : StopsAtSpace float := stopsAtSpace_decimalFloat.max stopsAtSpace_hexFloat
  have hstring : string (x ++ space :: (note ++ y)) = string (x ++ space :: y) :=
    quoted_of_space (by decide) stringRest_of_space
      (h (.string, string (x ++ space :: y)) (by simp [candidates]))
  have hraw : rawString (x ++ space :: (note ++ y)) = rawString (x ++ space :: y) :=
    quoted_of_space (by decide) (through_of_space (by decide) (by decide))
      (h (.rawString, rawString (x ++ space :: y)) (by simp [candidates]))
  have hrune : rune (x ++ space :: (note ++ y)) = rune (x ++ space :: y) :=
    rune_of_space (h (.rune, rune (x ++ space :: y)) (by simp [candidates]))
  simp only [candidates, stopsAtSpace_word.space, stopsAtSpace_imaginary.space, hfloat.space,
    stopsAtSpace_int.space, hstring, hraw, hrune]

/-- A lexeme is not longer than the longest candidate, if there is one that is not empty. -/
theorem longest_le_lexeme (rs : List Rune) :
    (longest (candidates rs)).2 ≤ (lexeme rs).2 := by
  rw [lexeme]
  split <;> omega

/-- Every lexeme takes a rune. -/
theorem lexeme_pos (rs : List Rune) : 0 < (lexeme rs).2 := by
  rw [lexeme]
  split
  · split
    · exact Nat.one_pos
    · rename_i hne
      exact Nat.pos_of_ne_zero hne
  · rename_i hne
    exact Nat.pos_of_ne_zero hne

/-- A lexeme before a space is the same if more is put in after it. -/
theorem lexeme_of_space {x y : List Rune}
    (h : (lexeme (x ++ space :: y)).2 ≤ x.length) :
    lexeme (x ++ space :: (note ++ y)) = lexeme (x ++ space :: y) := by
  have hcandidates : candidates (x ++ space :: (note ++ y)) = candidates (x ++ space :: y) :=
    candidates_of_space fun c hc =>
      Nat.le_trans (le_longest hc) (Nat.le_trans (longest_le_lexeme _) h)
  have hmark (y : List Rune) : mark (x ++ space :: y) = mark x := stopsAtSpace_mark.space x y
  have hnul (y : List Rune) :
      ahead (· == Char.ofNat 0) (x ++ space :: y) = ahead (· == Char.ofNat 0) x :=
    ahead_space y (by decide)
  rw [lexeme, lexeme, hcandidates, hmark, hmark, hnul, hnul]

/-- What a text may start with, and cannot hold a space, ends before the space. -/
theorem candidates_le {x y : List Rune} :
    ∀ c ∈ candidates (x ++ space :: y), c.1.isText = false → c.2 ≤ x.length := by
  have hfloat : StopsAtSpace float := stopsAtSpace_decimalFloat.max stopsAtSpace_hexFloat
  have hle {f : List Rune → Nat} (hf : StopsAtSpace f) : f (x ++ space :: y) ≤ x.length :=
    hf.space x y ▸ hf.le x
  simp only [candidates, List.forall_mem_cons]
  exact ⟨fun _ => hle stopsAtSpace_word, fun _ => hle stopsAtSpace_imaginary, fun _ => hle hfloat,
    fun _ => hle stopsAtSpace_int, nofun, nofun, nofun, nofun⟩

/-- A lexeme that goes beyond a space is a literal that can hold one. -/
theorem isText_of_lexeme {x y : List Rune} (hx : x ≠ [])
    (h : x.length < (lexeme (x ++ space :: y)).2) :
    (lexeme (x ++ space :: y)).1.isText = true := by
  have hmark : mark (x ++ space :: y) ≤ x.length :=
    stopsAtSpace_mark.space x y ▸ stopsAtSpace_mark.le x
  have hlength : 0 < x.length := List.length_pos_iff.2 hx
  rw [lexeme] at h ⊢
  split at h
  · split at h
    · exact absurd hlength (Nat.not_lt.2 (Nat.le_of_lt_succ h))
    · exact absurd hmark (Nat.not_le.2 h)
  · rename_i hne
    rw [if_neg hne]
    cases htext : (longest (candidates (x ++ space :: y))).1.isText with
    | false => exact absurd (candidates_le _ (longest_mem hne) htext) (Nat.not_le.2 h)
    | true => rfl

/-- Every piece takes a rune. -/
theorem piece_pos (rs : List Rune) : 0 < (piece rs).2 := by
  rw [piece]
  split
  · exact Nat.one_pos
  split
  · exact lexeme_pos rs
  · rename_i hne
    exact Nat.pos_of_ne_zero hne

/-- A piece before a space is the same if more is put in after it, unless that closes a comment. -/
theorem piece_of_space {x y : List Rune} (hx : x ≠ [])
    (hclosed : startsWith ['/', '*'] x = true → comment (x ++ space :: y) = 0 →
      ∃ r ∈ x.drop 2, isNul r = true)
    (h : (piece (x ++ space :: y)).2 ≤ x.length) :
    piece (x ++ space :: (note ++ y)) = piece (x ++ space :: y) := by
  have hblank (y : List Rune) : ahead isSpace (x ++ space :: y) = ahead isSpace x := by
    cases x with
    | nil => exact absurd rfl hx
    | cons r x => rfl
  rw [piece, hblank] at h ⊢
  rw [piece, hblank]
  split
  · rfl
  · rename_i hahead
    rw [if_neg hahead] at h
    have hle : comment (x ++ space :: y) ≤ x.length := by
      split at h
      · omega
      · exact h
    rw [comment_of_space (note ++ y) hclosed hle]
    split
    · rename_i hzero
      rw [hzero] at h
      rw [lexeme_of_space h]
    · rfl

/-- A piece that goes beyond a space is a comment or a literal that can hold one. -/
theorem holds_space_of_piece {x y : List Rune} (hx : x ≠ [])
    (h : x.length < (piece (x ++ space :: y)).2) :
    (piece (x ++ space :: y)).1 = .comment ∨
      ∃ kind, kind.isText = true ∧ (piece (x ++ space :: y)).1 = .token kind := by
  have hlength : 0 < x.length := List.length_pos_iff.2 hx
  rw [piece] at h ⊢
  split at h
  · exact absurd hlength (Nat.not_lt.2 (Nat.le_of_lt_succ h))
  · rename_i hahead
    rw [if_neg hahead]
    split at h
    · exact .inr ⟨_, isText_of_lexeme hx h, rfl⟩
    · exact .inl rfl

end Lexer

end GoSurvey.Go
