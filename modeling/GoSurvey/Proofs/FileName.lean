import Mathlib.Data.List.Basic
import Mathlib.Data.List.TakeWhile
import GoSurvey.FileName
import GoSurvey.Proofs.Path

/-!
# Names as texts

Decoding undoes encoding (`Utf8.decode_encode`), so a name that is a text is shown as that text
(`FileName.shown_ofString`) and told by it (`FileName.text?_eq_some_iff`). A byte below `0x80` is a
character of its own wherever it stands (`Utf8.decode_append_cons`), and no other bytes give such a
character (`Utf8.mem_decode`, `Utf8.cons_of_decode`). So whether a name starts with a dot, has a
slash in it or ends in some way can be told from its bytes or from the text by which it is shown.
-/

namespace GoSurvey

namespace Utf8

/-! ## Decoding what was encoded -/

/-- Decoding goes byte by byte. -/
theorem decode_cons (state : Option Pending) (b : UInt8) (bs : List UInt8) :
    decode state (b :: bs) = (step state b.toNat).1 ++ decode (step state b.toNat).2 bs := by
  cases state <;> rw [decode]

section
variable {bits left low high n : Nat} {bs : List UInt8}

theorem toNat_ofNat_of_lt (h : n < 256) : (UInt8.ofNat n).toNat = n := by
  rw [UInt8.toNat_ofNat', Nat.mod_eq_of_lt h]

/-- A byte below `0x80` is a character. -/
theorem decode_small (h : n < 0x80) :
    decode none (UInt8.ofNat n :: bs) = Char.ofNat n :: decode none bs := by
  rw [decode_cons, toNat_ofNat_of_lt (by omega), step, begin, if_pos h]
  rfl

/-- The first byte of a longer character leaves the rest of it pending. -/
theorem decode_lead {p : Pending} (hlow : 0x80 ≤ n) (hn : n < 256) (h : lead? n = some p) :
    decode none (UInt8.ofNat n :: bs) = decode (some p) bs := by
  rw [decode_cons, toNat_ofNat_of_lt hn, step, begin, if_neg (by omega), h]
  rfl

/-- A byte in the middle of a character adds its bits to what is pending. -/
theorem decode_more (hlow : low ≤ n) (hhigh : n ≤ high) (hn : n < 256) :
    decode (some ⟨bits, left + 1, low, high⟩) (UInt8.ofNat n :: bs) =
      decode (some ⟨bits * 0x40 + (n - 0x80), left, 0x80, 0xBF⟩) bs := by
  rw [decode_cons, toNat_ofNat_of_lt hn, step, if_pos ⟨hlow, hhigh⟩]
  rfl

/-- The last byte of a character. -/
theorem decode_last (hlow : low ≤ n) (hhigh : n ≤ high) (hn : n < 256) :
    decode (some ⟨bits, 0, low, high⟩) (UInt8.ofNat n :: bs) =
      Char.ofNat (bits * 0x40 + (n - 0x80)) :: decode none bs := by
  rw [decode_cons, toNat_ofNat_of_lt hn, step, if_pos ⟨hlow, hhigh⟩]
  rfl

end

section
variable {v : Nat} (bs : List UInt8)

/-- A number of two bytes is decoded to itself. -/
theorem decode_two (hlow : 0x80 ≤ v) (hhigh : v < 0x800) :
    decode none (UInt8.ofNat (v / 64 % 32 + 192) :: UInt8.ofNat (v % 64 + 128) :: bs) =
      Char.ofNat v :: decode none bs := by
  have hlead : lead? (v / 64 % 32 + 192) = some ⟨v / 64 % 32, 0, 0x80, 0xBF⟩ := by
    rw [lead?, if_neg (by omega), if_pos (by omega), Nat.add_sub_cancel]
  have hbits : v / 64 % 32 * 0x40 + v % 64 = v := by omega
  rw [decode_lead (by omega) (by omega) hlead, decode_last (by omega) (by omega) (by omega),
    Nat.add_sub_cancel, hbits]

/-- A number of three bytes is decoded to itself, unless it is a surrogate. -/
theorem decode_three (hlow : 0x800 ≤ v) (hhigh : v < 0x10000) (hv : v < 0xD800 ∨ 0xDFFF < v) :
    decode none (UInt8.ofNat (v / 4096 % 16 + 224) :: UInt8.ofNat (v / 64 % 64 + 128) ::
        UInt8.ofNat (v % 64 + 128) :: bs) = Char.ofNat v :: decode none bs := by
  have hlead : lead? (v / 4096 % 16 + 224) = some ⟨v / 4096 % 16, 1,
      if v / 4096 % 16 + 224 = 0xE0 then 0xA0 else 0x80,
      if v / 4096 % 16 + 224 = 0xED then 0x9F else 0xBF⟩ := by
    rw [lead?, if_neg (by omega), if_neg (by omega), if_pos (by omega), Nat.add_sub_cancel]
  have hbits : (v / 4096 % 16 * 0x40 + v / 64 % 64) * 0x40 + v % 64 = v := by omega
  rw [decode_lead (by omega) (by omega) hlead,
    decode_more (by split <;> omega) (by split <;> omega) (by omega),
    decode_last (by omega) (by omega) (by omega), Nat.add_sub_cancel, Nat.add_sub_cancel, hbits]

/-- A number of four bytes is decoded to itself, unless it is above all characters. -/
theorem decode_four (hlow : 0x10000 ≤ v) (hhigh : v < 0x110000) :
    decode none (UInt8.ofNat (v / 262144 % 8 + 240) :: UInt8.ofNat (v / 4096 % 64 + 128) ::
        UInt8.ofNat (v / 64 % 64 + 128) :: UInt8.ofNat (v % 64 + 128) :: bs) =
      Char.ofNat v :: decode none bs := by
  have hlead : lead? (v / 262144 % 8 + 240) = some ⟨v / 262144 % 8, 2,
      if v / 262144 % 8 + 240 = 0xF0 then 0x90 else 0x80,
      if v / 262144 % 8 + 240 = 0xF4 then 0x8F else 0xBF⟩ := by
    rw [lead?, if_neg (by omega), if_neg (by omega), if_neg (by omega), if_pos (by omega),
      Nat.add_sub_cancel]
  have hbits : ((v / 262144 % 8 * 0x40 + v / 4096 % 64) * 0x40 + v / 64 % 64) * 0x40 + v % 64 =
      v := by omega
  rw [decode_lead (by omega) (by omega) hlead,
    decode_more (by split <;> omega) (by split <;> omega) (by omega),
    decode_more (by omega) (by omega) (by omega), decode_last (by omega) (by omega) (by omega),
    Nat.add_sub_cancel, Nat.add_sub_cancel, Nat.add_sub_cancel, hbits]

/-- A character in front of other bytes is decoded to itself. -/
theorem decode_encodeChar (c : Char) :
    decode none (String.utf8EncodeChar c ++ bs) = c :: decode none bs := by
  have hc : Char.ofNat c.val.toNat = c := Char.ofNat_toNat c
  have hvalid : c.val.toNat < 0xD800 ∨ 0xDFFF < c.val.toNat ∧ c.val.toNat < 0x110000 := c.valid
  simp only [String.utf8EncodeChar]
  split
  next => rw [List.singleton_append, decode_small (by omega), hc]
  next =>
    split
    next => exact (decode_two bs (by omega) (by omega)).trans (by rw [hc])
    next =>
      split
      next => exact (decode_three bs (by omega) (by omega) (by omega)).trans (by rw [hc])
      next => exact (decode_four bs (by omega) (by omega)).trans (by rw [hc])

/-- A text in front of other bytes is decoded to itself. -/
theorem decode_encode (cs : List Char) :
    decode none (cs.flatMap String.utf8EncodeChar ++ bs) = cs ++ decode none bs := by
  induction cs with
  | nil => rfl
  | cons c cs ih =>
    rw [List.flatMap_cons, List.append_assoc, decode_encodeChar, ih, List.cons_append]

end

/-! ## Small characters -/

/-- A character other than the null that takes one byte. -/
def IsSmall (c : Char) : Prop :=
  0 < c.toNat ∧ c.toNat < 0x80

instance (c : Char) : Decidable (IsSmall c) :=
  inferInstanceAs (Decidable (0 < c.toNat ∧ c.toNat < 0x80))

theorem not_isSmall_replacement : ¬ IsSmall replacement := by
  decide

theorem toNat_ofNat_of_valid {v : Nat} (h : v.isValidChar) : (Char.ofNat v).toNat = v := by
  rw [Char.ofNat, dif_pos h]
  rfl

/-- A number that takes more bytes gives no small character; if it is none, it gives the null. -/
theorem not_isSmall_ofNat {v : Nat} (h : 0x80 ≤ v) : ¬ IsSmall (Char.ofNat v) := by
  rintro ⟨hpos, hlt⟩
  by_cases hv : v.isValidChar
  · rw [toNat_ofNat_of_valid hv] at hlt
    omega
  · simp [Char.ofNat, hv] at hpos

/-- The bytes that go on with what is pending are no small characters, and neither is what they
make up. -/
structure Pending.Wide (p : Pending) : Prop where
  low_ge : 0x80 ≤ p.low
  bits_ge : 0x80 ≤ (p.bits * 0x40 + (p.low - 0x80)) * Nat.pow 0x40 p.left

theorem wide_of_lead? {b : Nat} {p : Pending} (h : lead? b = some p) : p.Wide := by
  unfold lead? at h
  split at h
  · cases h
  split at h
  · obtain rfl := Option.some.inj h
    constructor <;> dsimp only [Nat.pow_eq] <;> omega
  split at h
  · obtain rfl := Option.some.inj h
    constructor <;> dsimp only [Nat.pow_eq] <;> split <;> omega
  split at h
  · obtain rfl := Option.some.inj h
    constructor <;> dsimp only [Nat.pow_eq] <;> split <;> omega
  · cases h

section
variable {p : Pending} {c : Char} {bs : List UInt8}

/-- What is pending after one more byte. -/
theorem Pending.Wide.more {left n : Nat} (h : p.Wide) (hleft : p.left = left + 1) (hn : p.low ≤ n) :
    Pending.Wide ⟨p.bits * 0x40 + (n - 0x80), left, 0x80, 0xBF⟩ where
  low_ge := Nat.le_refl _
  bits_ge := by
    have hbits := h.bits_ge
    rw [hleft, Nat.pow_eq, Nat.pow_succ', ← Nat.mul_assoc] at hbits
    refine hbits.trans (Nat.mul_le_mul_right _ ?_)
    dsimp only
    omega

/-- The last byte of a pending character. -/
theorem Pending.Wide.last {n : Nat} (h : p.Wide) (hleft : p.left = 0) (hn : p.low ≤ n) :
    0x80 ≤ p.bits * 0x40 + (n - 0x80) := by
  have hbits := h.bits_ge
  rw [hleft, Nat.pow_eq, Nat.pow_zero, Nat.mul_one] at hbits
  omega

/-- A byte goes on with what is pending, or ends it. -/
theorem step_cases (p : Pending) (n : Nat) :
    (p.low ≤ n ∧ p.left = 0 ∧
      step (some p) n = ([Char.ofNat (p.bits * 0x40 + (n - 0x80))], none)) ∨
    (p.low ≤ n ∧ ∃ left, p.left = left + 1 ∧
      step (some p) n = ([], some ⟨p.bits * 0x40 + (n - 0x80), left, 0x80, 0xBF⟩)) ∨
    step (some p) n = (replacement :: (begin n).1, (begin n).2) := by
  rw [step]
  split
  next h =>
    cases hleft : p.left with
    | zero => exact .inl ⟨h.1, rfl, rfl⟩
    | succ left => exact .inr (.inl ⟨h.1, left, rfl, rfl⟩)
  next => exact .inr (.inr rfl)

/-- A byte where a character may start: a small one, the first of a longer one, or neither. -/
theorem begin_cases (n : Nat) :
    (n < 0x80 ∧ begin n = ([Char.ofNat n], none)) ∨
    (0x80 ≤ n ∧ ∃ p, p.Wide ∧ begin n = ([], some p)) ∨
    (0x80 ≤ n ∧ begin n = ([replacement], none)) := by
  rw [begin]
  split
  next h => exact .inl ⟨h, rfl⟩
  next h =>
    cases hlead : lead? n with
    | none => exact .inr (.inr ⟨Nat.not_lt.1 h, rfl⟩)
    | some p => exact .inr (.inl ⟨Nat.not_lt.1 h, p, wide_of_lead? hlead, rfl⟩)

/-- What is pending starts with a character that is not small. -/
theorem Pending.Wide.exists_decode (h : p.Wide) (bs : List UInt8) :
    ∃ c rest, decode (some p) bs = c :: rest ∧ ¬ IsSmall c := by
  induction bs generalizing p with
  | nil => exact ⟨_, _, rfl, not_isSmall_replacement⟩
  | cons b bs ih =>
    rw [decode_cons]
    obtain ⟨hn, hleft, hstep⟩ | ⟨hn, left, hleft, hstep⟩ | hstep := step_cases p b.toNat
    · rw [hstep]
      exact ⟨_, _, rfl, not_isSmall_ofNat (h.last hleft hn)⟩
    · rw [hstep]
      exact ih (h.more hleft hn)
    · rw [hstep]
      exact ⟨_, _, rfl, not_isSmall_replacement⟩

/-- A small character comes from the byte that it is. -/
theorem cons_of_decode {b : UInt8} {c : Char} {bs : List UInt8} {cs : List Char} (hc : IsSmall c)
    (h : decode none (b :: bs) = c :: cs) :
    b.toNat < 0x80 ∧ c = Char.ofNat b.toNat ∧ decode none bs = cs := by
  rw [decode_cons, step] at h
  obtain ⟨hb, hbegin⟩ | ⟨-, p, hp, hbegin⟩ | ⟨-, hbegin⟩ := begin_cases b.toNat
  · rw [hbegin] at h
    obtain ⟨rfl, rfl⟩ := List.cons.inj h
    exact ⟨hb, rfl, rfl⟩
  · rw [hbegin] at h
    obtain ⟨c', rest, hdecode, hc'⟩ := hp.exists_decode bs
    rw [List.nil_append, hdecode] at h
    obtain ⟨rfl, -⟩ := List.cons.inj h
    exact absurd hc hc'
  · rw [hbegin] at h
    obtain ⟨rfl, -⟩ := List.cons.inj h
    exact absurd hc not_isSmall_replacement

/-- Some bytes give some characters. -/
theorem decode_cons_ne_nil (b : UInt8) (bs : List UInt8) : decode none (b :: bs) ≠ [] := by
  rw [decode_cons, step]
  obtain ⟨-, hbegin⟩ | ⟨-, p, hp, hbegin⟩ | ⟨-, hbegin⟩ := begin_cases b.toNat
  · simp [hbegin]
  · obtain ⟨c, rest, hdecode, -⟩ := hp.exists_decode bs
    simp [hbegin, hdecode]
  · simp [hbegin]

/-- A small character is encoded by the byte that it is. -/
theorem encodeChar_of_isSmall {b : UInt8} (hb : b.toNat < 0x80) :
    String.utf8EncodeChar (Char.ofNat b.toNat) = [b] := by
  have htoNat : (Char.ofNat b.toNat).val.toNat = b.toNat :=
    toNat_ofNat_of_valid (.inl (by omega))
  simp only [String.utf8EncodeChar, htoNat]
  rw [if_pos (by omega), UInt8.ofNat_toNat]

/-- The byte that a small character is. -/
theorem exists_byte (hc : IsSmall c) :
    ∃ b : UInt8, b.toNat < 0x80 ∧ c = Char.ofNat b.toNat := by
  refine ⟨UInt8.ofNat c.toNat, ?_⟩
  rw [toNat_ofNat_of_lt (Nat.lt_trans hc.2 (by decide)), Char.ofNat_toNat]
  exact ⟨hc.2, rfl⟩

/-- Only one list of bytes gives a text of small characters. -/
theorem eq_encode_of_decode {bs : List UInt8} {cs : List Char} (hcs : ∀ c ∈ cs, IsSmall c)
    (h : decode none bs = cs) : bs = cs.flatMap String.utf8EncodeChar := by
  induction cs generalizing bs with
  | nil =>
    cases bs with
    | nil => rfl
    | cons b bs => exact absurd h (decode_cons_ne_nil b bs)
  | cons c cs ih =>
    obtain ⟨hc, hsmall⟩ := List.forall_mem_cons.1 hcs
    cases bs with
    | nil => cases h
    | cons b bs =>
      obtain ⟨hb, rfl, hrest⟩ := cons_of_decode hc h
      rw [List.flatMap_cons, encodeChar_of_isSmall hb, ← ih hsmall hrest]
      rfl

/-- What a byte leaves pending where a character may start. -/
theorem wide_begin (n : Nat) : ∀ p ∈ (begin n).2, p.Wide := by
  obtain ⟨-, hbegin⟩ | ⟨-, q, hq, hbegin⟩ | ⟨-, hbegin⟩ := begin_cases n
  · simp [hbegin]
  · simpa [hbegin] using hq
  · simp [hbegin]

/-- What a byte leaves pending. -/
theorem wide_step {state : Option Pending} (hstate : ∀ p ∈ state, p.Wide) (n : Nat) :
    ∀ p ∈ (step state n).2, p.Wide := by
  cases state with
  | none => exact wide_begin n
  | some p =>
    obtain ⟨-, -, hstep⟩ | ⟨hn, left, hleft, hstep⟩ | hstep := step_cases p n
    · simp [hstep]
    · simpa [hstep] using (hstate p rfl).more hleft hn
    · simpa [hstep] using wide_begin n

/-- A small character comes from a byte that is that character, where one may start. -/
theorem mem_begin {n : Nat} (hc : IsSmall c) (h : c ∈ (begin n).1) :
    n < 0x80 ∧ c = Char.ofNat n := by
  obtain ⟨hn, hbegin⟩ | ⟨-, p, -, hbegin⟩ | ⟨-, hbegin⟩ := begin_cases n
  · rw [hbegin, List.mem_singleton] at h
    exact ⟨hn, h⟩
  · rw [hbegin] at h
    cases h
  · rw [hbegin, List.mem_singleton] at h
    exact absurd (h ▸ hc) not_isSmall_replacement

/-- A small character comes from a byte that is that character. -/
theorem mem_step {state : Option Pending} (hstate : ∀ p ∈ state, p.Wide) {n : Nat} (hc : IsSmall c)
    (h : c ∈ (step state n).1) : n < 0x80 ∧ c = Char.ofNat n := by
  cases state with
  | none => exact mem_begin hc h
  | some p =>
    obtain ⟨hn, hleft, hstep⟩ | ⟨-, left, -, hstep⟩ | hstep := step_cases p n
    · rw [hstep, List.mem_singleton] at h
      exact absurd (h ▸ hc) (not_isSmall_ofNat ((hstate p rfl).last hleft hn))
    · rw [hstep] at h
      cases h
    · rw [hstep, List.mem_cons] at h
      rcases h with rfl | h
      · exact absurd hc not_isSmall_replacement
      · exact mem_begin hc h

/-- A small character of a text comes from one of the bytes. -/
theorem mem_decode {state : Option Pending} (hstate : ∀ p ∈ state, p.Wide) (hc : IsSmall c)
    (h : c ∈ decode state bs) : ∃ b ∈ bs, b.toNat < 0x80 ∧ c = Char.ofNat b.toNat := by
  induction bs generalizing state with
  | nil =>
    cases state with
    | none => cases h
    | some p => exact absurd (List.mem_singleton.1 h ▸ hc) not_isSmall_replacement
  | cons b bs ih =>
    rw [decode_cons, List.mem_append] at h
    rcases h with h | h
    · exact ⟨b, List.mem_cons_self, mem_step hstate hc h⟩
    · obtain ⟨d, hd, hsmall⟩ := ih (wide_step hstate _) h
      exact ⟨d, List.mem_cons_of_mem _ hd, hsmall⟩

/-- A byte below `0x80` is a character of its own wherever it stands. -/
theorem decode_append_cons {state : Option Pending} (hstate : ∀ p ∈ state, p.Wide) {b : UInt8}
    (hb : b.toNat < 0x80) (bs rest : List UInt8) :
    decode state (bs ++ b :: rest) =
      decode state bs ++ Char.ofNat b.toNat :: decode none rest := by
  have hsmall : begin b.toNat = ([Char.ofNat b.toNat], none) := by
    rw [begin, if_pos hb]
  induction bs generalizing state with
  | nil =>
    cases state with
    | none =>
      rw [List.nil_append, decode_cons, step, hsmall]
      rfl
    | some p =>
      have hout : ¬ (p.low ≤ b.toNat ∧ b.toNat ≤ p.high) := fun hin =>
        Nat.not_lt.2 ((hstate p rfl).low_ge.trans hin.1) hb
      have hstep : step (some p) b.toNat =
          (replacement :: (begin b.toNat).1, (begin b.toNat).2) := by
        rw [step, if_neg hout]
      rw [List.nil_append, decode_cons, hstep, hsmall]
      rfl
  | cons d bs ih =>
    rw [List.cons_append, decode_cons, decode_cons, ih (wide_step hstate _), List.append_assoc]

end

end Utf8

/-! ## Names -/

namespace FileName

@[simp]
theorem shown_ofString (s : String) : (ofString s).shown = s := by
  have hdecode := Utf8.decode_encode [] s.toList
  rw [List.append_nil] at hdecode
  rw [shown, ofString, hdecode]
  simp [Utf8.decode]

@[simp]
theorem ofString_inj {s t : String} : ofString s = ofString t ↔ s = t := by
  refine ⟨fun h => ?_, congrArg ofString⟩
  rw [← shown_ofString s, h, shown_ofString]

theorem bytes_ofString_append (s t : String) :
    (ofString (s ++ t)).bytes = (ofString s).bytes ++ (ofString t).bytes := by
  simp [ofString]

/-- A name is a text if it is the name of that text. -/
theorem text?_eq_some_iff {n : FileName} {s : String} : n.text? = some s ↔ n = ofString s := by
  rw [text?]
  constructor
  · intro h
    split at h
    next heq =>
      obtain rfl := Option.some.inj h
      exact heq.symm
    next => cases h
  · rintro rfl
    rw [shown_ofString, if_pos rfl]

/-- A name is shown by a text of small characters if it is that text. -/
theorem shown_eq_iff {n : FileName} {s : String} (hs : s.toList.all (Utf8.IsSmall ·) = true) :
    n.shown = s ↔ n = ofString s := by
  constructor
  · intro h
    have hdecode : Utf8.decode none n.bytes = s.toList := by
      rw [← h, shown, String.toList_ofList]
    exact congrArg mk (Utf8.eq_encode_of_decode (by simpa using hs) hdecode)
  · rintro rfl
    exact shown_ofString s

/-- The name of a text. -/
def IsText (n : FileName) : Prop :=
  ∃ s, n = ofString s

theorem IsText.ofString_shown {n : FileName} (h : n.IsText) : ofString n.shown = n := by
  obtain ⟨s, rfl⟩ := h
  rw [shown_ofString]

instance (n : FileName) : Decidable n.IsText :=
  decidable_of_iff (ofString n.shown = n) ⟨fun h => ⟨_, h.symm⟩, IsText.ofString_shown⟩

/-! ## Order -/

instance : Std.TransOrd FileName :=
  inferInstanceAs (Std.TransCmp (compareOn bytes))

instance : Std.LawfulEqOrd FileName where
  compare_self := Std.ReflCmp.compare_self (α := List UInt8)
  eq_of_compare h := congrArg mk (Std.LawfulEqCmp.eq_of_compare (α := List UInt8) h)

/-! ## What a name starts with, holds and ends in -/

/-- A byte that is a small character is known from the character. -/
theorem eq_of_ofNat_eq {b d : UInt8} (hb : b.toNat < 0x80) (hd : d.toNat < 0x80)
    (h : Char.ofNat b.toNat = Char.ofNat d.toNat) : b = d := by
  have hbytes := Utf8.encodeChar_of_isSmall hb
  rw [h, Utf8.encodeChar_of_isSmall hd] at hbytes
  exact (List.cons.inj hbytes).1.symm

/-- A name is shown with a dot at the start if it starts with one. -/
theorem shown_eq_dot_append_iff {n : FileName} :
    (∃ rest, n.shown = "." ++ rest) ↔ ∃ rest, n.bytes = 0x2E :: rest := by
  constructor
  · rintro ⟨rest, h⟩
    have hdecode : Utf8.decode none n.bytes = '.' :: rest.toList := by
      have hlist := congrArg String.toList h
      rwa [shown, String.toList_ofList, String.toList_append] at hlist
    cases hbytes : n.bytes with
    | nil =>
      rw [hbytes] at hdecode
      cases hdecode
    | cons b bs =>
      rw [hbytes] at hdecode
      obtain ⟨hb, hc, -⟩ := Utf8.cons_of_decode (by decide) hdecode
      obtain rfl : b = 0x2E := eq_of_ofNat_eq hb (by decide) hc.symm
      exact ⟨bs, rfl⟩
  · rintro ⟨rest, h⟩
    refine ⟨String.ofList (Utf8.decode none rest), ?_⟩
    rw [shown, h, Utf8.decode_cons, ← String.ofList_append]
    rfl

/-- A slash is shown only if it stands in the name. -/
theorem mem_bytes_of_slash_mem {n : FileName} (h : '/' ∈ n.shown.toList) : 0x2F ∈ n.bytes := by
  rw [shown, String.toList_ofList] at h
  obtain ⟨b, hmem, hb, hc⟩ := Utf8.mem_decode (by simp) (by decide) h
  obtain rfl : b = 0x2F := eq_of_ofNat_eq hb (by decide) hc.symm
  exact hmem

/-- A name that a file or a directory below a root can have. -/
structure Proper (n : FileName) : Prop where
  ne_empty : n ≠ ""
  ne_current : n ≠ "."
  ne_parent : n ≠ ".."
  no_slash : 0x2F ∉ n.bytes

instance (n : FileName) : Decidable n.Proper :=
  decidable_of_iff (n ≠ "" ∧ n ≠ "." ∧ n ≠ ".." ∧ 0x2F ∉ n.bytes)
    ⟨fun ⟨h₁, h₂, h₃, h₄⟩ => ⟨h₁, h₂, h₃, h₄⟩, fun ⟨h₁, h₂, h₃, h₄⟩ => ⟨h₁, h₂, h₃, h₄⟩⟩

/-- What a proper name is shown by can stand in a path as a component. -/
theorem Proper.shown {n : FileName} (h : n.Proper) : Path.ProperName n.shown where
  ne_empty := mt (shown_eq_iff (by decide)).1 h.ne_empty
  ne_current := mt (shown_eq_iff (by decide)).1 h.ne_current
  ne_parent := mt (shown_eq_iff (by decide)).1 h.ne_parent
  no_slash := mt mem_bytes_of_slash_mem h.no_slash

/-- The name ends in a text. -/
def EndsIn (n : FileName) (s : String) : Prop :=
  (ofString s).bytes <:+ n.bytes

instance (n : FileName) (s : String) : Decidable (n.EndsIn s) :=
  inferInstanceAs (Decidable ((ofString s).bytes <:+ n.bytes))

/-- The name of a text ends in another one, which starts with a small character, if the text does.
-/
theorem endsIn_ofString_iff {s t : String} (ht : ∃ c ∈ t.toList.head?, Utf8.IsSmall c) :
    (ofString s).EndsIn t ↔ ∃ stem, s = stem ++ t := by
  constructor
  · rintro ⟨stem, hstem⟩
    obtain ⟨c, hhead, hc⟩ := ht
    obtain ⟨cs, hcs⟩ := List.head?_eq_some_iff.1 hhead
    refine ⟨String.ofList (Utf8.decode none stem), String.toList_injective ?_⟩
    obtain ⟨b, hb, rfl⟩ := Utf8.exists_byte hc
    have hrest := Utf8.decode_encode [] cs
    rw [List.append_nil, Utf8.decode, List.append_nil] at hrest
    rw [← shown_ofString s, shown, ← hstem, ofString, hcs, List.flatMap_cons,
      Utf8.encodeChar_of_isSmall hb, List.singleton_append,
      Utf8.decode_append_cons (by simp) hb, hrest]
    simp [hcs]
  · rintro ⟨stem, rfl⟩
    exact ⟨(ofString stem).bytes, (bytes_ofString_append _ _).symm⟩

/-! ## Extensions -/

/-- The part of a name after its last dot. -/
theorem takeWhile_reverse_append_dot (bs : List UInt8) {ds : List UInt8} (hdot : 0x2E ∉ ds) :
    (bs ++ 0x2E :: ds).reverse.takeWhile (· != 0x2E) = ds.reverse := by
  have hall : ∀ d ∈ ds.reverse, (d != 0x2E) = true := by
    intro d hd
    have hne : d ≠ 0x2E := fun heq => hdot (heq ▸ List.mem_reverse.1 hd)
    simpa using hne
  rw [List.reverse_append, List.reverse_cons, List.append_assoc, List.takeWhile_append_of_pos hall]
  simp

/-- A name is what comes up to its last dot, if there is one, and what comes after. -/
theorem exists_eq_append_takeWhile_reverse (bs : List UInt8) :
    ∃ ds, bs = ds ++ (bs.reverse.takeWhile (· != 0x2E)).reverse ∧
      (ds = [] ∨ ∃ es, ds = es ++ [0x2E]) := by
  have hcut := List.takeWhile_append_dropWhile (p := (· != 0x2E)) (l := bs.reverse)
  refine ⟨(bs.reverse.dropWhile (· != 0x2E)).reverse, ?_, ?_⟩
  · rw [← List.reverse_append, hcut, List.reverse_reverse]
  · have hhead := List.head?_dropWhile_not (· != 0x2E) bs.reverse
    cases hrest : bs.reverse.dropWhile (· != 0x2E) with
    | nil => exact .inl rfl
    | cons d ds =>
      rw [hrest] at hhead
      obtain rfl : d = 0x2E := by simpa using hhead
      exact .inr ⟨ds.reverse, List.reverse_cons⟩

/-- A name has an extension if it ends in that after a dot, and something comes before the dot. -/
theorem extension_eq_iff {n : FileName} {ext : String} (hne : ext ≠ "")
    (hdot : 0x2E ∉ (ofString ext).bytes) :
    n.extension = ext ↔ n.EndsIn ("." ++ ext) ∧ n ≠ ("." ++ ext : String) := by
  have hbytes : (ofString ("." ++ ext)).bytes = 0x2E :: (ofString ext).bytes :=
    bytes_ofString_append "." ext
  rw [EndsIn, hbytes]
  simp only [extension]
  constructor
  · intro h
    split at h
    · exact absurd h.symm hne
    case isFalse hlength =>
      have htail : (n.bytes.reverse.takeWhile (· != 0x2E)).reverse = (ofString ext).bytes := by
        cases htext : text? ⟨(n.bytes.reverse.takeWhile (· != 0x2E)).reverse⟩ with
        | none =>
          rw [htext] at h
          exact absurd h.symm hne
        | some s =>
          rw [htext] at h
          obtain rfl : s = ext := h
          exact congrArg bytes (text?_eq_some_iff.1 htext)
      obtain ⟨ds, hds, hlast⟩ := exists_eq_append_takeWhile_reverse n.bytes
      rw [htail] at hds hlength
      rw [hds, List.length_append, not_or] at hlength
      obtain rfl | ⟨stem, rfl⟩ := hlast
      · rw [List.length_nil] at hlength
        omega
      · have hstem : stem ≠ [] := by
          rintro rfl
          rw [List.nil_append, List.length_singleton] at hlength
          omega
        refine ⟨⟨stem, by rw [hds, List.append_assoc, List.singleton_append]⟩, fun heq => hstem ?_⟩
        rw [heq, hbytes] at hds
        simpa using hds
  · rintro ⟨⟨stem, hstem⟩, hn⟩
    have hpos : 0 < stem.length := by
      refine List.length_pos_iff.2 ?_
      rintro rfl
      exact hn (congrArg mk (hstem.symm.trans hbytes.symm))
    have hparent : n ≠ ".." := by
      rintro rfl
      have hlength : (ofString "..").bytes.length = 2 := rfl
      rw [← hstem, List.length_append, List.length_cons] at hlength
      have hempty : (ofString ext).bytes = [] := List.eq_nil_of_length_eq_zero (by omega)
      exact hne (ofString_inj.1 (congrArg mk hempty : ofString ext = ofString ""))
    rw [← hstem, takeWhile_reverse_append_dot _ hdot, List.reverse_reverse, List.length_append,
      List.length_cons, if_neg (not_or.2 ⟨by omega, hparent⟩), text?_eq_some_iff.2 rfl]
    rfl

end FileName

end GoSurvey
