import GoSurvey.Proofs.Decimal.Rounding

/-!
# The bits of a double

A finite double is its sign, mantissa and exponent: they can be taken apart from its bits and put
together again (`Binary.toFloat_of_ofFloat`), and the operations on doubles see the same three parts
(`Binary.unpack_pack`).
-/

namespace GoSurvey.Decimal

open Float.Model Float.Model.UnpackedFloat

/-- The sign as the operations on doubles have it. -/
def Binary.sign (b : Binary) : Sign :=
  if b.negative then .negative else .positive

/-- The double for a number. -/
def Binary.toFloat (b : Binary) : Float :=
  .ofModel <| .pack <|
    if h : b.mantissa = 0 then .zero b.sign
    else .finite b.sign b.mantissa b.exponent (Nat.pos_of_ne_zero h)

/-! ## Fields -/

/-- Bits that are put after others. -/
theorem toNat_append_eq {m n : Nat} (x : BitVec m) (y : BitVec n) :
    (x ++ y).toNat = x.toNat * 2 ^ n + y.toNat := by
  rw [BitVec.toNat_append, ← Nat.shiftLeft_add_eq_or_of_lt y.isLt, Nat.shiftLeft_eq]

/-- The bits that the three fields make. -/
theorem toNat_packComponents (s : Sign) (e : BitVec 11) (m : BitVec 52) :
    (packComponents format s e m).toNat =
      (s.toBitVec.toNat * 2 ^ 11 + e.toNat) * 2 ^ 52 + m.toNat := by
  rw [packComponents, toNat_append_eq, toNat_append_eq]

/-- The field of the exponent. -/
theorem toNat_unpackExponent (bits : BitVec 64) :
    (@unpackExponent format bits).toNat = bits.toNat / 2 ^ 52 % 2 ^ 11 := by
  rw [unpackExponent, BitVec.toNat_cast, BitVec.extractLsb_toNat, Nat.shiftRight_eq_div_pow]
  rfl

namespace Binary
variable {b : Binary} (hb : b.Canonical)
include hb

/-- The fields of a number: the exponent is stored as zero if the mantissa is short. -/
theorem pack_finite (s : Sign) :
    UnpackedFloat.pack format (.finite s b.mantissa b.exponent hb.pos) =
      packComponents format s
        (.ofNat 11 (if 2 ^ 52 ≤ b.mantissa then (b.exponent + 1075).toNat else 0))
        (.ofNat 52 b.mantissa) := by
  have hlow := hb.le_exponent
  have hhigh := hb.exponent_le
  have hlog := (Nat.log2_lt hb.pos.ne').2 hb.lt
  have hbiased : (b.exponent + (format.exponentBias : ℤ) +
      (format.mantissaBitsWithoutImplicit : ℤ)).toNat = (b.exponent + 1075).toNat := by
    change (b.exponent + 1023 + 52).toNat = _
    omega
  have hfinite : ¬(2 ^ format.exponentBits ≤ (b.exponent + 1075).toNat + 1) := by
    change ¬(2 ^ 11 ≤ _)
    omega
  rw [UnpackedFloat.pack]
  simp only [hbiased, if_neg hfinite]
  split
  · rename_i hnormal
    have hlog : b.mantissa.log2 = 52 := Nat.succ.inj hnormal
    rw [if_pos ((Nat.le_log2 hb.pos.ne').1 hlog.ge)]
  · rename_i hshort
    have hne : b.mantissa.log2 ≠ 52 := fun h => hshort (congrArg Nat.succ h)
    have hlt := (Nat.log2_lt hb.pos.ne').1 (by omega : b.mantissa.log2 < 52)
    rw [if_neg (by omega)]

/-- The operations on doubles see the parts that a double was made of. -/
theorem unpack_pack (s : Sign) :
    UnpackedFloat.unpack format
        (UnpackedFloat.pack format (.finite s b.mantissa b.exponent hb.pos)) =
      .finite s b.mantissa b.exponent hb.pos := by
  have hlow := hb.le_exponent
  have hhigh := hb.exponent_le
  have hlt := hb.lt
  rw [pack_finite hb, UnpackedFloat.unpack]
  simp only [unpackMantissa_packComponents, unpackExponent_packComponents,
    unpackSign_packComponents, Sign.ofBitVec_toBitVec]
  by_cases hnormal : 2 ^ 52 ≤ b.mantissa
  · have hexponent :
        (BitVec.ofNat 11 (b.exponent + 1075).toNat).toNat = (b.exponent + 1075).toNat :=
      Nat.mod_eq_of_lt (by omega)
    have hinf : BitVec.ofNat 11 (b.exponent + 1075).toNat ≠ -1#11 := by
      rw [← BitVec.toNat_inj.ne, hexponent]
      change _ ≠ 2047
      omega
    have hzero : BitVec.ofNat 11 (b.exponent + 1075).toNat ≠ 0#11 := by
      rw [← BitVec.toNat_inj.ne, hexponent]
      change _ ≠ 0
      omega
    have hmantissa : (1#1 ++ BitVec.ofNat 52 b.mantissa).toNat = b.mantissa := by
      rw [toNat_append_eq]
      change 1 * 2 ^ 52 + b.mantissa % 2 ^ 52 = b.mantissa
      omega
    simp only [if_pos hnormal]
    rw [if_neg hinf, if_neg hzero, UnpackedFloat.finite.injEq, hexponent]
    refine ⟨rfl, hmantissa, ?_⟩
    change ((b.exponent + 1075).toNat : ℤ) - (1023 + 52) = b.exponent
    omega
  · have hmantissa : (BitVec.ofNat 52 b.mantissa).toNat = b.mantissa :=
      Nat.mod_eq_of_lt (by omega)
    have hzero : BitVec.ofNat 52 b.mantissa ≠ 0#52 := by
      rw [← BitVec.toNat_inj.ne, hmantissa]
      exact hb.pos.ne'
    have hleast := hb.normal.resolve_right hnormal
    simp only [if_neg hnormal]
    rw [if_neg (by decide), if_pos trivial, dif_neg hzero, UnpackedFloat.finite.injEq]
    exact ⟨rfl, hmantissa, hleast.symm⟩

/-- Negation changes the sign and nothing else. -/
theorem neg_pack :
    -Float.ofModel (.pack (.finite .positive b.mantissa b.exponent hb.pos)) =
      Float.ofModel (.pack (.finite .negative b.mantissa b.exponent hb.pos)) := by
  have hneg : ∀ u : UnpackedFloat, -Float.ofModel (.pack u) =
      Float.ofModel (.pack (UnpackedFloat.unpack format (UnpackedFloat.pack format u)).neg) :=
    fun _ => rfl
  rw [hneg, unpack_pack hb]
  rfl

end Binary

/-! ## Doubles -/

/-- What bits stand for if it is finite. -/
theorem Real.ofBits_cases {bits : Nat} {b : Binary} (h : Real.ofBits bits = .finite b) :
    b.negative = (bits / 2 ^ 63 % 2 == 1) ∧
      (bits / 2 ^ 52 % 2 ^ 11 = 0 ∧ b.mantissa = bits % 2 ^ 52 ∧ b.exponent = -1074 ∧
          b.isBinadeStart = false ∨
        0 < bits / 2 ^ 52 % 2 ^ 11 ∧ bits / 2 ^ 52 % 2 ^ 11 < 2047 ∧
          b.mantissa = bits % 2 ^ 52 + 2 ^ 52 ∧
          b.exponent = ((bits / 2 ^ 52 % 2 ^ 11 : ℕ) : ℤ) - 1075 ∧
          b.isBinadeStart = (bits % 2 ^ 52 == 0 && bits / 2 ^ 52 % 2 ^ 11 > 1)) := by
  rw [Real.ofBits] at h
  split at h
  · split at h <;> cases h
  split at h
  · rename_i hzero
    cases h
    exact ⟨rfl, .inl ⟨hzero, rfl, rfl, rfl⟩⟩
  · rename_i hinf hzero
    cases h
    have hlt : bits / 2 ^ 52 % 2 ^ 11 < 2 ^ 11 := Nat.mod_lt _ (by decide)
    exact ⟨rfl, .inr ⟨Nat.pos_of_ne_zero hzero, by simp at hinf; omega, rfl, rfl, rfl⟩⟩

/-- A finite double that is not zero has a number in canonical form. -/
theorem Real.canonical_of_ofBits {bits : Nat} {b : Binary} (h : Real.ofBits bits = .finite b)
    (hpos : b.mantissa ≠ 0) : b.Canonical := by
  have hfraction : bits % 2 ^ 52 < 2 ^ 52 := Nat.mod_lt _ (by decide)
  rcases (Real.ofBits_cases h).2 with ⟨-, hm, he, hs⟩ | ⟨h0, h1, hm, he, hs⟩
  · refine ⟨Nat.pos_of_ne_zero hpos, by omega, by omega, by omega, .inl he, ?_⟩
    rw [hs, he]
    simp
  · refine ⟨by omega, by omega, by omega, by omega, .inr (by omega), ?_⟩
    rw [hs, hm, he]
    simp
    omega

/-- The bits of a number are those that it stands for. -/
theorem Binary.toNat_pack {bits : Nat} (hbits : bits < 2 ^ 64) {b : Binary}
    (h : Real.ofBits bits = .finite b) :
    (UnpackedFloat.pack format (if h : b.mantissa = 0 then .zero b.sign
      else .finite b.sign b.mantissa b.exponent (Nat.pos_of_ne_zero h))).toNat = bits := by
  obtain ⟨hnegative, hcases⟩ := Real.ofBits_cases h
  have hsign : b.sign.toBitVec.toNat = bits / 2 ^ 63 := by
    rw [sign, hnegative]
    rcases (by omega : bits / 2 ^ 63 = 0 ∨ bits / 2 ^ 63 = 1) with hs | hs <;> rw [hs] <;> rfl
  by_cases hzero : b.mantissa = 0
  · rw [dif_pos hzero]
    change (packComponents format b.sign 0#11 0#52).toNat = _
    rw [toNat_packComponents, hsign]
    change (bits / 2 ^ 63 * 2 ^ 11 + 0) * 2 ^ 52 + 0 = bits
    omega
  · rw [dif_neg hzero, pack_finite (Real.canonical_of_ofBits h hzero), toNat_packComponents, hsign,
      BitVec.toNat_ofNat, BitVec.toNat_ofNat]
    split <;> omega

/-- A finite double is made of its parts. -/
theorem Binary.toFloat_of_ofFloat {x : Float} {b : Binary} (h : Real.ofFloat x = .finite b) :
    b.toFloat = x := by
  obtain ⟨⟨bits, hvalid⟩⟩ := x
  have hbits := toNat_pack bits.toNat_lt h
  rw [toFloat, Float.ofModel.injEq, Float.Model.pack, Float.Model.mk.injEq]
  exact UInt64.toBitVec_inj.1 (BitVec.eq_of_toNat_eq hbits)

/-- A double is finite if it has parts. -/
theorem Real.exists_of_isFinite {x : Float} (h : x.isFinite = true) :
    ∃ b, Real.ofFloat x = .finite b := by
  have hexponent : x.toBits.toNat / 2 ^ 52 % 2 ^ 11 ≠ 2047 := by
    intro hinf
    have hvec : @unpackExponent format x.toModel.toBits.toBitVec = -1#11 :=
      BitVec.eq_of_toNat_eq ((toNat_unpackExponent _).trans hinf)
    rw [Float.isFinite, Float.Model.isFinite, Float.Model.unpack, UnpackedFloat.unpack] at h
    simp only [hvec, if_true] at h
    split at h <;> cases h
  rw [ofFloat, ofBits]
  split
  · rename_i hinf
    exact absurd hinf hexponent
  split
  · exact ⟨_, rfl⟩
  · exact ⟨_, rfl⟩

end GoSurvey.Decimal
