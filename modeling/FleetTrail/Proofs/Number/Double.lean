import FleetTrail.Number.Shortest
import Mathlib

/-!
# Doubles and their parts

The bits of a double and the parts read off them determine each other. The parts are the
unpacked form of the library's model of doubles, by which its arithmetic is defined.
-/

namespace FleetTrail.Number

open Float.Model Float.Model.UnpackedFloat

def signOf (negative : Bool) : Sign := if negative then .negative else .positive

def Parts.unpacked : Parts → UnpackedFloat
  | .nan => .notANumber
  | .infinite negative => .infinity (signOf negative)
  | .finite negative mantissa exponent =>
    if h : mantissa = 0 then .zero (signOf negative)
    else .finite (signOf negative) mantissa exponent (Nat.pos_of_ne_zero h)

section Fields

variable (w : UInt64)

private theorem toNat_exponent :
    (@unpackExponent Format.binary64 w.toBitVec).toNat =
      w.toNat / Nat.pow 2 52 % Nat.pow 2 11 := by
  simp [unpackExponent, BitVec.extractLsb_toNat, Nat.shiftRight_eq_div_pow]

private theorem toNat_mantissa :
    (@unpackMantissa Format.binary64 w.toBitVec).toNat = w.toNat % Nat.pow 2 52 := by
  simp [unpackMantissa, BitVec.extractLsb_toNat]

private theorem toNat_sign :
    (@unpackSign Format.binary64 w.toBitVec).toNat = w.toNat / Nat.pow 2 63 := by
  have := w.toNat_lt
  simp only [unpackSign, BitVec.toNat_cast, BitVec.extractLsb_toNat, Nat.shiftRight_eq_div_pow,
    Nat.pow_eq]
  simp
  omega

private theorem exponent_eq_ones :
    @unpackExponent Format.binary64 w.toBitVec = -BitVec.ofNat Format.binary64.exponentBits 1 ↔
      w.toNat / Nat.pow 2 52 % Nat.pow 2 11 = 2047 := by
  rw [← BitVec.toNat_inj, toNat_exponent]; rfl

private theorem exponent_eq_zero :
    @unpackExponent Format.binary64 w.toBitVec = BitVec.ofNat Format.binary64.exponentBits 0 ↔
      w.toNat / Nat.pow 2 52 % Nat.pow 2 11 = 0 := by
  rw [← BitVec.toNat_inj, toNat_exponent]; rfl

private theorem mantissa_eq_zero :
    @unpackMantissa Format.binary64 w.toBitVec =
        BitVec.ofNat Format.binary64.mantissaBitsWithoutImplicit 0 ↔
      w.toNat % Nat.pow 2 52 = 0 := by
  rw [← BitVec.toNat_inj, toNat_mantissa]; rfl

private theorem sign_eq :
    Sign.ofBitVec (@unpackSign Format.binary64 w.toBitVec) =
      signOf (w.toNat / Nat.pow 2 63 == 1) := by
  have hs := toNat_sign w
  by_cases h : w.toNat / Nat.pow 2 63 = 1
  · rw [show @unpackSign Format.binary64 w.toBitVec = 1#1 from
      BitVec.eq_of_toNat_eq (by rw [hs, h]; rfl), h]
    rfl
  · have h0 : w.toNat / Nat.pow 2 63 = 0 := by
      have := w.toNat_lt
      simp only [Nat.pow_eq] at h ⊢
      omega
    rw [show @unpackSign Format.binary64 w.toBitVec = 0#1 from
      BitVec.eq_of_toNat_eq (by rw [hs, h0]; rfl), h0]
    rfl

end Fields

private theorem toNat_one_append (v : BitVec 52) : (1#1 ++ v).toNat = Nat.pow 2 52 + v.toNat := by
  rw [BitVec.toNat_append, ← Nat.shiftLeft_add_eq_or_of_lt v.isLt]
  rfl

theorem unpack_eq (x : Float) : x.toModel.unpack = (parts x).unpacked := by
  change UnpackedFloat.unpack Format.binary64 x.toBits.toBitVec = _
  rw [UnpackedFloat.unpack, parts]
  generalize x.toBits = w
  split
  · rename_i hones
    rw [if_pos ((exponent_eq_ones w).mp hones)]
    split
    · rename_i hzero
      rw [if_pos ((mantissa_eq_zero w).mp hzero), sign_eq]
      rfl
    · rename_i hzero
      rw [if_neg fun h => hzero ((mantissa_eq_zero w).mpr h)]
      rfl
  · rename_i hones
    rw [if_neg fun h => hones ((exponent_eq_ones w).mpr h)]
    split
    · rename_i hpower
      have hpower := (exponent_eq_zero w).mp hpower
      rw [if_pos hpower, Parts.unpacked]
      split
      · rename_i hzero
        rw [dif_pos ((mantissa_eq_zero w).mp hzero), sign_eq]
      · rename_i hzero
        rw [dif_neg fun h => hzero ((mantissa_eq_zero w).mpr h), UnpackedFloat.finite.injEq]
        refine ⟨sign_eq w, toNat_mantissa w, ?_⟩
        rw [toNat_exponent, hpower]
        rfl
    · rename_i hpower
      rw [if_neg fun h => hpower ((exponent_eq_zero w).mpr h), Parts.unpacked,
        dif_neg (by simp only [Nat.pow_eq]; omega), UnpackedFloat.finite.injEq]
      refine ⟨sign_eq w, ?_, ?_⟩
      · rw [← toNat_mantissa]
        exact toNat_one_append _
      · rw [toNat_exponent]
        rfl

private theorem toNat_packComponents (s : Sign) (e : BitVec 11) (m : BitVec 52) :
    (packComponents Format.binary64 s e m).toNat =
      s.toBitVec.toNat * 2 ^ 63 + e.toNat * 2 ^ 52 + m.toNat := by
  have := e.isLt
  have := m.isLt
  simp only [packComponents, BitVec.toNat_append]
  rw [← Nat.shiftLeft_add_eq_or_of_lt (by omega), ← Nat.shiftLeft_add_eq_or_of_lt (by omega)]
  simp only [Nat.shiftLeft_eq]
  omega

private theorem toBitVec_ofBitVec (v : BitVec 1) : (Sign.ofBitVec v).toBitVec = v := by
  revert v
  decide

private theorem packComponents_fields (w : UInt64) :
    packComponents Format.binary64 (Sign.ofBitVec (@unpackSign Format.binary64 w.toBitVec))
      (@unpackExponent Format.binary64 w.toBitVec) (@unpackMantissa Format.binary64 w.toBitVec) =
      w.toBitVec := by
  apply BitVec.eq_of_toNat_eq
  rw [toNat_packComponents, toBitVec_ofBitVec, toNat_sign, toNat_exponent, toNat_mantissa]
  change _ = w.toNat
  have := w.toNat_lt
  simp only [Nat.pow_eq]
  omega

/-- A mantissa and an exponent as the doubles have them, neither zero nor too large. -/
structure Canonical (mantissa : Nat) (exponent : Int) : Prop where
  pos : 0 < mantissa
  lt : mantissa < 2 ^ 53
  low : -1074 ≤ exponent
  high : exponent ≤ 971
  normal : 2 ^ 52 ≤ mantissa ∨ exponent = -1074

namespace Canonical

variable {mantissa : Nat} {exponent : Int}

theorem of_parts {x : Float} {negative : Bool}
    (h : parts x = .finite negative mantissa exponent) (hpos : mantissa ≠ 0) :
    Canonical mantissa exponent := by
  have hw := x.toBits.toNat_lt
  unfold parts at h
  simp only [Nat.pow_eq] at h
  split at h
  · split at h <;> cases h
  split at h
  · cases h
    exact ⟨by omega, by omega, by omega, by omega, .inr rfl⟩
  · cases h
    exact ⟨by omega, by omega, by omega, by omega, .inl (by omega)⟩

end Canonical

private theorem log2_eq {mantissa : Nat} (h : 2 ^ 52 ≤ mantissa) (h' : mantissa < 2 ^ 53) :
    mantissa.log2 = 52 :=
  (Nat.log2_eq_iff (by omega)).mpr ⟨h, h'⟩

private theorem pack_normal (s : Sign) {mantissa : Nat} {exponent : Int} (hpos : 0 < mantissa)
    (h : 2 ^ 52 ≤ mantissa) (h' : mantissa < 2 ^ 53) (high : exponent ≤ 971) :
    UnpackedFloat.pack Format.binary64 (.finite s mantissa exponent hpos) =
      packComponents Format.binary64 s (BitVec.ofNat 11 (exponent + 1075).toNat)
        (BitVec.ofNat 52 mantissa) := by
  have hbiased : (exponent + Format.binary64.exponentBias +
      Format.binary64.mantissaBitsWithoutImplicit).toNat = (exponent + 1075).toNat := by
    change (exponent + (1023 : Nat) + (52 : Nat)).toNat = _
    omega
  have hbits : 52 + 1 = Format.binary64.mantissaBits := rfl
  simp only [UnpackedFloat.pack, hbiased, log2_eq h h']
  rw [if_neg (by omega), if_pos hbits]

private theorem pack_subnormal (s : Sign) {mantissa : Nat} (hpos : 0 < mantissa)
    (h : mantissa < 2 ^ 52) :
    UnpackedFloat.pack Format.binary64 (.finite s mantissa (-1074) hpos) =
      packComponents Format.binary64 s 0#11 (BitVec.ofNat 52 mantissa) := by
  have hlog : mantissa.log2 < 52 := (Nat.log2_lt (by omega)).mpr h
  have hbits : Format.binary64.mantissaBits = 53 := rfl
  simp only [UnpackedFloat.pack]
  rw [if_neg (by decide), if_neg (by omega)]

theorem pack_unpack (m : Float.Model) : Float.Model.pack m.unpack = m := by
  obtain ⟨w, hvalid⟩ := m
  have hfields := packComponents_fields w
  suffices h : UnpackedFloat.pack Format.binary64
      (UnpackedFloat.unpack Format.binary64 w.toBitVec) = w.toBitVec by
    simp only [Float.Model.pack, Float.Model.unpack, h]
  have hw := w.toNat_lt
  rw [UnpackedFloat.unpack]
  split
  · rename_i hones
    split
    · rename_i hzero
      rw [hones, hzero] at hfields
      exact hfields
    · rename_i hzero
      exact (hvalid.eq_packedNaN hones hzero).symm
  rename_i hones
  split
  · rename_i hpower
    split
    · rename_i hzero
      rw [hpower, hzero] at hfields
      exact hfields
    · rename_i hzero
      rw [hpower] at hfields ⊢
      refine (pack_subnormal _ _ (BitVec.isLt _)).trans ?_
      rw [BitVec.ofNat_toNat, BitVec.setWidth_eq]
      exact hfields
  · rename_i hpower
    have hpower := mt (exponent_eq_zero w).mpr hpower
    have hones := mt (exponent_eq_ones w).mpr hones
    have hone := toNat_one_append (@unpackMantissa Format.binary64 w.toBitVec)
    have hexp := toNat_exponent w
    have hman := toNat_mantissa w
    simp only [Nat.pow_eq] at *
    refine (pack_normal _ _ ?_ ?_ ?_).trans ?_
    · exact hone ▸ Nat.le_add_right _ _
    · exact hone ▸ (by omega)
    · rw [hexp]
      change ((w.toNat / 2 ^ 52 % 2 ^ 11 : Nat) : Int) - (1023 + 52) ≤ 971
      omega
    · have hexp' : ((w.toNat / 2 ^ 52 % 2 ^ 11 : Nat) - (1023 + 52) + 1075 : Int).toNat =
          w.toNat / 2 ^ 52 % 2 ^ 11 := by omega
      refine Eq.trans ?_ hfields
      congr 1
      · apply BitVec.eq_of_toNat_eq
        rw [BitVec.toNat_ofNat, hexp]
        change ((w.toNat / 2 ^ 52 % 2 ^ 11 : Nat) - (1023 + 52) + 1075 : Int).toNat % 2 ^ 11 = _
        rw [hexp', Nat.mod_mod]
      · apply BitVec.eq_of_toNat_eq
        rw [BitVec.toNat_ofNat, hone, hman]
        omega

theorem eq_of_unpack {x y : Float} (h : x.toModel.unpack = y.toModel.unpack) : x = y := by
  have h' := congrArg Float.Model.pack h
  rw [pack_unpack, pack_unpack] at h'
  cases x
  cases y
  exact congrArg Float.ofModel h'

/-- What a canonical mantissa and exponent are packed to unpacks to them. -/
theorem Canonical.unpack_pack {mantissa : Nat} {exponent : Int} (h : Canonical mantissa exponent)
    (s : Sign) :
    (Float.Model.pack (.finite s mantissa exponent h.pos)).unpack =
      .finite s mantissa exponent h.pos := by
  obtain ⟨hpos, hlt, hlow, hhigh, hnormal⟩ := h
  let x : Float := ⟨Float.Model.pack (.finite s mantissa exponent hpos)⟩
  have hs : s = signOf (s.toBitVec.toNat == 1) := by cases s <;> rfl
  have hsb : s.toBitVec.toNat < 2 := s.toBitVec.isLt
  have hbits : x.toBits.toNat =
      (UnpackedFloat.pack Format.binary64 (.finite s mantissa exponent hpos)).toNat := rfl
  suffices h : parts x = .finite (s.toBitVec.toNat == 1) mantissa exponent by
    rw [show Float.Model.pack (.finite s mantissa exponent hpos) = x.toModel from rfl, unpack_eq, h,
      Parts.unpacked, dif_neg (by omega), ← hs]
  unfold parts
  by_cases hn : 2 ^ 52 ≤ mantissa
  · rw [pack_normal s hpos hn hlt hhigh, toNat_packComponents, BitVec.toNat_ofNat,
      BitVec.toNat_ofNat] at hbits
    simp only [hbits, Nat.pow_eq]
    rw [if_neg (by omega), if_neg (by omega)]
    congr 1
    · congr 1
      omega
    · omega
    · omega
  · obtain rfl := hnormal.resolve_left hn
    rw [pack_subnormal s hpos (by omega), toNat_packComponents, BitVec.toNat_ofNat,
      BitVec.toNat_ofNat] at hbits
    simp only [hbits, Nat.pow_eq]
    rw [if_neg (by omega), if_pos (by omega)]
    congr 1
    · congr 1
      omega
    · omega

end FleetTrail.Number
