import FleetTrail.Number.Text
import FleetTrail.Proofs.Number.Digits
import FleetTrail.Proofs.Number.Rounding

/-!
# The double nearest to a decimal

Reading a decimal gives the double that the decimal's value rounds to. The library multiplies or
divides doubles where digits and power of ten are doubles themselves, and else takes a product or a
quotient of whole numbers with enough places; either way there is one rounding. The magnitudes that
are settled before are no magnitudes of values that round to a double other than zero.
-/

namespace FleetTrail.Number

open Float.Model Float.Model.UnpackedFloat

section Arithmetic

variable {m : Nat} {e : Int} {m₁ m₂ : Nat} {e₁ e₂ : Int}

theorem mul_eq (h₁ : 0 < m₁) (h₂ : 0 < m₂) (hlarge : 2 ^ 52 ≤ m₁ * m₂) (hc : Canonical m e)
    (h : Rounds (m₁ * 2 ^ e₁ * (m₂ * 2 ^ e₂)) m e) :
    UnpackedFloat.mul Format.binary64 (.finite .positive m₁ e₁ h₁) (.finite .positive m₂ e₂ h₂) =
      .finite .positive m e hc.pos := by
  have hlog : 52 ≤ (m₁ * m₂).log2 := (Nat.le_log2 (by omega)).mpr hlarge
  refine h.roundWithAccuracy_eq hc _ ?_ ?_
  · rw [target]
    omega
  · rw [Fits, sub_eq_zero, div_eq_iff (two_zpow_pos _).ne', zpow_add₀ (by norm_num)]
    push_cast
    ring

/-- What the whole part and the remainder of a quotient say of it. -/
theorem fits_accuracyOfFraction {n d : Nat} (hd : 0 < d) :
    Fits (accuracyOfFraction (n % d) d) (n / d - (n / d : Nat)) := by
  have hdq : (0 : ℚ) < d := by exact_mod_cast hd
  have hsplit : (n : ℚ) / d - (n / d : Nat) = (n % d : Nat) / d := by
    have : (n : ℚ) = d * (n / d : Nat) + (n % d : Nat) := by
      exact_mod_cast (Nat.div_add_mod n d).symm
    rw [sub_eq_iff_eq_add, div_eq_iff hdq.ne', add_mul, div_mul_cancel₀ _ hdq.ne', this]
    ring
  rw [hsplit, accuracyOfFraction]
  have hlt : ((n % d : Nat) : ℚ) < d := by exact_mod_cast Nat.mod_lt n hd
  split
  · rename_i h0
    simp [Fits, h0]
  · rename_i h0
    have hpos : (0 : ℚ) < (n % d : Nat) := by exact_mod_cast Nat.pos_of_ne_zero h0
    rcases hcmp : compare (2 * (n % d)) d with _ | _ | _
    · have : (2 : ℚ) * (n % d : Nat) < d := by exact_mod_cast Nat.compare_eq_lt.mp hcmp
      exact ⟨by positivity, by rw [div_lt_iff₀ hdq]; linarith⟩
    · have : (2 : ℚ) * (n % d : Nat) = d := by exact_mod_cast Nat.compare_eq_eq.mp hcmp
      rw [Fits, div_eq_iff hdq.ne']
      linarith
    · have : (d : ℚ) < 2 * (n % d : Nat) := by exact_mod_cast Nat.compare_eq_gt.mp hcmp
      exact ⟨by rw [lt_div_iff₀ hdq]; linarith, by rw [div_lt_one hdq]; exact hlt⟩

theorem le_target_div (h₁ : 0 < m₁) (h₂ : 0 < m₂) {f : Int}
    (hf : f = min (e₁ - e₂) (max ((m₁.log2 : Int) + 1 + e₁ - (m₂.log2 + 1 + e₂) - 53) (-1074))) :
    f ≤ target (m₁ <<< (e₁ - e₂ - f).toNat / m₂) f := by
  rw [target]
  by_cases hlow : f ≤ -1074
  · omega
  -- the quotient then has at least as many places as a mantissa
  obtain ⟨t, ht⟩ : ∃ t : Nat, e₁ - e₂ - f = t := ⟨(e₁ - e₂ - f).toNat, by omega⟩
  have hplaces : m₂.log2 + 53 ≤ m₁.log2 + t := by omega
  have hquot : 2 ^ (m₁.log2 + t - (m₂.log2 + 1)) ≤ m₁ <<< t / m₂ := by
    rw [Nat.le_div_iff_mul_le h₂, Nat.shiftLeft_eq]
    calc 2 ^ (m₁.log2 + t - (m₂.log2 + 1)) * m₂
        ≤ 2 ^ (m₁.log2 + t - (m₂.log2 + 1)) * 2 ^ (m₂.log2 + 1) :=
          Nat.mul_le_mul_left _ Nat.lt_log2_self.le
      _ = 2 ^ m₁.log2 * 2 ^ t := by rw [← pow_add, ← pow_add]; congr 1; omega
      _ ≤ m₁ * 2 ^ t := Nat.mul_le_mul_right _ (Nat.log2_self_le h₁.ne')
  have hquot_pos := Nat.two_pow_pos (m₁.log2 + t - (m₂.log2 + 1))
  have hlog := (Nat.le_log2 (by omega)).mpr hquot
  rw [ht, Int.toNat_natCast]
  omega

theorem div_eq (h₁ : 0 < m₁) (h₂ : 0 < m₂) (hc : Canonical m e)
    (h : Rounds (m₁ * 2 ^ e₁ / (m₂ * 2 ^ e₂)) m e) :
    UnpackedFloat.div Format.binary64 (.finite .positive m₁ e₁ h₁) (.finite .positive m₂ e₂ h₂) =
      .finite .positive m e hc.pos := by
  obtain ⟨f, hf⟩ : ∃ f, f = min (e₁ - e₂)
      (max ((m₁.log2 : Int) + 1 + e₁ - (m₂.log2 + 1 + e₂) - 53) (-1074)) := ⟨_, rfl⟩
  have hcore : divCore Format.binary64 m₁ e₁ m₂ e₂ =
      (m₁ <<< (e₁ - e₂ - f).toNat / m₂, f,
        accuracyOfFraction (m₁ <<< (e₁ - e₂ - f).toNat % m₂) m₂) := by
    rw [hf]
    rfl
  have hplaces := le_target_div h₁ h₂ hf
  simp only [UnpackedFloat.div, hcore]
  refine h.roundWithAccuracy_eq hc _ hplaces ?_
  have hvalue : (m₁ * 2 ^ e₁ / (m₂ * 2 ^ e₂) / 2 ^ f : ℚ) =
      (m₁ <<< (e₁ - e₂ - f).toNat : Nat) / m₂ := by
    have hsplit : (2 : ℚ) ^ e₁ = 2 ^ e₂ * 2 ^ f * 2 ^ (e₁ - e₂ - f).toNat := by
      rw [← zpow_natCast, ← zpow_add₀ (by norm_num), ← zpow_add₀ (by norm_num)]
      congr 1
      omega
    have hm₂ : (m₂ : ℚ) ≠ 0 := by exact_mod_cast h₂.ne'
    have := (two_zpow_pos e₂).ne'
    have := (two_zpow_pos f).ne'
    rw [hsplit, Nat.shiftLeft_eq]
    push_cast
    field_simp
  rw [hvalue]
  exact fits_accuracyOfFraction h₂

end Arithmetic

def Exactly (x : Float) (q : ℚ) : Prop :=
  ∃ m e, ∃ h : 0 < m, x.toModel.unpack = .finite .positive m e h ∧ 2 ^ 52 ≤ m ∧ (m : ℚ) * 2 ^ e = q

private theorem canonical_shiftLeft {n : Nat} (hpos : 0 < n) (hlt : n < 2 ^ 53) :
    Canonical (n <<< (52 - n.log2)) (n.log2 - 52) := by
  have hlog : n.log2 < 53 := (Nat.log2_lt hpos.ne').mpr hlt
  have hlow : 2 ^ 52 ≤ n <<< (52 - n.log2) := by
    calc 2 ^ 52 = 2 ^ n.log2 * 2 ^ (52 - n.log2) := by rw [← pow_add]; congr 1; omega
      _ ≤ n * 2 ^ (52 - n.log2) := Nat.mul_le_mul_right _ (Nat.log2_self_le hpos.ne')
      _ = n <<< (52 - n.log2) := (Nat.shiftLeft_eq _ _).symm
  have hhigh : n <<< (52 - n.log2) < 2 ^ 53 := by
    calc n <<< (52 - n.log2) = n * 2 ^ (52 - n.log2) := Nat.shiftLeft_eq _ _
      _ < 2 ^ (n.log2 + 1) * 2 ^ (52 - n.log2) :=
        Nat.mul_lt_mul_of_pos_right Nat.lt_log2_self (Nat.two_pow_pos _)
      _ = 2 ^ 53 := by rw [← pow_add]; congr 1; omega
  exact ⟨by omega, hhigh, by omega, by omega, .inl hlow⟩

theorem Canonical.roundWithAccuracy_self {m : Nat} {e : Int} (h : Canonical m e) (s : Sign) :
    roundWithAccuracy Format.binary64 s m e .exact = .finite s m e h.pos := by
  have hrounded : ExtendedMantissa.roundedMantissa ⟨m, false, false⟩ = m := rfl
  rw [roundWithAccuracy, shiftToTargetExponent_self h.lt h.low]
  dsimp only
  rw [hrounded, shiftToTargetExponent_self h.lt h.low]
  exact dif_neg h.pos.ne'

private theorem round_nat {n : Nat} (hpos : 0 < n) (hlt : n < 2 ^ 53) :
    UnpackedFloat.round Format.binary64 .positive n 0 =
      .finite .positive (n <<< (52 - n.log2)) (n.log2 - 52) (canonical_shiftLeft hpos hlt).pos := by
  have hlog : n.log2 < 53 := (Nat.log2_lt hpos.ne').mpr hlt
  have htarget : Format.binary64.targetExponent (totalExponent n 0) = (n.log2 : Int) - 52 := by
    rw [targetExponent_eq, target]
    omega
  have hshift : (0 - ((n.log2 : Int) - 52)).toNat = 52 - n.log2 := by omega
  have hexponent : (0 : Int) - (52 - n.log2 : Nat) = (n.log2 : Int) - 52 := by omega
  rw [UnpackedFloat.round, htarget, decreaseExponent, hshift]
  dsimp only
  rw [hexponent, (canonical_shiftLeft hpos hlt).roundWithAccuracy_self]

/-- Whole numbers below `2 ^ 53` are doubles. -/
theorem exactly_toFloat {n : Nat} (hpos : 0 < n) (hlt : n < 2 ^ 53) :
    Exactly n.toUInt64.toFloat n := by
  have hlog : n.log2 < 53 := (Nat.log2_lt hpos.ne').mpr hlt
  have hc := canonical_shiftLeft hpos hlt
  refine ⟨n <<< (52 - n.log2), n.log2 - 52, hc.pos, ?_, ?_, ?_⟩
  · have hword : n.toUInt64.toNat = n := Nat.mod_eq_of_lt (by omega)
    rw [← hc.unpack_pack, ← round_nat hpos hlt]
    change (Float.Model.pack
      (UnpackedFloat.normalize Format.binary64 (n.toUInt64.toNat : Int) 0 .positive)).unpack = _
    rw [hword, UnpackedFloat.normalize, Int.compare_eq_gt.mpr (by omega), Int.toNat_natCast]
  · exact hc.normal.resolve_right (by omega)
  · have hcancel : ((52 - n.log2 : Nat) : Int) + (n.log2 - 52) = 0 := by omega
    rw [Nat.shiftLeft_eq]
    push_cast
    rw [mul_assoc, ← zpow_natCast, ← zpow_add₀ (by norm_num), hcancel, zpow_zero, mul_one]

private theorem parts_powerOfTen :
    ∀ i : Fin Float.exactlyRepresentablePowersOfTen.size,
      parts Float.exactlyRepresentablePowersOfTen[i] =
          .finite false (10 ^ i.val * 2 ^ 52 / 2 ^ (10 ^ i.val).log2) ((10 ^ i.val).log2 - 52) ∧
        2 ^ (10 ^ i.val).log2 ∣ 10 ^ i.val * 2 ^ 52 := by
  decide +kernel

theorem exactly_powerOfTen {i : Nat} (h : i < Float.exactlyRepresentablePowersOfTen.size) :
    Exactly Float.exactlyRepresentablePowersOfTen[i] (10 ^ i) := by
  obtain ⟨hparts, hdvd⟩ := parts_powerOfTen ⟨i, h⟩
  have hten : 10 ^ i ≠ 0 := by positivity
  have hlarge : 2 ^ 52 ≤ 10 ^ i * 2 ^ 52 / 2 ^ (10 ^ i).log2 := by
    rw [Nat.le_div_iff_mul_le (Nat.two_pow_pos _), mul_comm]
    exact Nat.mul_le_mul_right _ (Nat.log2_self_le hten)
  have hne : ¬ 10 ^ i * 2 ^ 52 / 2 ^ (10 ^ i).log2 = 0 := by omega
  refine ⟨10 ^ i * 2 ^ 52 / 2 ^ (10 ^ i).log2, (10 ^ i).log2 - 52, Nat.pos_of_ne_zero hne, ?_,
    hlarge, ?_⟩
  · rw [unpack_eq]
    change (parts Float.exactlyRepresentablePowersOfTen[(⟨i, h⟩ : Fin _)]).unpacked = _
    rw [hparts, Parts.unpacked, dif_neg hne]
    rfl
  · have hmul : ((10 ^ i * 2 ^ 52 / 2 ^ (10 ^ i).log2 : Nat) : ℚ) * 2 ^ (10 ^ i).log2 =
        10 ^ i * 2 ^ 52 := by
      exact_mod_cast Nat.div_mul_cancel hdvd
    have h2 : (2 : ℚ) ^ ((10 ^ i).log2 : Int) = 2 ^ (10 ^ i).log2 := zpow_natCast _ _
    rw [zpow_sub₀ (by norm_num), h2, ← mul_div_assoc, hmul]
    norm_num

section Decimals

variable {m : Nat} {e : Int} (hc : Canonical m e)

def Canonical.toFloat (h : Canonical m e) (s : Sign) : Float :=
  ⟨Float.Model.pack (.finite s m e h.pos)⟩

private theorem Exactly.mul {x y : Float} {a b : ℚ} (hx : Exactly x a) (hy : Exactly y b)
    (h : Rounds (a * b) m e) : x * y = hc.toFloat .positive := by
  obtain ⟨m₁, e₁, h₁, hx, hlarge, rfl⟩ := hx
  obtain ⟨m₂, e₂, h₂, hy, -, rfl⟩ := hy
  change (⟨Float.Model.pack (UnpackedFloat.mul _ x.toModel.unpack y.toModel.unpack)⟩ : Float) = _
  rw [hx, hy, mul_eq h₁ h₂ (le_trans hlarge (Nat.le_mul_of_pos_right _ h₂)) hc h]
  rfl

private theorem Exactly.div {x y : Float} {a b : ℚ} (hx : Exactly x a) (hy : Exactly y b)
    (h : Rounds (a / b) m e) : x / y = hc.toFloat .positive := by
  obtain ⟨m₁, e₁, h₁, hx, -, rfl⟩ := hx
  obtain ⟨m₂, e₂, h₂, hy, -, rfl⟩ := hy
  change (⟨Float.Model.pack (UnpackedFloat.div _ x.toModel.unpack y.toModel.unpack)⟩ : Float) = _
  rw [hx, hy, div_eq h₁ h₂ hc h]
  rfl

private theorem unpackedOfScientific_eq {d : Nat} {k : Int} (hd : 0 < d) (hhigh : k ≤ 2 ^ 11)
    (hlow : -(2 ^ 11 + (d.log2 : Int)) ≤ k) (h : Rounds (d * 10 ^ k) m e) :
    UnpackedFloat.ofScientific Format.binary64 d k = .finite .positive m e hc.pos := by
  have hhigh' : ¬ k > 2 ^ Format.binary64.exponentBits := not_lt.mpr hhigh
  have hlow' : ¬ k < -(2 ^ Format.binary64.exponentBits + (d.log2 : Int)) := not_lt.mpr hlow
  rw [UnpackedFloat.ofScientific, dif_neg hd.ne', if_neg hhigh', if_neg hlow']
  split
  · rename_i hk
    refine mul_eq _ _ ?_ hc ?_
    · change 2 ^ 52 ≤ d <<< 53 * 10 ^ k.toNat
      rw [Nat.shiftLeft_eq]
      calc 2 ^ 52 ≤ 2 ^ 53 := by norm_num
        _ ≤ d * 2 ^ 53 := Nat.le_mul_of_pos_left _ hd
        _ ≤ d * 2 ^ 53 * 10 ^ k.toNat := Nat.le_mul_of_pos_right _ (by positivity)
    · convert h using 1
      change (((d <<< 53 : Nat) : ℚ) * 2 ^ (-53 : Int)) * ((10 ^ k.toNat : Nat) * 2 ^ (0 : Int)) = _
      rw [Nat.shiftLeft_eq]
      have : (10 : ℚ) ^ k = 10 ^ k.toNat := by rw [← zpow_natCast]; congr 1; omega
      rw [this]
      push_cast
      norm_num
      ring
  · rename_i hk
    refine div_eq _ _ hc ?_
    convert h using 1
    have : (10 : ℚ) ^ k = (10 ^ (-k).toNat)⁻¹ := by
      rw [← zpow_natCast, ← zpow_neg]; congr 1; omega
    rw [this]
    push_cast
    rw [mul_one, mul_one, div_eq_mul_inv]

/-- A decimal is read as the double that its value rounds to. -/
theorem ofScientific_eq {d : Nat} {k : Int} (hd : 0 < d) (hhigh : k ≤ 2 ^ 11)
    (hlow : -(2 ^ 11 + (d.log2 : Int)) ≤ k) (h : Rounds (d * 10 ^ k) m e) :
    Float.ofScientific d (k < 0) k.natAbs = hc.toFloat .positive := by
  unfold Float.ofScientific
  split
  · rename_i hfast
    dsimp only
    have hsize : Float.exactlyRepresentablePowersOfTen.size = 23 := rfl
    have hten := exactly_powerOfTen (i := k.natAbs) (by omega)
    have hwhole := exactly_toFloat hd hfast.1
    split
    · rename_i hk
      have hk : k < 0 := by simpa using hk
      refine hwhole.div hc hten ?_
      convert h using 1
      rw [div_eq_mul_inv, ← zpow_natCast, ← zpow_neg]
      congr 2
      omega
    · rename_i hk
      have hk : ¬ k < 0 := by simpa using hk
      refine hwhole.mul hc hten ?_
      convert h using 1
      rw [← zpow_natCast]
      congr 2
      omega
  · dsimp only
    have hk :
        (if decide (k < 0) = true then Int.negOfNat k.natAbs else Int.ofNat k.natAbs) = k := by
      split
      · rename_i hk
        have hk : k < 0 := by simpa using hk
        rw [Int.negOfNat_eq, Int.ofNat_eq_natCast]
        omega
      · rename_i hk
        have hk : ¬ k < 0 := by simpa using hk
        rw [Int.ofNat_eq_natCast]
        omega
    rw [hk, Float.Model.ofScientific, unpackedOfScientific_eq hc hd hhigh hlow h]
    rfl

theorem Rounds.zpow_le {v : ℚ} (h : Rounds v m e) (hc : Canonical m e) :
    (2 : ℚ) ^ (-1075 : Int) ≤ v := by
  have hm : (1 : ℚ) ≤ m := by exact_mod_cast hc.pos
  have hb := below_le m e
  calc (2 : ℚ) ^ (-1075 : Int) = 1 / 2 * 2 ^ (-1074 : Int) := by
        rw [show (-1075 : Int) = -1 + -1074 from rfl, zpow_add₀ (by norm_num), zpow_neg_one,
          one_div]
    _ ≤ 1 / 2 * 2 ^ e :=
      mul_le_mul_of_nonneg_left (zpow_le_zpow_right₀ (by norm_num) hc.low) (by norm_num)
    _ ≤ (m - below m e) * 2 ^ e := mul_le_mul_of_nonneg_right (by linarith) (two_zpow_pos e).le
    _ ≤ v := h.low

theorem two_pow_le_ten_pow {a b : Nat} (h : a ≤ 3 * b) : 2 ^ a ≤ 10 ^ b := by
  calc 2 ^ a ≤ 2 ^ (3 * b) := Nat.pow_le_pow_right (by norm_num) h
    _ = (2 ^ 3) ^ b := pow_mul _ _ _
    _ ≤ 10 ^ b := Nat.pow_le_pow_left (by norm_num) b

theorem length_digits {n : Nat} (hn : 0 < n) :
    10 ^ ((digits n).length - 1) ≤ n ∧ n < 10 ^ (digits n).length := by
  have hpos : 0 < (digits n).length := List.length_pos_of_ne_nil (digits_ne_nil n)
  constructor
  · rcases Nat.eq_zero_or_pos ((digits n).length - 1) with h0 | h1
    · rw [h0]
      exact hn
    · by_contra hlt
      have := (Nat.length_toDigits_le_iff (b := 10) (by norm_num) h1).mpr (not_le.mp hlt)
      change (digits n).length ≤ _ at this
      omega
  · exact (Nat.length_toDigits_le_iff (by norm_num) hpos).mp le_rfl

private theorem ten_zpow_pos (k : Int) : (0 : ℚ) < 10 ^ k := zpow_pos (by norm_num) k

/-- What rounds to a double other than zero is not tiny. -/
theorem Rounds.le_magnitude {d : Nat} {k : Int} (hd : 0 < d) (h : Rounds (d * 10 ^ k) m e)
    (hc : Canonical m e) : -400 ≤ ((digits d).length : Int) + k := by
  obtain ⟨-, hhigh⟩ := length_digits hd
  by_contra hlt
  have hvalue : (d * 10 ^ k : ℚ) < 10 ^ (-400 : Int) := by
    calc (d * 10 ^ k : ℚ) < 10 ^ ((digits d).length : Int) * 10 ^ k := by
          refine mul_lt_mul_of_pos_right ?_ (ten_zpow_pos k)
          rw [zpow_natCast]
          exact_mod_cast hhigh
      _ = 10 ^ (((digits d).length : Int) + k) := (zpow_add₀ (by norm_num) _ _).symm
      _ ≤ 10 ^ (-400 : Int) := zpow_le_zpow_right₀ (by norm_num) (by omega)
  have hleast : (10 : ℚ) ^ (-400 : Int) ≤ 2 ^ (-1075 : Int) := by
    rw [zpow_neg, zpow_neg]
    refine inv_anti₀ (two_zpow_pos _) ?_
    exact_mod_cast two_pow_le_ten_pow (by norm_num)
  exact absurd (h.zpow_le hc) (not_le.mpr (lt_of_lt_of_le hvalue hleast))

theorem Rounds.magnitude_le {d : Nat} {k : Int} (hd : 0 < d) (h : Rounds (d * 10 ^ k) m e)
    (hc : Canonical m e) : ((digits d).length : Int) + k ≤ 400 := by
  obtain ⟨hlow, -⟩ := length_digits hd
  by_contra hlt
  have hvalue : (10 : ℚ) ^ (400 : Int) ≤ d * 10 ^ k := by
    calc (10 : ℚ) ^ (400 : Int) ≤ 10 ^ (((digits d).length - 1 : Nat) + k) :=
          zpow_le_zpow_right₀ (by norm_num) (by omega)
      _ = 10 ^ ((digits d).length - 1) * 10 ^ k := by rw [zpow_add₀ (by norm_num), zpow_natCast]
      _ ≤ d * 10 ^ k := by
          refine mul_le_mul_of_nonneg_right ?_ (ten_zpow_pos k).le
          exact_mod_cast hlow
  have hgreatest : (2 : ℚ) ^ (53 + e) ≤ 10 ^ (400 : Int) := by
    have := hc.high
    refine le_trans (zpow_le_zpow_right₀ (by norm_num) (show 53 + e ≤ (1024 : Nat) by omega)) ?_
    exact_mod_cast two_pow_le_ten_pow (by norm_num)
  exact absurd (h.lt_zpow hc) (not_lt.mpr (le_trans hgreatest hvalue))

theorem nearest_eq {d : Nat} {k : Int} (hd : 0 < d) (h : Rounds (d * 10 ^ k) m e) :
    nearest d k = hc.toFloat .positive := by
  have hsmall := h.le_magnitude hd hc
  have hlarge := h.magnitude_le hd hc
  have hlen : 0 < (digits d).length := List.length_pos_of_ne_nil (digits_ne_nil d)
  have hlog : (digits d).length - 1 ≤ d.log2 := by
    refine (Nat.le_log2 hd.ne').mpr (le_trans ?_ (length_digits hd).1)
    exact Nat.pow_le_pow_left (by norm_num) _
  rw [nearest, if_neg (by omega), if_neg (by omega)]
  exact ofScientific_eq hc hd (by omega) (by omega) h

end Decimals

end FleetTrail.Number
