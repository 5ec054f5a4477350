import FleetTrail.Proofs.Number.Double

/-!
# Rounding to a double

What the library's rounding makes of a value that is known by a mantissa, an exponent and how far
the value lies past them. A value rounds to a double when it lies within half a unit of the double's
last place; below the least double of a binade the units are half as long. Ties go to the even
mantissa. The value is first brought to the exponent of the double, or to the one below when the
double opens a binade and the value lies under it.
-/

namespace FleetTrail.Number

open Float.Model Float.Model.UnpackedFloat

/-- What an accuracy says of the part of a value past its mantissa. -/
def Fits : Accuracy → ℚ → Prop
  | .exact, r => r = 0
  | .inexact .lt, r => 0 < r ∧ r < 1 / 2
  | .inexact .eq, r => r = 1 / 2
  | .inexact .gt, r => 1 / 2 < r ∧ r < 1

def Reads (em : ExtendedMantissa) (q : ℚ) : Prop := Fits em.accuracy (q - em.mantissa)

theorem Fits.nonneg {a : Accuracy} {r : ℚ} (h : Fits a r) : 0 ≤ r := by
  rcases a with _ | ⟨_ | _ | _⟩ <;> simp only [Fits] at h <;> linarith

theorem Fits.lt_one {a : Accuracy} {r : ℚ} (h : Fits a r) : r < 1 := by
  rcases a with _ | ⟨_ | _ | _⟩ <;> simp only [Fits] at h <;> linarith

theorem reads_of_fits {m : Nat} {a : Accuracy} {q : ℚ} (h : Fits a (q - m)) :
    Reads (.ofMantissaAndAccuracy m a) q := by
  rcases a with _ | ⟨_ | _ | _⟩ <;> exact h

namespace Reads

variable {em : ExtendedMantissa} {q : ℚ}

theorem shiftRightOne (h : Reads em q) : Reads em.shiftRightOne (q / 2) := by
  obtain ⟨m, r, s⟩ := em
  have hm : (m : ℚ) = 2 * (m / 2 : Nat) + (m % 2 : Nat) := by
    exact_mod_cast (Nat.div_add_mod m 2).symm
  rcases Nat.mod_two_eq_zero_or_one m with h0 | h0 <;>
    cases r <;> cases s <;>
    simp [Reads, Fits, ExtendedMantissa.accuracy, ExtendedMantissa.shiftRightOne, h0] at h hm ⊢ <;>
    (try constructor) <;> linarith

theorem shiftRight (h : Reads em q) (n : Nat) : Reads (em >>> n) (q / 2 ^ n) := by
  induction n with
  | zero =>
    rw [pow_zero, div_one]
    exact h
  | succ n ih =>
    rw [pow_succ, ← div_div]
    exact ih.shiftRightOne

private theorem le_of_cast_lt {a b : Nat} (h : (a : ℚ) < b + 1) : a ≤ b :=
  Nat.lt_succ_iff.mp (by exact_mod_cast h)

/-- The nearest mantissa, of two the even one. -/
theorem rounded (h : Reads em q) {m : Nat} (hlow : m - 1 / 2 ≤ q) (hhigh : q ≤ m + 1 / 2)
    (hodd : m % 2 = 1 → m - 1 / 2 < q ∧ q < m + 1 / 2) : em.roundedMantissa = m := by
  obtain ⟨k, r, s⟩ := em
  cases r <;> cases s <;>
    simp only [Reads, Fits, ExtendedMantissa.accuracy, ExtendedMantissa.roundedMantissa,
      Accuracy.roundToNearestEven] at h ⊢
  case false.false =>
    exact le_antisymm (le_of_cast_lt (by linarith)) (le_of_cast_lt (by linarith))
  case false.true =>
    exact le_antisymm (le_of_cast_lt (by linarith)) (le_of_cast_lt (by linarith))
  case true.false =>
    have hkm : k ≤ m := le_of_cast_lt (by linarith)
    have hmk : m ≤ k + 1 := le_of_cast_lt (by push_cast; linarith)
    rcases Nat.mod_two_eq_zero_or_one m with heven | hm
    · omega
    · obtain ⟨hl, hh⟩ := hodd hm
      have : m < k + 1 := by
        have : (m : ℚ) < (k + 1 : Nat) := by push_cast; linarith
        exact_mod_cast this
      have : k < m := by
        have : (k : ℚ) < m := by linarith
        exact_mod_cast this
      omega
  case true.true =>
    have hmk : m ≤ k + 1 := le_of_cast_lt (by push_cast; linarith)
    have : k < m := by
      have : (k : ℚ) < m := by linarith
      exact_mod_cast this
    omega

end Reads

/-- The exponent that a mantissa and an exponent are brought to. -/
def target (mantissa : Nat) (exponent : Int) : Int :=
  max ((mantissa.log2 : Int) + 1 + exponent - 53) (-1074)

theorem targetExponent_eq (mantissa : Nat) (exponent : Int) :
    Format.binary64.targetExponent (totalExponent mantissa exponent) = target mantissa exponent :=
  rfl

theorem two_zpow_pos (e : Int) : (0 : ℚ) < 2 ^ e := zpow_pos (by norm_num) e

theorem shiftToTargetExponent_reads {m : Nat} {e : Int} {a : Accuracy} {v : ℚ}
    (he : e ≤ target m e) (h : Fits a (v / 2 ^ e - m)) :
    ∃ em, shiftToTargetExponent Format.binary64 m e a = (em, target m e) ∧
      Reads em (v / 2 ^ target m e) := by
  have hn : e + ((target m e - e).toNat : Int) = target m e := by omega
  refine ⟨ExtendedMantissa.ofMantissaAndAccuracy m a >>> (target m e - e).toNat, ?_, ?_⟩
  · rw [shiftToTargetExponent, targetExponent_eq, shiftToExponent, hn]
  · have := (reads_of_fits h).shiftRight (target m e - e).toNat
    rwa [div_div, ← zpow_natCast, ← zpow_add₀ (by norm_num), hn] at this

theorem shiftToTargetExponent_self {m : Nat} {e : Int} (hm : m < 2 ^ 53) (he : -1074 ≤ e) :
    shiftToTargetExponent Format.binary64 m e .exact = (⟨m, false, false⟩, e) := by
  have hlog : m.log2 < 53 := by
    rcases Nat.eq_zero_or_pos m with rfl | hpos
    · decide
    · exact (Nat.log2_lt (by omega)).mpr hm
  have hn : (target m e - e).toNat = 0 := by rw [target]; omega
  rw [shiftToTargetExponent, targetExponent_eq, shiftToExponent, hn, Nat.cast_zero, Int.add_zero]
  rfl

/-- A mantissa that rounding carried past the last place moves one place down. -/
theorem shiftToTargetExponent_carry {e : Int} (he : -1074 ≤ e) :
    shiftToTargetExponent Format.binary64 (2 ^ 53) e .exact = (⟨2 ^ 52, false, false⟩, e + 1) := by
  have hlog : Nat.log2 (2 ^ 53) = 53 := Nat.log2_two_pow
  have hn : (target (2 ^ 53) e - e).toNat = 1 := by rw [target, hlog]; omega
  rw [shiftToTargetExponent, targetExponent_eq, shiftToExponent, hn]
  rfl

/-- How far below a double the values reach that round to it, in units of its last place. -/
def below (mantissa : Nat) (exponent : Int) : ℚ :=
  if mantissa = 2 ^ 52 ∧ exponent ≠ -1074 then 1 / 4 else 1 / 2

/-- A value that rounds to `mantissa * 2 ^ exponent`. -/
structure Rounds (v : ℚ) (mantissa : Nat) (exponent : Int) : Prop where
  low : (mantissa - below mantissa exponent) * 2 ^ exponent ≤ v
  high : v ≤ (mantissa + 1 / 2) * 2 ^ exponent
  odd : mantissa % 2 = 1 →
    (mantissa - below mantissa exponent) * 2 ^ exponent < v ∧ v < (mantissa + 1 / 2) * 2 ^ exponent

theorem below_pos (mantissa : Nat) (exponent : Int) : 0 < below mantissa exponent := by
  unfold below
  split <;> norm_num

theorem below_le (mantissa : Nat) (exponent : Int) : below mantissa exponent ≤ 1 / 2 := by
  unfold below
  split <;> norm_num

theorem Fits.binade {m : Nat} {e : Int} {a : Accuracy} {v : ℚ} (h : Fits a (v / 2 ^ e - m))
    (hm : m ≠ 0) : (2 : ℚ) ^ ((m.log2 : Int) + e) ≤ v ∧ v < 2 ^ ((m.log2 : Int) + e + 1) := by
  have hp := two_zpow_pos e
  have hlow : (2 : ℚ) ^ m.log2 ≤ m := by exact_mod_cast Nat.log2_self_le hm
  have hhigh : (m : ℚ) + 1 ≤ 2 ^ (m.log2 + 1) := by exact_mod_cast Nat.lt_log2_self
  have h0 := h.nonneg
  have h1 := h.lt_one
  constructor
  · rw [zpow_add₀ (by norm_num), zpow_natCast, ← le_div_iff₀ hp]
    linarith
  · rw [add_right_comm, zpow_add₀ (by norm_num), ← div_lt_iff₀ hp, ← Nat.cast_succ, zpow_natCast]
    exact lt_of_lt_of_le (by linarith) hhigh

private theorem zpow_lt {a b : Int} (h : (2 : ℚ) ^ a < 2 ^ b) : a < b :=
  (zpow_lt_zpow_iff_right₀ (by norm_num)).mp h

namespace Rounds

variable {m : Nat} {e : Int} {v : ℚ}

theorem lt_zpow (h : Rounds v m e) (hc : Canonical m e) : v < 2 ^ (53 + e) := by
  have hm : (m : ℚ) + 1 ≤ 2 ^ 53 := by exact_mod_cast hc.lt
  refine lt_of_le_of_lt h.high ?_
  rw [zpow_add₀ (by norm_num)]
  refine mul_lt_mul_of_pos_right ?_ (two_zpow_pos e)
  norm_num at hm ⊢
  linarith

theorem le_of_lt (h : Rounds v m e) {k : Nat} (hk : k < m) : k * 2 ^ e ≤ v := by
  have hk : (k : ℚ) + 1 ≤ m := by exact_mod_cast hk
  have := below_le m e
  exact le_trans (mul_le_mul_of_nonneg_right (by linarith) (two_zpow_pos e).le) h.low

theorem target_zero_eq (h : Rounds v m e) (hc : Canonical m e) {f : Int} {a : Accuracy}
    (hf : f ≤ target 0 f) (hfits : Fits a (v / 2 ^ f - (0 : Nat))) : target 0 f = e := by
  have hlow := hc.low
  have hlog : Nat.log2 0 = 0 := rfl
  have ht : target 0 f = -1074 ∧ f ≤ -1074 := by
    rw [target, hlog] at hf ⊢
    omega
  by_contra he
  have hm : 1 < m := by
    have := hc.normal.resolve_right (by omega)
    omega
  have hv : (2 : ℚ) ^ e ≤ v := by simpa using h.le_of_lt hm
  have hv' : v < 2 ^ f := by
    have := hfits.lt_one
    rwa [Nat.cast_zero, sub_zero, div_lt_one (two_zpow_pos f)] at this
  have := zpow_lt (lt_of_le_of_lt hv hv')
  omega

/-- The exponent that a value is brought to is the double's, or one less where the double opens
a binade and the value lies below it. -/
theorem target_eq (h : Rounds v m e) (hc : Canonical m e) {k : Nat} {f : Int} {a : Accuracy}
    (hf : f ≤ target k f) (hfits : Fits a (v / 2 ^ f - k)) :
    target k f = e ∨
      m = 2 ^ 52 ∧ e ≠ -1074 ∧ v < 2 ^ 52 * 2 ^ e ∧ target k f = e - 1 := by
  have hlow := hc.low
  by_cases hk : k = 0
  · subst hk
    exact .inl (h.target_zero_eq hc hf hfits)
  obtain ⟨hbin, hbin'⟩ := hfits.binade hk
  have hup : (k.log2 : Int) + f < 53 + e := zpow_lt (lt_of_le_of_lt hbin (h.lt_zpow hc))
  by_cases he : e = -1074
  · left
    rw [target]
    omega
  have hm := hc.normal.resolve_right he
  by_cases hv : (2 : ℚ) ^ 52 * 2 ^ e ≤ v
  · left
    have : 52 + e < (k.log2 : Int) + f + 1 := by
      refine zpow_lt (lt_of_le_of_lt ?_ hbin')
      rwa [zpow_add₀ (by norm_num)]
    rw [target]
    omega
  · right
    have hv := not_le.mp hv
    have hm : m = 2 ^ 52 := by
      by_contra hne
      have := h.le_of_lt (show 2 ^ 52 < m by omega)
      push_cast at this
      exact absurd hv (not_lt.mpr this)
    have hlow' : 51 + e < (k.log2 : Int) + f + 1 := by
      refine zpow_lt (lt_of_le_of_lt ?_ hbin')
      have := h.le_of_lt (show 2 ^ 51 < m by omega)
      rw [zpow_add₀ (by norm_num)]
      exact_mod_cast this
    have hhigh : (k.log2 : Int) + f < 52 + e := by
      refine zpow_lt (lt_of_le_of_lt hbin ?_)
      rw [zpow_add₀ (by norm_num)]
      exact_mod_cast hv
    refine ⟨hm, he, hv, ?_⟩
    rw [target]
    omega

/-- Rounding finds the double. -/
theorem roundWithAccuracy_eq (h : Rounds v m e) (hc : Canonical m e) (s : Sign) {k : Nat} {f : Int}
    {a : Accuracy} (hf : f ≤ target k f) (hfits : Fits a (v / 2 ^ f - k)) :
    roundWithAccuracy Format.binary64 s k f a = .finite s m e hc.pos := by
  obtain ⟨em, hshift, hreads⟩ := shiftToTargetExponent_reads hf hfits
  have hpos := hc.pos
  have hlow := hc.low
  have hp := two_zpow_pos e
  rw [roundWithAccuracy, hshift]
  dsimp only
  rcases h.target_eq hc hf hfits with ht | ⟨rfl, he, hv, ht⟩
  · have hr : em.roundedMantissa = m := by
      rw [ht] at hreads
      have hb := below_le m e
      refine hreads.rounded ?_ ?_ ?_
      · rw [le_div_iff₀ hp]
        exact le_trans (mul_le_mul_of_nonneg_right (by linarith) hp.le) h.low
      · rw [div_le_iff₀ hp]
        exact h.high
      · intro hodd
        obtain ⟨hl, hh⟩ := h.odd hodd
        rw [lt_div_iff₀ hp, div_lt_iff₀ hp]
        exact ⟨lt_of_le_of_lt (mul_le_mul_of_nonneg_right (by linarith) hp.le) hl, hh⟩
    rw [hr, ht, shiftToTargetExponent_self hc.lt hc.low]
    dsimp only
    rw [dif_neg (by omega)]
  · have hr : em.roundedMantissa = 2 ^ 53 := by
      have hb : below (2 ^ 52) e = 1 / 4 := if_pos ⟨rfl, he⟩
      have hq : v / 2 ^ (e - 1) = 2 * (v / 2 ^ e) := by
        rw [zpow_sub₀ (by norm_num)]
        field_simp
      rw [ht, hq] at hreads
      have hl : (2 : ℚ) ^ 52 - 1 / 4 ≤ v / 2 ^ e := by
        rw [le_div_iff₀ hp, ← hb]
        exact_mod_cast h.low
      have hh : v / 2 ^ e < 2 ^ 52 := by rwa [div_lt_iff₀ hp]
      refine hreads.rounded ?_ ?_ ?_
      · push_cast
        norm_num at hl ⊢
        linarith
      · push_cast
        norm_num at hh ⊢
        linarith
      · intro hodd
        norm_num at hodd
    rw [hr, ht, shiftToTargetExponent_carry (by omega)]
    dsimp only
    rw [dif_neg (by decide)]
    congr 1
    omega

end Rounds

end FleetTrail.Number
