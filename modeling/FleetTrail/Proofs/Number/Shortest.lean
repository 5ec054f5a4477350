import FleetTrail.Number.Shortest
import FleetTrail.Proofs.Number.Nearest

/-!
# The shortest decimal of a double

The decimals in the interval around a double are those that round to it. A grid of seventeen places
has a neighbour of the double in that interval, since a step of the grid is then shorter than a unit
of the double's last place; so the search for the shortest decimal always finds one, and what it
finds rounds to the double.
-/

namespace FleetTrail.Number

def Decimal.value (d : Decimal) : ℚ := d.digits * 10 ^ d.exponent

theorem zpow_eq_div {b : ℚ} (hb : b ≠ 0) (k : Int) : b ^ k = b ^ k.toNat / b ^ (-k).toNat := by
  rw [← zpow_natCast, ← zpow_natCast, ← zpow_sub₀ hb]
  congr 1
  omega

theorem Decimal.value_eq (d : Decimal) :
    d.value = d.digits * 10 ^ d.exponent.toNat / 10 ^ (-d.exponent).toNat := by
  rw [Decimal.value, zpow_eq_div (by norm_num), mul_div_assoc]

namespace Interval

variable (i : Interval)

theorem contains_iff (hdiv : 0 < i.divisor) (d : Decimal) :
    i.contains d = true ↔
      ((i.low / i.divisor : ℚ) < d.value ∧ d.value < i.high / i.divisor) ∨
      (i.closed = true ∧ ((i.low / i.divisor : ℚ) = d.value ∨ d.value = i.high / i.divisor)) := by
  have hdiv : (0 : ℚ) < i.divisor := by exact_mod_cast hdiv
  have hten : (0 : ℚ) < 10 ^ (-d.exponent).toNat := by positivity
  simp only [d.value_eq, div_lt_div_iff₀ hdiv hten, div_lt_div_iff₀ hten hdiv,
    div_eq_div_iff hdiv.ne' hten.ne', div_eq_div_iff hten.ne' hdiv.ne', contains, Bool.or_eq_true,
    Bool.and_eq_true, decide_eq_true_eq, beq_iff_eq, Nat.pow_eq]
  norm_cast

end Interval

section Around

variable {m : Nat} {e : Int}

private theorem quarter_zpow (e : Int) :
    (2 : ℚ) ^ (e - 2).toNat / 2 ^ (2 - e).toNat = 1 / 4 * 2 ^ e := by
  have := zpow_eq_div (b := 2) (by norm_num) (e - 2)
  rw [neg_sub] at this
  rw [← this, zpow_sub₀ (by norm_num)]
  norm_num
  ring

theorem low_around (hm : 0 < m) (e : Int) :
    ((Interval.around m e).low / (Interval.around m e).divisor : ℚ) = (m - below m e) * 2 ^ e := by
  have hlow : ((4 * m - (if m = 2 ^ 52 ∧ e ≠ -1074 then 1 else 2) : Nat) : ℚ) =
      4 * (m - below m e) := by
    rw [Nat.cast_sub (by split <;> omega), below]
    split <;> push_cast <;> ring
  simp only [Interval.around, Nat.pow_eq] at hlow ⊢
  rw [Nat.cast_mul, hlow, Nat.cast_pow, Nat.cast_pow, mul_div_assoc, Nat.cast_ofNat, quarter_zpow]
  ring

theorem value_around (m : Nat) (e : Int) :
    ((Interval.around m e).value / (Interval.around m e).divisor : ℚ) = m * 2 ^ e := by
  simp only [Interval.around, Nat.pow_eq]
  push_cast
  rw [mul_div_assoc, quarter_zpow]
  ring

theorem high_around (m : Nat) (e : Int) :
    ((Interval.around m e).high / (Interval.around m e).divisor : ℚ) = (m + 1 / 2) * 2 ^ e := by
  simp only [Interval.around, Nat.pow_eq]
  push_cast
  rw [mul_div_assoc, quarter_zpow]
  ring

theorem divisor_around_pos (m : Nat) (e : Int) : 0 < (Interval.around m e).divisor :=
  Nat.two_pow_pos _

theorem rounds_of_contains (hm : 0 < m) {d : Decimal}
    (h : (Interval.around m e).contains d = true) : Rounds d.value m e := by
  rw [Interval.contains_iff _ (divisor_around_pos m e), low_around hm, high_around] at h
  rcases h with ⟨hlow, hhigh⟩ | ⟨hclosed, hend⟩
  · exact ⟨hlow.le, hhigh.le, fun _ => ⟨hlow, hhigh⟩⟩
  · have heven : m % 2 = 0 := by simpa [Interval.around] using hclosed
    have hle : (m - below m e) * 2 ^ e ≤ (m + 1 / 2) * 2 ^ e := by
      have := below_pos m e
      exact mul_le_mul_of_nonneg_right (by linarith) (two_zpow_pos e).le
    refine ⟨?_, ?_, fun hodd => by omega⟩
    · rcases hend with h | h
      · exact h.le
      · exact h ▸ hle
    · rcases hend with h | h
      · exact h ▸ hle
      · exact h.le

theorem Interval.contains_of_onGrid {i : Interval} {tie : Tie} {k : Int} {d : Decimal}
    (h : i.onGrid tie k = some d) : i.contains d = true := by
  simp only [Interval.onGrid] at h
  split at h
  · rename_i hdown hup
    split at h <;> cases h <;> assumption
  · cases h
    assumption
  · cases h
    assumption
  · cases h

theorem Interval.grid_encloses (i : Interval) (hdiv : 0 < i.divisor) (k : Int) :
    ((i.value * Nat.pow 10 (-k).toNat / (Nat.pow 10 k.toNat * i.divisor) : Nat) : ℚ) * 10 ^ k ≤
        i.value / i.divisor ∧
      (i.value / i.divisor : ℚ) <
        ((i.value * Nat.pow 10 (-k).toNat / (Nat.pow 10 k.toNat * i.divisor) : Nat) + 1) *
          10 ^ k := by
  have hstep : 0 < 10 ^ k.toNat * i.divisor := Nat.mul_pos (by positivity) hdiv
  have hdivq : (0 : ℚ) < i.divisor := by exact_mod_cast hdiv
  have hscale : (0 : ℚ) < 10 ^ (-k).toNat := by positivity
  simp only [Nat.pow_eq]
  generalize hb : i.value * 10 ^ (-k).toNat / (10 ^ k.toNat * i.divisor) = b
  have hlow : (b * (10 ^ k.toNat * i.divisor) : ℚ) ≤ i.value * 10 ^ (-k).toNat := by
    rw [← hb]
    exact_mod_cast Nat.div_mul_le_self _ _
  have hhigh : (i.value * 10 ^ (-k).toNat : ℚ) < (b + 1) * (10 ^ k.toNat * i.divisor) := by
    rw [← hb]
    exact_mod_cast Nat.lt_mul_of_div_lt (Nat.lt_succ_self _) hstep
  rw [zpow_eq_div (by norm_num) k, ← mul_div_assoc, ← mul_div_assoc,
    div_le_div_iff₀ hscale hdivq, div_lt_div_iff₀ hdivq hscale]
  constructor <;> linarith

/-- One of the neighbours of a double lies in its interval on a grid of seventeen places. -/
theorem onGrid_ne_none (hc : Canonical m e) (tie : Tie) {k : Int}
    (hk : (10 : ℚ) ^ (k + 16) ≤ m * 2 ^ e) : (Interval.around m e).onGrid tie k ≠ none := by
  have hdiv := divisor_around_pos m e
  obtain ⟨hlow, hhigh⟩ := (Interval.around m e).grid_encloses hdiv k
  have hlast := two_zpow_pos e
  have hm : (m : ℚ) < 2 ^ 53 := by exact_mod_cast hc.lt
  rw [zpow_add₀ (by norm_num)] at hk
  intro hnone
  simp only [Interval.onGrid] at hnone
  split at hnone <;> try cases hnone
  rename_i hdown hup
  rw [← Bool.not_eq_true, Interval.contains_iff _ hdiv, low_around hc.pos, high_around, not_or,
    not_and, not_lt] at hdown hup
  simp only [Decimal.value, Nat.cast_add, Nat.cast_one] at hdown hup
  rw [value_around] at hlow hhigh
  generalize (((Interval.around m e).value * Nat.pow 10 (-k).toNat /
    (Nat.pow 10 k.toNat * (Interval.around m e).divisor) : Nat) : ℚ) = b at *
  generalize (2 : ℚ) ^ e = u at *
  generalize (10 : ℚ) ^ k = s at *
  have hb := mul_pos (below_pos m e) hlast
  have hup := hup.1 (by linarith)
  by_cases hopen : m = 2 ^ 52 ∧ e ≠ -1074
  · -- the upper neighbour is near enough: a step is less than half a unit of the last place
    have hm : (m : ℚ) = 2 ^ 52 := by exact_mod_cast hopen.1
    rw [hm] at hk hup hlow
    norm_num at hk
    linarith
  · -- both would be half a unit of the last place away, and a step is less than a whole one
    rw [below, if_neg hopen] at hdown
    have hdown : b * s ≤ (m - 1 / 2) * u := by
      by_contra hlt
      have := hdown.1 (not_le.mp hlt)
      linarith
    have : s * 10 ^ 16 < 2 ^ 53 * u :=
      lt_of_le_of_lt (by exact_mod_cast hk) (mul_lt_mul_of_pos_right hm hlast)
    norm_num at this
    linarith

private theorem le_leadingZeros {value divisor fuel : Nat} (h : divisor ≤ value * 10 ^ fuel) :
    divisor ≤ value * 10 ^ leadingZeros value divisor fuel := by
  induction fuel generalizing value with
  | zero => exact h
  | succ fuel ih =>
    rw [leadingZeros]
    split
    · rw [pow_zero, mul_one]
      assumption
    · rw [pow_succ', ← mul_assoc] at h ⊢
      exact ih h

theorem zpow_magnitude_le (hc : Canonical m e) :
    (10 : ℚ) ^ ((Interval.around m e).magnitude - 1) ≤ m * 2 ^ e := by
  have hdiv := divisor_around_pos m e
  have hdivq : (0 : ℚ) < (Interval.around m e).divisor := by exact_mod_cast hdiv
  rw [← value_around, Interval.magnitude]
  split
  · rename_i hle
    have hpos : 0 < (Interval.around m e).value / (Interval.around m e).divisor :=
      Nat.div_pos hle hdiv
    obtain ⟨hlow, -⟩ := length_digits hpos
    have hlen := List.length_pos_of_ne_nil
      (digits_ne_nil ((Interval.around m e).value / (Interval.around m e).divisor))
    rw [← Int.natCast_pred_of_pos hlen, zpow_natCast]
    refine le_trans ?_ Nat.cast_div_le
    exact_mod_cast hlow
  · rename_i hlt
    -- four hundred zeros are enough for the smallest double
    have hfuel : (Interval.around m e).divisor ≤ (Interval.around m e).value * 10 ^ 400 := by
      have hlow := hc.low
      have hpos := hc.pos
      calc 2 ^ (2 - e).toNat ≤ 10 ^ 400 := two_pow_le_ten_pow (by omega)
        _ ≤ 4 * m * Nat.pow 2 (e - 2).toNat * 10 ^ 400 :=
          Nat.le_mul_of_pos_left _ (Nat.mul_pos (by omega) (Nat.two_pow_pos _))
    have h := le_leadingZeros hfuel
    rw [sub_right_comm, sub_self, zero_sub, zpow_neg, zpow_natCast, inv_eq_one_div,
      div_le_div_iff₀ (by positivity) hdivq, one_mul]
    exact_mod_cast h

theorem dropZeros_value (fuel : Nat) (d : Decimal) : (dropZeros fuel d).value = d.value := by
  induction fuel generalizing d with
  | zero => rfl
  | succ fuel ih =>
    rw [dropZeros]
    split
    · rename_i hzero
      have hdigits : (d.digits : ℚ) = (d.digits / 10 : Nat) * 10 := by
        exact_mod_cast (Nat.div_mul_cancel (Nat.dvd_of_mod_eq_zero hzero)).symm
      rw [ih, Decimal.value, Decimal.value, hdigits, zpow_add_one₀ (by norm_num)]
      ring
    · rfl

/-- The shortest decimal of a double rounds to it. -/
theorem rounds_shortest (hc : Canonical m e) (tie : Tie) : Rounds (shortest tie m e).value m e := by
  have hmag := zpow_magnitude_le hc
  have hsome : ((List.range 17).findSome? fun n => (Interval.around m e).onGrid tie
      ((Interval.around m e).magnitude - (n + 1 : Nat))) ≠ none := by
    intro hnone
    refine onGrid_ne_none hc tie ?_ (List.findSome?_eq_none_iff.mp hnone 16 (by decide))
    convert hmag using 2
    omega
  rw [shortest]
  split
  · rename_i d hfound
    obtain ⟨n, -, hn⟩ := List.exists_of_findSome?_eq_some hfound
    rw [dropZeros_value]
    exact rounds_of_contains hc.pos (Interval.contains_of_onGrid hn)
  · rename_i hnone
    exact absurd hnone hsome

theorem shortest_digits_pos (hc : Canonical m e) (tie : Tie) : 0 < (shortest tie m e).digits := by
  have h := (rounds_shortest hc tie).zpow_le hc
  by_contra h0
  rw [Decimal.value, Nat.eq_zero_of_not_pos h0, Nat.cast_zero, zero_mul] at h
  exact absurd (two_zpow_pos _) (not_lt.mpr h)

end Around

end FleetTrail.Number
