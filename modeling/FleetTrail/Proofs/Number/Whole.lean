import FleetTrail.Proofs.Number.RoundTrip
import FleetTrail.Proofs.Result

/-!
# Whole numbers read from text

A text is read as a 64-bit number exactly when it is an optional sign with digits that denote one.
The digits of a whole number are read as that number, as a 64-bit word and as a double alike.
-/

namespace FleetTrail.Number

/-- The texts that spell a whole number: an optional sign and at least one ASCII digit. -/
inductive Whole : List Char → Int → Prop
  | plain {ds : List Char} (hne : ds ≠ []) (hds : ds.all isDigit = true) :
      Whole ds (digitsValue ds)
  | plus {ds : List Char} (hne : ds ≠ []) (hds : ds.all isDigit = true) :
      Whole ('+' :: ds) (digitsValue ds)
  | minus {ds : List Char} (hne : ds ≠ []) (hds : ds.all isDigit = true) :
      Whole ('-' :: ds) (-digitsValue ds)

section Digits

variable {limit acc n : Nat} {overflow : WholeError} {cs : List Char}

private theorem le_foldl_digits (cs : List Char) (acc : Nat) :
    acc ≤ cs.foldl (fun n c => n * 10 + (digit? c).getD 0) acc := by
  induction cs generalizing acc with
  | nil => exact Nat.le_refl acc
  | cons c cs ih =>
    have hrest := ih (acc * 10 + (digit? c).getD 0)
    rw [List.foldl_cons]
    omega

/-- Reading digits one by one never runs past the limit when their value does not. -/
private theorem readDigits_continues (hacc : acc ≤ limit) :
    readDigits limit overflow acc cs = .ok n ↔ cs.all isDigit = true ∧
      cs.foldl (fun n c => n * 10 + (digit? c).getD 0) acc = n ∧ n ≤ limit := by
  induction cs generalizing acc with
  | nil =>
    simp only [readDigits, Except.ok.injEq, List.all_nil, List.foldl_nil, true_and]
    omega
  | cons c cs ih =>
    rw [readDigits, List.all_cons, List.foldl_cons, isDigit]
    cases hc : digit? c with
    | none => simp
    | some d =>
      by_cases hlimit : limit < acc * 10 + d
      · have hgrows := le_foldl_digits cs (acc * 10 + d)
        simp only [if_pos hlimit, Option.getD_some, reduceCtorEq, false_iff]
        omega
      · simpa [if_neg hlimit] using ih (Nat.le_of_not_lt hlimit)

theorem readDigits_eq_ok_iff : readDigits limit overflow 0 cs = .ok n ↔
    cs.all isDigit = true ∧ digitsValue cs = n ∧ n ≤ limit :=
  readDigits_continues (Nat.zero_le limit)

end Digits

private theorem not_sign {c : Char} (h : isDigit c = true) : c ≠ '+' ∧ c ≠ '-' := by
  constructor
  all_goals
    rintro rfl
    cases h

section Words

variable {cs ds : List Char} {n : Int64}

private theorem readInt64_minus_iff (hne : ds ≠ []) : readInt64 ('-' :: ds) = .ok n ↔
    ds.all isDigit = true ∧ n.toInt = -digitsValue ds := by
  have hread : readInt64 ('-' :: ds) =
      readDigits (Nat.pow 2 63) .tooSmall 0 ds >>= fun k => pure (Int64.ofInt (-(k : Int))) := by
    cases ds with
    | nil => exact absurd rfl hne
    | cons => rfl
  simp only [hread, bind_eq_ok_iff, readDigits_eq_ok_iff, pure_eq_ok_iff]
  constructor
  · intro h
    obtain ⟨k, ⟨hdigits, rfl, hlimit⟩, rfl⟩ := h
    norm_num at hlimit
    exact ⟨hdigits, Int64.toInt_ofInt_of_le (by omega) (by omega)⟩
  · intro h
    obtain ⟨hdigits, hn⟩ := h
    have hlimit : digitsValue ds ≤ 2 ^ 63 := by
      have hbound := n.le_toInt
      omega
    exact ⟨_, ⟨hdigits, rfl, hlimit⟩, by rw [← hn, Int64.ofInt_toInt]⟩

private theorem readInt64_digits_iff (hread : readInt64 cs =
      readDigits (Nat.pow 2 63 - 1) .tooLarge 0 ds >>= fun k => pure (Int64.ofInt (k : Int))) :
    readInt64 cs = .ok n ↔ ds.all isDigit = true ∧ n.toInt = digitsValue ds := by
  simp only [hread, bind_eq_ok_iff, readDigits_eq_ok_iff, pure_eq_ok_iff]
  constructor
  · intro h
    obtain ⟨k, ⟨hdigits, rfl, hlimit⟩, rfl⟩ := h
    norm_num at hlimit
    exact ⟨hdigits, Int64.toInt_ofInt_of_le (by omega) (by omega)⟩
  · intro h
    obtain ⟨hdigits, hn⟩ := h
    have hlimit : digitsValue ds ≤ 2 ^ 63 - 1 := by
      have hbound := n.toInt_lt
      omega
    exact ⟨_, ⟨hdigits, rfl, hlimit⟩, by rw [← hn, Int64.ofInt_toInt]⟩

private theorem readInt64_plus_iff (hne : ds ≠ []) : readInt64 ('+' :: ds) = .ok n ↔
    ds.all isDigit = true ∧ n.toInt = digitsValue ds := by
  apply readInt64_digits_iff
  cases ds with
  | nil => exact absurd rfl hne
  | cons => rfl

private theorem readInt64_plain_iff {c : Char} (hplus : c ≠ '+') (hminus : c ≠ '-') :
    readInt64 (c :: ds) = .ok n ↔
      (c :: ds).all isDigit = true ∧ n.toInt = digitsValue (c :: ds) := by
  apply readInt64_digits_iff
  rw [readInt64]
  · simp
  · simp [hplus]
  · simp [hminus]
  · simp [hminus]
  · simp [hplus]

/-- What is read as a 64-bit number is a whole number in text, and every one that fits is read. -/
theorem readInt64_eq_ok_iff : readInt64 cs = .ok n ↔ Whole cs n.toInt := by
  constructor
  · intro h
    cases cs with
    | nil => cases h
    | cons c ds =>
      by_cases hminus : c = '-'
      · subst hminus
        have hne : ds ≠ [] := by
          rintro rfl
          cases h
        obtain ⟨hdigits, hn⟩ := (readInt64_minus_iff hne).mp h
        rw [hn]
        exact .minus hne hdigits
      · by_cases hplus : c = '+'
        · subst hplus
          have hne : ds ≠ [] := by
            rintro rfl
            cases h
          obtain ⟨hdigits, hn⟩ := (readInt64_plus_iff hne).mp h
          rw [hn]
          exact .plus hne hdigits
        · obtain ⟨hdigits, hn⟩ := (readInt64_plain_iff hplus hminus).mp h
          rw [hn]
          exact .plain (List.cons_ne_nil c ds) hdigits
  · intro h
    generalize hm : n.toInt = m at h
    cases h with
    | minus hne hdigits => exact (readInt64_minus_iff hne).mpr ⟨hdigits, hm⟩
    | plus hne hdigits => exact (readInt64_plus_iff hne).mpr ⟨hdigits, hm⟩
    | plain hne hdigits =>
      obtain ⟨c, ds, rfl⟩ := List.exists_cons_of_ne_nil hne
      have hc : isDigit c = true := List.all_eq_true.mp hdigits c List.mem_cons_self
      obtain ⟨hplus, hminus⟩ := not_sign hc
      exact (readInt64_plain_iff hplus hminus).mpr ⟨hdigits, hm⟩

end Words

inductive Spells : Int → List Char → Prop
  | minus {n : Int} (h : n < 0) : Spells n ('-' :: digits n.natAbs)
  | plus {n : Int} (h : 0 ≤ n) : Spells n ('+' :: digits n.natAbs)
  | plain {n : Int} (h : 0 ≤ n) : Spells n (digits n.natAbs)

section Spells

variable {n : Int} {cs : List Char}

theorem Spells.whole (h : Spells n cs) : Whole cs n := by
  have hne := digits_ne_nil n.natAbs
  have hall := all_isDigit_digits n.natAbs
  have hvalue : (digitsValue (digits n.natAbs) : Int) = n.natAbs := by rw [digitsValue_digits]
  cases h with
  | minus hn =>
    have hwhole := Whole.minus hne hall
    rwa [hvalue, Int.ofNat_natAbs_of_nonpos (Int.le_of_lt hn), Int.neg_neg] at hwhole
  | plus hn =>
    have hwhole := Whole.plus hne hall
    rwa [hvalue, Int.natAbs_of_nonneg hn] at hwhole
  | plain hn =>
    have hwhole := Whole.plain hne hall
    rwa [hvalue, Int.natAbs_of_nonneg hn] at hwhole

/-- A whole number of a double's width is itself the double nearest to it. -/
private theorem nearest_ofNat {k : Nat} (h : k ≤ 2 ^ 53) : nearest k 0 = Float.ofNat k := by
  by_cases hzero : k = 0
  · subst hzero
    rfl
  · have hlow := (length_digits (Nat.pos_of_ne_zero hzero)).1
    have hlength : (digits k).length - 1 < 16 := by
      apply (Nat.pow_lt_pow_iff_right (by decide : 1 < 10)).mp
      calc 10 ^ ((digits k).length - 1) ≤ k := hlow
        _ ≤ 2 ^ 53 := h
        _ < 10 ^ 16 := by norm_num
    have hsmall : ¬((digits k).length : Int) + 0 < -400 := by omega
    have hlarge : ¬400 < ((digits k).length : Int) + 0 := by omega
    rw [nearest]
    simp only [hzero, hsmall, hlarge, or_self, if_false]
    rfl

theorem Spells.readFloat (h : Spells n cs) (hn : n.natAbs ≤ 2 ^ 53) :
    readFloat cs = some (Float.ofInt n) := by
  have hdigits : readMagnitude (digits n.natAbs) = some (Float.ofNat n.natAbs) := by
    rw [readMagnitude_whole (all_isDigit_digits _) (digits_ne_nil _), digitsValue_digits,
      nearest_ofNat hn]
  cases h with
  | minus hneg =>
    obtain ⟨k, rfl⟩ := Int.eq_negSucc_of_lt_zero hneg
    rw [Number.readFloat, hdigits]
    rfl
  | plus hpos =>
    obtain ⟨k, rfl⟩ := Int.eq_ofNat_of_zero_le hpos
    rw [Number.readFloat, hdigits]
    rfl
  | plain hpos =>
    obtain ⟨k, rfl⟩ := Int.eq_ofNat_of_zero_le hpos
    have hsigned := readFloat_signed hdigits ?_ false
    · rwa [signed, String.toList_ofList] at hsigned
    · intro c hc
      exact (not_sign (isDigit_of_mem_digits hc)).symm

theorem Spells.not_blank (h : Spells n cs) : cs ≠ [] ∧ ∀ c ∈ cs, Text.isBlank c = false := by
  have hne := digits_ne_nil n.natAbs
  have hdigits : ∀ c ∈ digits n.natAbs, Text.isBlank c = false := by
    intro c hc
    exact isBlank_of_isDigit (isDigit_of_mem_digits hc)
  cases h with
  | minus | plus =>
    refine ⟨List.cons_ne_nil _ _, ?_⟩
    intro c hc
    obtain rfl | hc := List.mem_cons.mp hc
    · decide
    · exact hdigits c hc
  | plain => exact ⟨hne, hdigits⟩

end Spells

end FleetTrail.Number
