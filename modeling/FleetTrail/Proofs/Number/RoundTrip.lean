import FleetTrail.Proofs.Number.Shortest

/-!
# Doubles read back

The text of a double is read as that double: its digits are those of a decimal that rounds to it,
and reading gives the double that a decimal rounds to.
-/

namespace FleetTrail.Number

theorem digitsValue_append (as bs : List Char) :
    digitsValue (as ++ bs) = bs.foldl (fun n c => n * 10 + (digit? c).getD 0) (digitsValue as) :=
  List.foldl_append

theorem digitsValue_zeros_append (n : Nat) (cs : List Char) :
    digitsValue (List.replicate n '0' ++ cs) = digitsValue cs := by
  rw [digitsValue_append]
  have : digitsValue (List.replicate n '0') = 0 := by
    induction n with
    | zero => rfl
    | succ n ih => exact ih
  rw [this]
  rfl

theorem digitsValue_append_zeros (cs : List Char) (n : Nat) :
    digitsValue (cs ++ List.replicate n '0') = digitsValue cs * 10 ^ n := by
  induction n with
  | zero => simp
  | succ n ih =>
    rw [List.replicate_succ', ← List.append_assoc, digitsValue_append, ih, pow_succ, ← mul_assoc]
    rfl

theorem all_isDigit_digits (n : Nat) : (digits n).all isDigit = true :=
  List.all_eq_true.mpr fun _ => isDigit_of_mem_digits

theorem all_isDigit_zeros (n : Nat) : (List.replicate n '0').all isDigit = true := by
  rw [List.all_replicate]
  split <;> rfl

theorem span_digits {whole : List Char} (rest : List Char) (h : whole.all isDigit = true)
    (hrest : rest.takeWhile isDigit = []) (hrest' : rest.dropWhile isDigit = rest) :
    (whole ++ rest).span isDigit = (whole, rest) := by
  have h := List.all_eq_true.mp h
  rw [List.span_eq_takeWhile_dropWhile, List.takeWhile_append_of_pos h,
    List.dropWhile_append_of_pos h, hrest, hrest', List.append_nil]

theorem toLower_of_isDigit {c : Char} (h : isDigit c = true) : c.toLower = c := by
  obtain ⟨-, hhigh⟩ := (isDigit_iff c).mp h
  have hhigh : c.val ≤ 57 := hhigh
  rw [Char.toLower, dif_neg]
  rintro ⟨hlow, -⟩
  exact absurd (UInt32.le_trans hlow hhigh) (by decide)

private theorem fold_ne {c n : Char} {cs name : List Char} (hc : isDigit c = true)
    (hname : isDigit n = false) : Text.fold (c :: cs) ≠ n :: name := by
  intro h
  have hhead : c.toLower = n := List.head_eq_of_cons_eq h
  rw [toLower_of_isDigit hc] at hhead
  rw [hhead, hname] at hc
  cases hc

private def afterPoint : List Char → List Char × List Char
  | '.' :: rest => rest.span isDigit
  | rest => ([], rest)

private theorem readMagnitude_cons {c : Char} {cs whole rest fraction : List Char}
    (hc : isDigit c = true) (hspan : (c :: cs).span isDigit = (whole, rest)) (hne : whole ≠ [])
    (hpoint : afterPoint rest = (fraction, [])) :
    readMagnitude (c :: cs) =
      some (nearest (digitsValue (whole ++ fraction)) (-fraction.length)) := by
  have hinf : Text.fold (c :: cs) ≠ "inf".toList := fold_ne hc rfl
  have hinfinity : Text.fold (c :: cs) ≠ "infinity".toList := fold_ne hc rfl
  have hnan : Text.fold (c :: cs) ≠ "nan".toList := fold_ne hc rfl
  rw [readMagnitude]
  simp only [hinf, hinfinity, hnan, or_self, if_false, hspan]
  change (if whole.isEmpty = true ∧ (afterPoint rest).1.isEmpty = true then none
    else (readExponent (afterPoint rest).2).map fun e =>
      nearest (digitsValue (whole ++ (afterPoint rest).1)) (e - (afterPoint rest).1.length)) = _
  rw [hpoint, if_neg (by simp [hne])]
  simp [readExponent]

theorem readMagnitude_whole {whole : List Char} (h : whole.all isDigit = true) (hne : whole ≠ []) :
    readMagnitude whole = some (nearest (digitsValue whole) 0) := by
  obtain ⟨c, cs, rfl⟩ := List.exists_cons_of_ne_nil hne
  have hc : isDigit c = true := List.all_eq_true.mp h c List.mem_cons_self
  have hspan := span_digits [] h rfl rfl
  rw [List.append_nil] at hspan
  rw [readMagnitude_cons hc hspan hne rfl, List.append_nil]
  rfl

theorem readMagnitude_point {whole fraction : List Char} (h : whole.all isDigit = true)
    (hne : whole ≠ []) (hfraction : fraction.all isDigit = true) :
    readMagnitude (whole ++ '.' :: fraction) =
      some (nearest (digitsValue (whole ++ fraction)) (-fraction.length)) := by
  obtain ⟨c, cs, rfl⟩ := List.exists_cons_of_ne_nil hne
  have hc : isDigit c = true := List.all_eq_true.mp h c List.mem_cons_self
  have hspan := span_digits ('.' :: fraction) h rfl rfl
  have hpoint := span_digits [] hfraction rfl rfl
  rw [List.append_nil] at hpoint
  exact readMagnitude_cons hc hspan hne hpoint

section Positional

variable {m : Nat} {e : Int} (hc : Canonical m e) {n k : Nat}

private theorem readMagnitude_zeros_behind (hn : 0 < n)
    (h : Rounds (n * 10 ^ (k : Int)) m e) :
    readMagnitude (digits n ++ List.replicate k '0') = some (hc.toFloat .positive) := by
  have hall : (digits n ++ List.replicate k '0').all isDigit = true := by
    rw [List.all_append, all_isDigit_digits, all_isDigit_zeros, Bool.and_self]
  rw [readMagnitude_whole hall (List.append_ne_nil_of_left_ne_nil (digits_ne_nil n) _),
    digitsValue_append_zeros, digitsValue_digits]
  congr 1
  refine nearest_eq hc (Nat.mul_pos hn (by positivity)) ?_
  rw [zpow_natCast] at h
  rw [zpow_zero, mul_one]
  push_cast
  exact h

private theorem readMagnitude_point_inside (hn : 0 < n) (hk : k < (digits n).length)
    (h : Rounds (n * 10 ^ (-k : Int)) m e) :
    readMagnitude ((digits n).take ((digits n).length - k) ++
      '.' :: (digits n).drop ((digits n).length - k)) = some (hc.toFloat .positive) := by
  have hdigits : ∀ c ∈ digits n, isDigit c = true := fun c => isDigit_of_mem_digits
  have hwhole : (digits n).take ((digits n).length - k) ≠ [] := by
    rw [ne_eq, List.take_eq_nil_iff, not_or]
    exact ⟨by omega, digits_ne_nil n⟩
  have hplaces : ((digits n).drop ((digits n).length - k)).length = k := by
    rw [List.length_drop]
    omega
  rw [readMagnitude_point (List.all_eq_true.mpr fun c hc => hdigits c (List.mem_of_mem_take hc))
    hwhole (List.all_eq_true.mpr fun c hc => hdigits c (List.mem_of_mem_drop hc)),
    List.take_append_drop, digitsValue_digits, hplaces, nearest_eq hc hn h]

private theorem readMagnitude_zeros_before (hn : 0 < n) (hk : (digits n).length ≤ k)
    (h : Rounds (n * 10 ^ (-k : Int)) m e) :
    readMagnitude ('0' :: '.' :: (List.replicate (k - (digits n).length) '0' ++ digits n)) =
      some (hc.toFloat .positive) := by
  have hall : (List.replicate (k - (digits n).length) '0' ++ digits n).all isDigit = true := by
    rw [List.all_append, all_isDigit_digits, all_isDigit_zeros, Bool.and_self]
  have hread := readMagnitude_point (show ['0'].all isDigit = true from rfl)
    (List.cons_ne_nil _ _) hall
  have hvalue := digitsValue_zeros_append (k - (digits n).length + 1) (digits n)
  have hplaces : (List.replicate (k - (digits n).length) '0' ++ digits n).length = k := by
    rw [List.length_append, List.length_replicate]
    omega
  rw [List.replicate_succ, List.cons_append, digitsValue_digits] at hvalue
  rw [List.singleton_append, List.singleton_append, hvalue, hplaces] at hread
  rw [hread, nearest_eq hc hn h]

/-- The positional text of a decimal is read as the double that its value rounds to. -/
theorem readMagnitude_positional {d : Decimal} (hd : 0 < d.digits) (h : Rounds d.value m e) :
    readMagnitude (positional d) = some (hc.toFloat .positive) := by
  rw [Decimal.value] at h
  rw [positional]
  dsimp only
  split
  · rename_i hexponent
    refine readMagnitude_zeros_behind hc hd ?_
    rwa [Int.toNat_of_nonneg hexponent]
  rename_i hexponent
  have hplaces : -(d.exponent.natAbs : Int) = d.exponent := by omega
  rw [← hplaces] at h
  split
  · rename_i hlt
    exact readMagnitude_point_inside hc hd hlt h
  · rename_i hge
    exact readMagnitude_zeros_before hc hd (not_lt.mp hge) h

end Positional

theorem eq_of_parts {x y : Float} (h : parts x = parts y) : x = y :=
  eq_of_unpack (by rw [unpack_eq, unpack_eq, h])

theorem eq_toFloat {x : Float} {negative : Bool} {m : Nat} {e : Int}
    (h : parts x = .finite negative m e) (hm : m ≠ 0) :
    x = (Canonical.of_parts h hm).toFloat (signOf negative) := by
  apply eq_of_unpack
  rw [unpack_eq, h, Parts.unpacked, dif_neg hm]
  exact ((Canonical.of_parts h hm).unpack_pack _).symm

theorem neg_toFloat {m : Nat} {e : Int} (hc : Canonical m e) :
    -hc.toFloat .positive = hc.toFloat .negative := by
  change (⟨Float.Model.pack (hc.toFloat .positive).toModel.unpack.neg⟩ : Float) = _
  rw [Canonical.toFloat, hc.unpack_pack]
  rfl

theorem mem_positional {d : Decimal} {c : Char} (h : c ∈ positional d) :
    isDigit c = true ∨ c = '.' := by
  have hzero : isDigit '0' = true := rfl
  rw [positional] at h
  dsimp only at h
  split at h
  · rcases List.mem_append.mp h with h | h
    · exact .inl (isDigit_of_mem_digits h)
    · exact .inl (List.eq_of_mem_replicate h ▸ hzero)
  split at h
  · rcases List.mem_append.mp h with h | h
    · exact .inl (isDigit_of_mem_digits (List.mem_of_mem_take h))
    · rcases List.mem_cons.mp h with h | h
      · exact .inr h
      · exact .inl (isDigit_of_mem_digits (List.mem_of_mem_drop h))
  · simp only [List.cons_append, List.mem_cons, List.mem_append] at h
    rcases h with rfl | h | h | h
    · exact .inl hzero
    · exact .inr h
    · exact .inl (List.eq_of_mem_replicate h ▸ hzero)
    · exact .inl (isDigit_of_mem_digits h)

theorem readFloat_signed {cs : List Char} {x : Float} (hread : readMagnitude cs = some x)
    (hcs : ∀ c ∈ cs, c ≠ '-' ∧ c ≠ '+') (negative : Bool) :
    readFloat (signed negative cs).toList = some (if negative then -x else x) := by
  rw [signed, String.toList_ofList]
  cases negative
  · rw [if_neg (by decide), if_neg (by decide), readFloat]
    · exact hread
    · rintro rest rfl
      exact (hcs '-' List.mem_cons_self).1 rfl
    · rintro rest rfl
      exact (hcs '+' List.mem_cons_self).2 rfl
  · rw [if_pos rfl, if_pos rfl, readFloat, hread, Option.map_some]

/-- A double is read back from its text. -/
theorem readFloat_floatText (x : Float) : readFloat (floatText x).toList = some x := by
  rw [floatText]
  rcases hparts : parts x with _ | negative | ⟨negative, m, e⟩
  · have hx : x = 0.0 / 0.0 := eq_of_parts (hparts.trans (by decide +kernel))
    rw [hx]
    rfl
  · have hread : readMagnitude ['i', 'n', 'f'] = some (1.0 / 0.0) := rfl
    dsimp only
    rw [readFloat_signed hread (by simp)]
    congr 1
    refine eq_of_parts (Eq.trans ?_ hparts.symm)
    cases negative <;> decide +kernel
  · dsimp only
    split
    · rename_i hm
      have hread : readMagnitude ['0'] = some 0.0 := rfl
      rw [readFloat_signed hread (by simp)]
      congr 1
      apply eq_of_unpack
      rw [unpack_eq, unpack_eq, hparts, Parts.unpacked, dif_pos hm]
      cases negative <;> rfl
    · rename_i hm
      have hc := Canonical.of_parts hparts hm
      have hread :=
        readMagnitude_positional hc (shortest_digits_pos hc .up) (rounds_shortest hc .up)
      rw [readFloat_signed hread, eq_toFloat hparts hm]
      · cases negative
        · rfl
        · rw [if_pos rfl, neg_toFloat]
          rfl
      · intro c hmem
        constructor <;> rintro rfl
        all_goals
          rcases mem_positional hmem with h | h
          · cases h
          · cases h

end FleetTrail.Number
