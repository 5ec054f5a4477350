import FleetTrail.Text.Utf8

/-!
# Bytes that are text

The characters found in bytes use them up exactly when the bytes are the encoding of those
characters.
-/

namespace FleetTrail.Text

/-- Taking the characters off one by one follows the decoder of the library. -/
private theorem utf8CharsFrom_eq_iff {bytes : ByteArray} {done cs : List Char} {i : Nat}
    (hi : i ≤ bytes.size) : utf8CharsFrom bytes done i = (cs, true) ↔
      ByteArray.utf8Decode?.go bytes i done.reverse.toArray hi = some cs.toArray := by
  fun_induction utf8CharsFrom bytes done i with
  | case1 done i hsize c hc hpos ih =>
    rw [ByteArray.utf8Decode?.go, if_pos hsize]
    have hnext := ByteArray.le_size_of_utf8DecodeChar?_eq_some hc
    rw [ih hnext]
    split
    next hnone => simp [hc] at hnone
    next d hd =>
      rw [hc] at hd
      cases hd
      simp
  | case2 done i hsize hnone =>
    rw [ByteArray.utf8Decode?.go, if_pos hsize]
    split
    next => simp
    next d hd => simp [hnone] at hd
  | case3 done i hsize =>
    rw [ByteArray.utf8Decode?.go, if_neg hsize]
    simp

theorem utf8Chars_eq_iff {bytes : ByteArray} {cs : List Char} :
    utf8Chars bytes = (cs, true) ↔ bytes = cs.utf8Encode := by
  have hdecoded : utf8Chars bytes = (cs, true) ↔ bytes.utf8Decode? = some cs.toArray :=
    utf8CharsFrom_eq_iff (Nat.zero_le _)
  rw [hdecoded]
  constructor
  · intro h
    have hsome : bytes.utf8Decode?.isSome := by rw [h]; rfl
    have hback := ByteArray.utf8Encode_get_utf8Decode? (h := hsome)
    simpa [h] using hback.symm
  · intro h
    rw [h, List.utf8Decode?_utf8Encode]

end FleetTrail.Text
