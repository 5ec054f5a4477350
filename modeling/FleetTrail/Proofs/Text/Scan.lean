import FleetTrail.Proofs.Number.RoundTrip
import FleetTrail.Text.Scan

/-!
# What scanners take

What each scanner takes off a text that begins with what it looks for, and that it fails on others.
A sequence of scanners is followed from one to the next by `Takes.run_bind` and `Fails.run_bind`.
-/

namespace FleetTrail

namespace Number

variable {width n : Nat}

theorem isDigit_of_mem_padded {c : Char} (h : c ∈ padded width n) : isDigit c = true := by
  obtain hzero | hdigit := List.mem_append.mp h
  · rw [List.eq_of_mem_replicate hzero]
    rfl
  · exact isDigit_of_mem_digits hdigit

theorem digitsValue_padded (width n : Nat) : digitsValue (padded width n) = n := by
  rw [padded, digitsValue_zeros_append, digitsValue_digits]

theorem exists_padded (width n : Nat) : ∃ d rest, padded width n = d :: rest ∧ isDigit d = true := by
  cases h : padded width n with
  | nil => exact absurd (List.append_eq_nil_iff.mp h).2 (digits_ne_nil n)
  | cons d rest => exact ⟨d, rest, rfl, isDigit_of_mem_padded (h ▸ List.mem_cons_self)⟩

theorem length_padded (hwidth : 0 < width) (hn : n < 10 ^ width) :
    (padded width n).length = width := by
  have hlength : (digits n).length ≤ width := Nat.toDigits_length 10 n width hwidth hn
  rw [padded, List.length_append, List.length_replicate]
  omega

end Number

namespace Text

open Number

variable {α β : Type} {scan : Scan α} {a : α} {cs rest : List Char}

namespace Scan

/-- The scanner takes `a` off the text and leaves `rest`. -/
def Takes (scan : Scan α) (cs : List Char) (a : α) (rest : List Char) : Prop :=
  StateT.run scan cs = some (a, rest)

def Fails (scan : Scan α) (cs : List Char) : Prop := StateT.run scan cs = none

theorem Takes.run_bind (h : Takes scan cs a rest) (next : α → Scan β) :
    StateT.run (scan >>= next) cs = StateT.run (next a) rest := by
  rw [StateT.run_bind, h]
  rfl

theorem Fails.run_bind (h : Fails scan cs) (next : α → Scan β) : Fails (scan >>= next) cs := by
  rw [Fails, StateT.run_bind, h]
  rfl

theorem Takes.whole (h : Takes scan cs a []) : scan.whole cs = some a := by
  rw [Scan.whole, h]

theorem Fails.whole (h : Fails scan cs) : scan.whole cs = none := by
  rw [Scan.whole, h]

theorem Takes.whole_left {c : Char} (h : Takes scan cs a (c :: rest)) : scan.whole cs = none := by
  rw [Scan.whole, h]

theorem takes_one {p : Char → Bool} {c : Char} (h : p c = true) (rest : List Char) :
    Takes (one p) (c :: rest) c rest := by
  change (if p c then some (c, rest) else none) = _
  rw [if_pos h]

theorem fails_one {p : Char → Bool} (h : ∀ c ∈ cs.head?, p c = false) : Fails (one p) cs := by
  cases cs with
  | nil => rfl
  | cons c rest =>
    change (if p c then some (c, rest) else none) = none
    rw [h c rfl]
    rfl

theorem takes_char (c : Char) (rest : List Char) : Takes (char c) (c :: rest) () rest := by
  have hone : Takes (one (· == c)) (c :: rest) c rest := takes_one (beq_self_eq_true c) rest
  exact hone.run_bind _

theorem fails_char {c : Char} (h : cs.head? ≠ some c) : Fails (char c) cs := by
  have hone : Fails (one (· == c)) cs := by
    apply fails_one
    intro d hd
    rw [beq_eq_false_iff_ne]
    rintro rfl
    exact h hd
  exact hone.run_bind _

theorem takes_peek (cs : List Char) : Takes peek cs cs.head? cs := rfl

theorem takes_blanks {before : List Char} (hbefore : before.all isBlank = true)
    (h : ∀ c ∈ cs.head?, isBlank c = false) : Takes blanks (before ++ cs) () cs := by
  have hstop : cs.dropWhile isBlank = cs := by
    cases cs with
    | nil => rfl
    | cons c rest => rw [List.dropWhile_cons, h c rfl]; rfl
  have hrun : (before ++ cs).dropWhile isBlank = cs := by
    rw [List.dropWhile_append_of_pos (List.all_eq_true.mp hbefore), hstop]
  change some ((), (before ++ cs).dropWhile isBlank) = _
  rw [hrun]

theorem takes_no_blanks (h : ∀ c ∈ cs.head?, isBlank c = false) : Takes blanks cs () cs :=
  takes_blanks (List.all_nil : [].all isBlank = true) h

theorem takes_number {least width n : Nat} (hwidth : 0 < width) (hleast : least ≤ width)
    (hn : n < 10 ^ width) (rest : List Char) :
    Takes (number least width) (padded width n ++ rest) n rest := by
  have hlength : (padded width n).length = width := length_padded hwidth hn
  have htake : (padded width n ++ rest).take width = padded width n := List.take_left' hlength
  have hdrop : (padded width n ++ rest).drop width = rest := List.drop_left' hlength
  have hdigits : (padded width n).takeWhile isDigit = padded width n :=
    List.takeWhile_eq_self_iff.mpr fun _ => isDigit_of_mem_padded
  change (let ds := ((padded width n ++ rest).take width).takeWhile isDigit
    if ds.length < least then none
    else some (digitsValue ds, (padded width n ++ rest).drop ds.length)) = _
  simp only [htake, hdigits, hlength, hdrop, digitsValue_padded, Nat.not_lt.mpr hleast, if_false]

theorem fails_number {least most : Nat} (hleast : 0 < least)
    (h : ∀ c ∈ cs.head?, isDigit c = false) : Fails (number least most) cs := by
  have hdigits : (cs.take most).takeWhile isDigit = [] := by
    cases cs with
    | nil => rw [List.take_nil, List.takeWhile_nil]
    | cons c rest =>
      cases most with
      | zero => rfl
      | succ most => rw [List.take_succ_cons, List.takeWhile_cons, h c rfl]; rfl
  change (let ds := (cs.take most).takeWhile isDigit
    if ds.length < least then none else some (digitsValue ds, cs.drop ds.length)) = _
  simp only [hdigits, List.length_nil, hleast, if_true]

end Scan

end Text

end FleetTrail
