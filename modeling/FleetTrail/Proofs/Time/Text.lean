import FleetTrail.Proofs.Time.Calendar
import FleetTrail.Time.Instant

/-!
# Instants as text

The text of an instant is its date and its time of the day in UTC, with as many digits of the
fraction as it takes (`writtenAs_iff`).
-/

namespace FleetTrail.Time

open Number

/-- A year has four digits. Any other one has a sign, and at least four. -/
inductive YearText : Int → List Char → Prop
  | plain {n : Nat} (h : n < 10000) : YearText n (padded 4 n)
  | late {n : Nat} (h : 10000 ≤ n) : YearText n ('+' :: padded 4 n)
  | early {n : Nat} (h : 0 < n) : YearText (-n) ('-' :: padded 4 n)

/-- A fraction in nanoseconds has no digits, or 3, 6 or 9, the fewest that say all of it. -/
inductive FractionText : Nat → List Char → Prop
  | none : FractionText 0 []
  | millis {n : Nat} (h : 0 < n) : FractionText (n * 1000000) ('.' :: padded 3 n)
  | micros {n : Nat} (h : ¬1000 ∣ n) : FractionText (n * 1000) ('.' :: padded 6 n)
  | nanos {n : Nat} (h : ¬1000 ∣ n) : FractionText n ('.' :: padded 9 n)

/-- The text says the day, counted from the first of January 1970, and the time of the day. Within
a leap second the seconds go on to 60. -/
inductive Instant.WrittenAs (t : Instant) : String → Prop
  | utc {date : Date} {day : Int} {hour minute second : Nat} {year fraction : List Char}
      (counted : date.Counted day) (hour_lt : hour < 24) (minute_lt : minute < 60)
      (second_lt : second < 60)
      (seconds : t.seconds = day * 86400 + (hour * 3600 + minute * 60 + second : Nat))
      (year_text : YearText date.year year)
      (fraction_text : FractionText (t.nanos % 1000000000) fraction) :
      t.WrittenAs (String.ofList (year ++ '-' :: padded 2 date.month ++ '-' :: padded 2 date.day ++
        'T' :: padded 2 hour ++ ':' :: padded 2 minute ++
        ':' :: padded 2 (second + t.nanos / 1000000000) ++ fraction ++ ['Z']))

theorem yearText_iff {year : Int} {cs : List Char} : YearText year cs ↔ cs = yearText year := by
  constructor
  · intro h
    rw [yearText]
    cases h with
    | plain h => rw [if_pos (by omega), Int.natAbs_natCast]
    | late h => rw [if_neg (by omega), if_neg (by omega), Int.natAbs_natCast]
    | early h => rw [if_neg (by omega), if_pos (by omega), Int.natAbs_neg, Int.natAbs_natCast]
  · rintro rfl
    rw [yearText]
    obtain ⟨n, rfl | rfl⟩ := year.eq_nat_or_neg
    · rw [Int.natAbs_natCast]
      by_cases hfour : n < 10000
      · rw [if_pos (by omega)]
        exact .plain hfour
      · rw [if_neg (by omega), if_neg (by omega)]
        exact .late (by omega)
    · rw [Int.natAbs_neg, Int.natAbs_natCast]
      by_cases hzero : n = 0
      · subst hzero
        rw [if_pos (by decide)]
        exact .plain (n := 0) (by decide)
      · rw [if_neg (by omega), if_pos (by omega)]
        exact .early (by omega)

theorem fractionText_iff {nanos : Nat} {cs : List Char} :
    FractionText nanos cs ↔ cs = fractionText nanos := by
  constructor
  · intro h
    rw [fractionText]
    cases h with
    | none => rfl
    | @millis n h =>
      rw [if_neg (by omega), if_pos (Nat.mul_mod_left n 1000000), Nat.mul_div_cancel n (by decide)]
    | @micros n h =>
      rw [if_neg (by omega), if_neg (by omega), if_pos (Nat.mul_mod_left n 1000),
        Nat.mul_div_cancel n (by decide)]
    | nanos h => rw [if_neg (by omega), if_neg (by omega), if_neg (by omega)]
  · rintro rfl
    rw [fractionText]
    split
    next h =>
      subst h
      exact .none
    next hpos =>
      split
      next h =>
        have hmillis := FractionText.millis (n := nanos / 1000000) (by omega)
        rwa [Nat.div_mul_cancel (Nat.dvd_of_mod_eq_zero h)] at hmillis
      next hmillis =>
        split
        next h =>
          have hmicros := FractionText.micros (n := nanos / 1000) (by omega)
          rwa [Nat.div_mul_cancel (Nat.dvd_of_mod_eq_zero h)] at hmicros
        next h => exact .nanos (mt Nat.mod_eq_zero_of_dvd h)

theorem Instant.writtenAs_iff {t : Instant} {text : String} : t.WrittenAs text ↔ text = t.text := by
  constructor
  · intro h
    cases h with
    | @utc date day hour minute second year fraction counted hhour hminute hsecond seconds yt ft =>
      obtain ⟨hgregorian, hday⟩ := Date.counted_iff.mp counted
      have hdate : Date.ofDayNumber (t.seconds / 86400) = date := by
        have hquotient : t.seconds / 86400 = day := by omega
        rw [hquotient, ← hday, Date.ofDayNumber_dayNumber hgregorian]
      have htime : (t.seconds % 86400).toNat = hour * 3600 + minute * 60 + second := by omega
      have hhours : (hour * 3600 + minute * 60 + second) / 3600 = hour := by omega
      have hminutes : (hour * 3600 + minute * 60 + second) / 60 % 60 = minute := by omega
      have hseconds : (hour * 3600 + minute * 60 + second) % 60 = second := by omega
      rw [yearText_iff.mp yt, fractionText_iff.mp ft, text]
      simp only [hdate, htime, hhours, hminutes, hseconds]
  · rintro rfl
    rw [text]
    refine .utc (Date.counted_ofDayNumber (t.seconds / 86400)) ?_ ?_ ?_ ?_ (yearText_iff.mpr rfl)
      (fractionText_iff.mpr rfl)
    all_goals omega

end FleetTrail.Time
