import FleetTrail.Time.Calendar
import Mathlib.Algebra.Order.BigOperators.Group.List
import Mathlib.Tactic.IntervalCases

/-!
# Days of the Gregorian calendar

Every date of the calendar has the day number that one gets by counting, day by day, from the first
of January 1970 (`counted_iff`), and is the date of that number (`ofDayNumber_dayNumber`).
-/

namespace FleetTrail.Time

/-- The last day of a month. April, June, September and November have thirty days. -/
def lastDay (year : Int) (month : Nat) : Nat :=
  if month = 2 then if 4 ∣ year ∧ (¬100 ∣ year ∨ 400 ∣ year) then 29 else 28
  else if month ∈ [4, 6, 9, 11] then 30 else 31

/-- Days from the first of January to the first of a month. -/
def daysBeforeMonth (year : Int) (month : Nat) : Nat :=
  ((monthLengths year).take (month - 1)).sum

section Months

variable (year : Int) {month : Nat}

theorem leapYear_iff :
    leapYear year = true ↔ 4 ∣ year ∧ (¬100 ∣ year ∨ 400 ∣ year) := by
  simp only [leapYear, Bool.and_eq_true, Bool.or_eq_true, beq_iff_eq, bne_iff_ne]
  omega

theorem getElem?_monthLengths (hpos : 1 ≤ month) (hle : month ≤ 12) :
    (monthLengths year)[month - 1]? = some (lastDay year month) := by
  have hfebruary : (if leapYear year then 29 else 28) = lastDay year 2 := by
    simp only [leapYear_iff]
    rfl
  rw [monthLengths, hfebruary]
  interval_cases month <;> rfl

theorem daysInMonth_eq (hpos : 1 ≤ month) (hle : month ≤ 12) :
    daysInMonth year month = lastDay year month := by
  obtain ⟨m, rfl⟩ := Nat.exists_eq_add_of_le' hpos
  have hlength := getElem?_monthLengths year hpos hle
  rw [Nat.add_sub_cancel] at hlength
  rw [daysInMonth, hlength, Option.getD_some]

theorem daysInMonth_beyond (h : 12 < month) : daysInMonth year month = 0 := by
  obtain ⟨m, rfl⟩ := Nat.exists_eq_add_of_le' (Nat.zero_lt_of_lt h)
  have hnone : (monthLengths year)[m]? = none := List.getElem?_eq_none (Nat.le_of_lt_succ h)
  rw [daysInMonth, hnone, Option.getD_none]

theorem daysBeforeMonth_succ (hpos : 1 ≤ month) (hle : month ≤ 12) :
    daysBeforeMonth year (month + 1) = daysBeforeMonth year month + lastDay year month := by
  have hnext : month + 1 - 1 = month - 1 + 1 := by omega
  rw [daysBeforeMonth, hnext, List.take_add_one, getElem?_monthLengths year hpos hle, List.sum_append]
  rfl

theorem daysBeforeMonth_le (hle : month ≤ 12) :
    daysBeforeMonth year (month + 1) ≤ daysBeforeMonth year 13 :=
  List.monotone_sum_take (monthLengths year) hle

theorem daysBeforeMonth_end :
    daysBeforeMonth year 13 = if leapYear year then 366 else 365 := by
  rw [daysBeforeMonth, monthLengths]
  cases leapYear year <;> rfl

theorem daysBeforeYear_succ :
    daysBeforeYear (year + 1) = daysBeforeYear year + daysBeforeMonth year 13 := by
  have hleap := leapYear_iff year
  rw [daysBeforeMonth_end, daysBeforeYear, daysBeforeYear]
  split
  next h =>
    have := hleap.mp h
    omega
  next h =>
    have := mt hleap.mpr h
    omega

end Months

namespace Date

structure Gregorian (d : Date) : Prop where
  month_pos : 1 ≤ d.month
  month_le : d.month ≤ 12
  day_pos : 1 ≤ d.day
  day_le : d.day ≤ lastDay d.year d.month

def next (d : Date) : Date :=
  if d.day < lastDay d.year d.month then ⟨d.year, d.month, d.day + 1⟩
  else if d.month < 12 then ⟨d.year, d.month + 1, 1⟩
  else ⟨d.year + 1, 1, 1⟩

def previous (d : Date) : Date :=
  if 1 < d.day then ⟨d.year, d.month, d.day - 1⟩
  else if 1 < d.month then ⟨d.year, d.month - 1, lastDay d.year (d.month - 1)⟩
  else ⟨d.year - 1, 12, 31⟩

/-- The number of a date by counting the days from the first of January 1970, on and back. -/
inductive Counted : Date → Int → Prop
  | epoch : Counted ⟨1970, 1, 1⟩ 0
  | later {d : Date} {n : Int} (h : Counted d n) : Counted d.next (n + 1)
  | earlier {d : Date} {n : Int} (h : Counted d n) : Counted d.previous (n - 1)

variable {d : Date}

theorem exists_iff_gregorian : d.exists = true ↔ d.Gregorian := by
  simp only [Date.exists, Bool.and_eq_true, decide_eq_true_eq]
  constructor
  · intro h
    obtain ⟨hday, hlast⟩ := h
    by_cases hpos : 1 ≤ d.month
    · by_cases hle : d.month ≤ 12
      · rw [daysInMonth_eq d.year hpos hle] at hlast
        exact ⟨hpos, hle, hday, hlast⟩
      · rw [daysInMonth_beyond d.year (Nat.lt_of_not_le hle)] at hlast
        omega
    · rw [Nat.eq_zero_of_not_pos hpos, daysInMonth] at hlast
      omega
  · intro h
    rw [daysInMonth_eq d.year h.month_pos h.month_le]
    exact ⟨h.day_pos, h.day_le⟩

theorem lastDay_pos (year : Int) (month : Nat) : 1 ≤ lastDay year month := by
  rw [lastDay]
  split
  · split <;> decide
  · split <;> decide

private theorem gregorian_first (year : Int) {month : Nat} (hpos : 1 ≤ month) (hle : month ≤ 12) :
    Gregorian ⟨year, month, 1⟩ :=
  ⟨hpos, hle, Nat.le_refl 1, lastDay_pos year month⟩

private theorem gregorian_last (year : Int) {month : Nat} (hpos : 1 ≤ month) (hle : month ≤ 12) :
    Gregorian ⟨year, month, lastDay year month⟩ :=
  ⟨hpos, hle, lastDay_pos year month, Nat.le_refl _⟩

theorem Gregorian.next (h : d.Gregorian) : d.next.Gregorian := by
  rw [Date.next]
  split
  next hmore => exact ⟨h.month_pos, h.month_le, Nat.succ_pos _, hmore⟩
  next =>
    split
    next hmonth => exact gregorian_first d.year (Nat.succ_pos _) hmonth
    next => exact gregorian_first (d.year + 1) (by decide) (by decide)

theorem Gregorian.previous (h : d.Gregorian) : d.previous.Gregorian := by
  have hmonth := h.month_le
  rw [Date.previous]
  split
  next hmore =>
    exact ⟨h.month_pos, h.month_le, Nat.le_sub_one_of_lt hmore, Nat.le_trans (Nat.sub_le _ 1) h.day_le⟩
  next =>
    split
    next hmore => exact gregorian_last d.year (Nat.le_sub_one_of_lt hmore) (by omega)
    next => exact gregorian_last (d.year - 1) (by decide : 1 ≤ 12) (by decide)

theorem next_previous (h : d.Gregorian) : d.previous.next = d := by
  obtain ⟨hpos, hle, hday, hlast⟩ := h
  obtain ⟨year, month, day⟩ := d
  dsimp only at hpos hle hday hlast
  rw [Date.previous]
  dsimp only
  split
  next hmore =>
    have hbefore : day - 1 < lastDay year month := by omega
    rw [Date.next, if_pos hbefore, Nat.sub_add_cancel hday]
  next hfirst =>
    obtain rfl : day = 1 := by omega
    split
    next hmore =>
      have hbefore : month - 1 < 12 := by omega
      rw [Date.next, if_neg (Nat.lt_irrefl _), if_pos hbefore, Nat.sub_add_cancel hpos]
    next hjanuary =>
      obtain rfl : month = 1 := by omega
      have hdecember : ¬31 < lastDay (year - 1) 12 := Nat.lt_irrefl 31
      rw [Date.next, if_neg hdecember, if_neg (Nat.lt_irrefl _), Int.sub_add_cancel]

theorem dayNumber_eq (d : Date) : d.dayNumber =
    daysBeforeYear d.year + daysBeforeMonth d.year d.month + (d.day - 1) - epochDay := rfl

theorem dayNumber_next (h : d.Gregorian) : d.next.dayNumber = d.dayNumber + 1 := by
  obtain ⟨hpos, hle, hday, hlast⟩ := h
  have hmonth := daysBeforeMonth_succ d.year hpos hle
  rw [Date.next]
  split
  next =>
    simp only [dayNumber_eq]
    omega
  next hend =>
    split
    next =>
      simp only [dayNumber_eq, hmonth]
      omega
    next hlater =>
      have hdecember : d.month = 12 := by omega
      have hfirst : daysBeforeMonth (d.year + 1) 1 = 0 := rfl
      rw [hdecember] at hmonth hend hlast
      simp only [dayNumber_eq, daysBeforeYear_succ, hmonth, hfirst, hdecember]
      omega

theorem dayNumber_previous (h : d.Gregorian) : d.previous.dayNumber = d.dayNumber - 1 := by
  have hnext := dayNumber_next h.previous
  rw [next_previous h] at hnext
  omega

/-- The place of a year in the 400 years after which the calendar repeats itself. -/
private theorem year_place (year : Int) : ∃ (span : Int) (century four single : Nat),
    century ≤ 3 ∧ four ≤ 24 ∧ single ≤ 3 ∧
    year = 400 * span + (100 * century + 4 * four + single + 1 : Nat) ∧
    daysBeforeYear year =
      146097 * span + (36524 * century + 1461 * four + 365 * single : Nat) ∧
    (leapYear year = true → single = 3 ∧ (four < 24 ∨ century = 3)) := by
  let place := ((year - 1) % 400).toNat
  refine ⟨(year - 1) / 400, place / 100, place % 100 / 4, place % 4, ?_⟩
  simp only [leapYear_iff, daysBeforeYear]
  omega

theorem monthAndDay_eq {lengths : List Nat} {month k length rest : Nat}
    (hlength : lengths[k]? = some length) (hrest : rest < length) :
    monthAndDay month lengths ((lengths.take k).sum + rest) = (month + k, rest + 1) := by
  induction k generalizing lengths month with
  | zero =>
    cases lengths with
    | nil => cases hlength
    | cons first lengths =>
      cases hlength
      rw [List.take_zero, List.sum_nil, Nat.zero_add, monthAndDay, if_pos hrest]
      rfl
  | succ k ih =>
    cases lengths with
    | nil => cases hlength
    | cons first lengths =>
      have hbehind : first + (lengths.take k).sum + rest - first = (lengths.take k).sum + rest := by
        omega
      rw [List.take_succ_cons, List.sum_cons, monthAndDay, if_neg (by omega), hbehind,
        ih hlength, Nat.add_assoc, Nat.add_comm 1 k]

section Spans

variable {span : Int} {century four single inYear : Nat}

/-- The spans are cut off as they were put together. The last day of a leap year lies on the edge of
its span. -/
private theorem ofDayNumber_spans (hcentury : century ≤ 3) (hfour : four ≤ 24) (hsingle : single ≤ 3)
    (hinYear : inYear < 365 ∨ inYear = 365 ∧ single = 3 ∧ (four < 24 ∨ century = 3)) :
    ofDayNumber (146097 * span +
        (36524 * century + 1461 * four + 365 * single + inYear : Nat) - epochDay) =
      let year := 400 * span + (100 * century + 4 * four + single + 1 : Nat)
      let found := monthAndDay 1 (monthLengths year) inYear
      ⟨year, found.1, found.2⟩ := by
  let rest := 36524 * century + 1461 * four + 365 * single + inYear
  have hrest : rest < 146097 := by omega
  have hdays : 146097 * span + (rest : Int) - epochDay + epochDay = 146097 * span + rest := by omega
  have hspan : (146097 * span + (rest : Int)) / 146097 = span := by omega
  have hleft : ((146097 * span + (rest : Int)) % 146097).toNat = rest := by omega
  have hcenturies : min (rest / 36524) 3 = century := by omega
  have hfours : (rest - century * 36524) / 1461 = four := by omega
  have hsingles : min ((rest - century * 36524 - four * 1461) / 365) 3 = single := by omega
  have hlast : rest - century * 36524 - four * 1461 - single * 365 = inYear := by omega
  rw [ofDayNumber]
  simp only [rest, hdays, hspan, hleft, hcenturies, hfours, hsingles, hlast]

end Spans

/-- Counted from the first of January, a date stays within the length of its year. -/
theorem Gregorian.inYear_lt (h : d.Gregorian) :
    daysBeforeMonth d.year d.month + (d.day - 1) < if leapYear d.year then 366 else 365 := by
  have hmonth := daysBeforeMonth_succ d.year h.month_pos h.month_le
  have hday := h.day_pos
  have hlast := h.day_le
  calc daysBeforeMonth d.year d.month + (d.day - 1)
    _ < daysBeforeMonth d.year (d.month + 1) := by omega
    _ ≤ daysBeforeMonth d.year 13 := daysBeforeMonth_le d.year h.month_le
    _ = if leapYear d.year then 366 else 365 := daysBeforeMonth_end d.year

theorem ofDayNumber_dayNumber (h : d.Gregorian) : ofDayNumber d.dayNumber = d := by
  obtain ⟨span, century, four, single, hcentury, hfour, hsingle, hyear, hbefore, hleap⟩ :=
    year_place d.year
  obtain ⟨inYear, heq⟩ : ∃ inYear, inYear = daysBeforeMonth d.year d.month + (d.day - 1) :=
    ⟨_, rfl⟩
  have hinYear : inYear < 365 ∨ inYear = 365 ∧ single = 3 ∧ (four < 24 ∨ century = 3) := by
    have hlt := h.inYear_lt
    rw [← heq] at hlt
    split at hlt
    next hleapYear =>
      have hplace := hleap hleapYear
      clear hyear hbefore heq
      omega
    next => exact .inl hlt
  have hday := h.day_pos
  have hnumber : d.dayNumber = 146097 * span +
      (36524 * century + 1461 * four + 365 * single + inYear : Nat) - epochDay := by
    rw [dayNumber_eq, hbefore, heq]
    omega
  have hfound : monthAndDay 1 (monthLengths d.year) inYear = (1 + (d.month - 1), d.day - 1 + 1) := by
    have hlast := h.day_le
    rw [heq, daysBeforeMonth]
    exact monthAndDay_eq (getElem?_monthLengths d.year h.month_pos h.month_le) (by omega)
  rw [hnumber, ofDayNumber_spans hcentury hfour hsingle hinYear, ← hyear]
  simp only [hfound, Nat.sub_add_cancel hday, Nat.add_sub_cancel' h.month_pos]

theorem dayNumber_inj {e : Date} (hd : d.Gregorian) (he : e.Gregorian)
    (h : d.dayNumber = e.dayNumber) : d = e := by
  rw [← ofDayNumber_dayNumber hd, h, ofDayNumber_dayNumber he]

theorem ofDayNumber_near (h : d.Gregorian) {n : Int} (hlow : d.dayNumber - 1 ≤ n)
    (hhigh : n ≤ d.dayNumber + 1) :
    d.year - 1 ≤ (ofDayNumber n).year ∧ (ofDayNumber n).year ≤ d.year + 1 := by
  have hnear : n = d.previous.dayNumber ∨ n = d.dayNumber ∨ n = d.next.dayNumber := by
    rw [dayNumber_previous h, dayNumber_next h]
    omega
  obtain rfl | rfl | rfl := hnear
  · rw [ofDayNumber_dayNumber h.previous, Date.previous]
    split
    · dsimp only
      omega
    · split <;> dsimp only <;> omega
  · rw [ofDayNumber_dayNumber h]
    omega
  · rw [ofDayNumber_dayNumber h.next, Date.next]
    split
    · dsimp only
      omega
    · split <;> dsimp only <;> omega

theorem Counted.gregorian {n : Int} (h : Counted d n) : d.Gregorian ∧ d.dayNumber = n := by
  induction h with
  | epoch => exact ⟨⟨by decide, by decide, by decide, by decide⟩, by decide⟩
  | later _ ih => exact ⟨ih.1.next, ih.2 ▸ dayNumber_next ih.1⟩
  | earlier _ ih => exact ⟨ih.1.previous, ih.2 ▸ dayNumber_previous ih.1⟩

/-- Counting days gives every date of the calendar its day number, and no other. -/
theorem counted_iff {n : Int} : Counted d n ↔ d.Gregorian ∧ d.dayNumber = n := by
  constructor
  · exact Counted.gregorian
  · intro h
    obtain ⟨hd, hn⟩ := h
    induction n using Int.induction_on generalizing d with
    | zero =>
      have hepoch := Counted.epoch.gregorian
      rw [dayNumber_inj hd hepoch.1 (hn.trans hepoch.2.symm)]
      exact .epoch
    | succ n ih =>
      have hprevious := dayNumber_previous hd
      have hcounted := (ih hd.previous (by omega)).later
      rw [next_previous hd] at hcounted
      exact hcounted
    | pred n ih =>
      have hnext := dayNumber_next hd
      have hcounted := (ih hd.next (by omega)).earlier
      have hback : d.next.previous = d :=
        dayNumber_inj hd.next.previous hd (by rw [dayNumber_previous hd.next]; omega)
      rw [hback] at hcounted
      exact hcounted

theorem counted_ofDayNumber (n : Int) : (ofDayNumber n).Counted n := by
  have hcounted : ∃ d : Date, d.Counted n := by
    induction n with
    | zero => exact ⟨_, .epoch⟩
    | succ n ih =>
      obtain ⟨d, hd⟩ := ih
      exact ⟨_, hd.later⟩
    | pred n ih =>
      obtain ⟨d, hd⟩ := ih
      exact ⟨_, hd.earlier⟩
  obtain ⟨d, hd⟩ := hcounted
  obtain ⟨hgregorian, rfl⟩ := counted_iff.mp hd
  rwa [ofDayNumber_dayNumber hgregorian]

end Date

end FleetTrail.Time
