import FleetTrail.Proofs.Text.Scan
import FleetTrail.Proofs.Time.Calendar
import FleetTrail.Time.Device

/-!
# Times as devices write them

A stamp is a date and a time of day of full width, whether they exist or not. Devices write it with a
blank or a `T` in the middle, and behind the `T` with an offset from UTC or without one. Each of
these texts is read as the clock of the stamp, ahead of UTC by the offset (`ofDevice?_text`), and
whether the stamp exists decides whether there is an instant.
-/

namespace FleetTrail.Time

open Number Text Text.Scan

/-- Four digits for the year and two for every other field. -/
structure Stamp where
  year : Fin 10000
  month : Fin 100
  day : Fin 100
  hour : Fin 100
  minute : Fin 100
  second : Fin 100
  deriving DecidableEq, Repr

namespace Stamp

def date (s : Stamp) : Date := ⟨(s.year : Nat), s.month, s.day⟩

def clock (s : Stamp) : Clock := ⟨s.date, s.hour, s.minute, s.second, 0⟩

def dateChars (s : Stamp) : List Char :=
  padded 4 s.year ++ '-' :: (padded 2 s.month ++ '-' :: padded 2 s.day)

def timeChars (s : Stamp) : List Char :=
  padded 2 s.hour ++ ':' :: (padded 2 s.minute ++ ':' :: padded 2 s.second)

end Stamp

/-- The forms in which devices write a stamp. -/
inductive Form where
  /-- As in `2025-11-29 06:15:15`. -/
  | blank
  /-- As in `2025-11-29T06:15:15`. -/
  | bare
  /-- As in `2025-11-29T06:15:15Z`. -/
  | zulu
  /-- As in `2025-11-29T06:15:15+05:30`, where hours and minutes east of Greenwich are added. -/
  | offset (west : Bool) (hours : Fin 24) (minutes : Fin 60)
  deriving DecidableEq, Repr

namespace Form

def mark : Form → Char
  | blank => ' '
  | bare | zulu | offset .. => 'T'

def zone : Form → List Char
  | blank | bare => []
  | zulu => ['Z']
  | offset west hours minutes =>
    (if west then '-' else '+') :: (padded 2 hours ++ ':' :: padded 2 minutes)

def ahead : Form → Int
  | blank | bare | zulu => 0
  | offset west hours minutes =>
    let seconds : Int := (hours * 3600 + minutes * 60 : Nat)
    if west then -seconds else seconds

end Form

def Stamp.chars (s : Stamp) (f : Form) : List Char :=
  s.dateChars ++ f.mark :: (s.timeChars ++ f.zone)

def Stamp.text (s : Stamp) (f : Form) : String := String.ofList (s.chars f)

section Digits

variable (width n : Nat) (rest : List Char)

private theorem digit_padded : ∃ d later, padded width n ++ rest = d :: later ∧ isDigit d = true := by
  obtain ⟨d, later, hpadded, hd⟩ := exists_padded width n
  exact ⟨d, later ++ rest, by rw [hpadded, List.cons_append], hd⟩

private theorem not_blank_padded : ∀ c ∈ (padded width n ++ rest).head?, isBlank c = false := by
  obtain ⟨d, later, hpadded, hd⟩ := digit_padded width n rest
  rw [hpadded]
  intro c hc
  cases hc
  exact isBlank_of_isDigit hd

theorem takes_pair (n : Fin 100) : Takes (Scan.number 2 2) (padded 2 n ++ rest) n rest :=
  takes_number (by decide) (by decide) n.isLt rest

theorem takes_loose (n : Fin 100) : Takes looseNumber (padded 2 n ++ rest) n rest := by
  have hblanks := takes_no_blanks (not_blank_padded 2 n rest)
  rw [Takes, looseNumber, hblanks.run_bind]
  exact takes_number (by decide) (by decide) n.isLt rest

theorem fails_loose {cs : List Char} (h : ∀ c ∈ cs.head?, isBlank c = false ∧ isDigit c = false) :
    Fails looseNumber cs := by
  have hblanks : Takes blanks cs () cs := takes_no_blanks fun c hc => (h c hc).1
  rw [Fails, looseNumber, hblanks.run_bind]
  exact fails_number (by decide) fun c hc => (h c hc).2

theorem takes_year (n : Fin 10000) : Takes (Scan.number 4 4) (padded 4 n ++ rest) n rest :=
  takes_number (by decide) (by decide) n.isLt rest

theorem takes_signedYear (n : Fin 10000) :
    Takes signedYear (padded 4 n ++ rest) ((n : Nat) : Int) rest := by
  have hnumber : Takes (Scan.number 1 4) (padded 4 n ++ rest) n rest :=
    takes_number (by decide) (by decide) n.isLt rest
  obtain ⟨d, later, hpadded, hd⟩ := digit_padded 4 n rest
  rw [hpadded] at hnumber ⊢
  rw [Takes, signedYear, (takes_peek (d :: later)).run_bind, List.head?_cons]
  split
  next h =>
    cases h
    cases hd
  next h =>
    cases h
    cases hd
  next =>
    rw [hnumber.run_bind]
    rfl

end Digits

section Strict

variable {s : Stamp} {rest : List Char}

theorem takes_no_fraction (h : rest.head? ≠ some '.') : Takes fraction rest 0 rest := by
  rw [Takes, fraction, (takes_peek rest).run_bind, if_neg (by simpa using h)]
  rfl

theorem takes_dateMark {mark : Char} (h : mark = 'T' ∨ mark = ' ') :
    Takes dateMark (mark :: rest) () rest := by
  have hone : Takes (Scan.one fun c => c == 'T' || c == 't' || c == ' ') (mark :: rest) mark rest :=
    takes_one (by obtain rfl | rfl := h <;> rfl) rest
  exact hone.run_bind _

theorem takes_utc : Takes (offset (Scan.char ':')) ('Z' :: rest) 0 rest := by
  rw [Takes, offset, (takes_peek _).run_bind]
  exact (takes_one rfl rest).run_bind _

theorem fails_no_offset : Fails (offset (Scan.char ':')) [] := rfl

private theorem takes_sign (west : Bool) :
    Takes offsetSign ((if west then '-' else '+') :: rest) west rest := by
  cases west with
  | false => exact (takes_one rfl rest).run_bind _
  | true => exact (takes_one rfl rest).run_bind _

theorem takes_offset (west : Bool) (hours : Fin 24) (minutes : Fin 60) :
    Takes (offset (Scan.char ':')) (Form.offset west hours minutes).zone
      (Form.offset west hours minutes).ahead [] := by
  have hhours : Takes (Scan.number 2 2) (padded 2 hours ++ ':' :: padded 2 minutes) hours
      (':' :: padded 2 minutes) :=
    takes_number (by decide) (by decide) (by omega) _
  have hminutes : Takes (Scan.number 2 2) (padded 2 minutes) minutes [] := by
    rw [← List.append_nil (padded 2 minutes)]
    exact takes_number (by decide) (by decide) (by omega) []
  have hbounds : ¬(24 ≤ (hours : Nat) ∨ 60 ≤ (minutes : Nat)) := by omega
  have hsigned : Takes (signedOffset (Scan.char ':')) (Form.offset west hours minutes).zone
      (Form.offset west hours minutes).ahead [] := by
    rw [Takes, signedOffset, Form.zone, (takes_sign west).run_bind, hhours.run_bind,
      (takes_char _ _).run_bind, hminutes.run_bind, if_neg hbounds]
    rfl
  rw [Takes, offset, (takes_peek _).run_bind]
  cases west with
  | false => exact hsigned
  | true => exact hsigned

/-- Behind date and time, only the offset is left to be read. -/
theorem strictClock_run {mark : Char} (hmark : mark = 'T' ∨ mark = ' ')
    (hrest : rest.head? ≠ some '.') :
    StateT.run strictClock (s.dateChars ++ mark :: (s.timeChars ++ rest)) =
      StateT.run (do return (s.clock, ← offset (Scan.char ':'))) rest := by
  simp only [strictClock, Stamp.dateChars, Stamp.timeChars, List.append_assoc, List.cons_append]
  rw [(takes_year _ _).run_bind, (takes_char _ _).run_bind, (takes_pair _ _).run_bind,
    (takes_char _ _).run_bind, (takes_pair _ _).run_bind, (takes_dateMark hmark).run_bind,
    (takes_pair _ _).run_bind, (takes_char _ _).run_bind, (takes_pair _ _).run_bind,
    (takes_char _ _).run_bind, (takes_pair _ _).run_bind, (takes_no_fraction hrest).run_bind]
  rfl

end Strict

section Bare

variable {mark : Scan Unit} {s : Stamp} {cs behind rest : List Char}

def bareTime (date : Date) : Scan Clock := do
  let hour ← looseNumber
  Scan.char ':'
  let minute ← looseNumber
  Scan.char ':'
  let second ← looseNumber
  return ⟨date, hour, minute, second, 0⟩

theorem bareClock_run : StateT.run (bareClock mark) (s.dateChars ++ cs) =
    StateT.run (mark >>= fun _ => bareTime s.date) cs := by
  have hstart : Takes blanks (s.dateChars ++ cs) () (s.dateChars ++ cs) := by
    apply takes_no_blanks
    rw [Stamp.dateChars, List.append_assoc]
    exact not_blank_padded 4 s.year _
  rw [bareClock, hstart.run_bind]
  simp only [Stamp.dateChars, List.append_assoc, List.cons_append]
  rw [(takes_signedYear _ _).run_bind, (takes_char _ _).run_bind, (takes_loose _ _).run_bind,
    (takes_char _ _).run_bind, (takes_loose _ _).run_bind]
  rfl

theorem takes_bareTime : Takes (bareTime s.date) (s.timeChars ++ rest) s.clock rest := by
  rw [Takes, bareTime]
  simp only [Stamp.timeChars, List.append_assoc, List.cons_append]
  rw [(takes_loose _ _).run_bind, (takes_char _ _).run_bind, (takes_loose _ _).run_bind,
    (takes_char _ _).run_bind, (takes_loose _ _).run_bind]
  rfl

theorem takes_bareClock (h : Takes mark cs () (s.timeChars ++ rest)) :
    Takes (bareClock mark) (s.dateChars ++ cs) s.clock rest := by
  rw [Takes, bareClock_run, h.run_bind]
  exact takes_bareTime

theorem fails_bareClock_mark (h : Fails mark cs) : Fails (bareClock mark) (s.dateChars ++ cs) := by
  rw [Fails, bareClock_run]
  exact h.run_bind _

theorem fails_bareClock_hour (h : Takes mark cs () behind)
    (hbehind : ∀ c ∈ behind.head?, isBlank c = false ∧ isDigit c = false) :
    Fails (bareClock mark) (s.dateChars ++ cs) := by
  rw [Fails, bareClock_run, h.run_bind]
  exact (fails_loose hbehind).run_bind _

end Bare

namespace Stamp

variable (s : Stamp)

private theorem takes_blank_mark (rest : List Char) :
    Takes Scan.blanks (' ' :: (s.timeChars ++ rest)) () (s.timeChars ++ rest) := by
  have hhour : ∀ c ∈ (s.timeChars ++ rest).head?, isBlank c = false := by
    rw [timeChars, List.append_assoc]
    exact not_blank_padded 2 s.hour _
  exact takes_blanks (by rfl : [' '].all isBlank = true) hhour

theorem ofStrict?_chars (f : Form) : Instant.ofStrict? (s.chars f) =
    if f.zone = [] then none else s.clock.instant? f.ahead := by
  have hmark : f.mark = 'T' ∨ f.mark = ' ' := by
    cases f with
    | blank => exact .inr rfl
    | bare | zulu | offset => exact .inl rfl
  have hpoint : f.zone.head? ≠ some '.' := by
    cases f with
    | blank | bare | zulu => decide
    | offset west hours minutes => cases west <;> exact fun h => nomatch h
  have hrun := strictClock_run (s := s) hmark hpoint
  cases f with
  | blank | bare =>
    have hfails : Fails strictClock (s.chars _) := hrun.trans (fails_no_offset.run_bind _)
    rw [Instant.ofStrict?, hfails.whole]
    rfl
  | zulu =>
    have htakes : Takes strictClock (s.chars .zulu) (s.clock, 0) [] :=
      hrun.trans (takes_utc.run_bind _)
    rw [Instant.ofStrict?, htakes.whole]
    rfl
  | offset west hours minutes =>
    have htakes : Takes strictClock (s.chars (.offset west hours minutes))
        (s.clock, (Form.offset west hours minutes).ahead) [] :=
      hrun.trans ((takes_offset west hours minutes).run_bind _)
    rw [Instant.ofStrict?, htakes.whole]
    rfl

theorem ofBare?_blanks_chars (f : Form) : ofBare? Scan.blanks (s.chars f) =
    if f = .blank then s.clock.instant? 0 else none := by
  have hother (rest : List Char) :
      Fails (bareClock Scan.blanks) (s.dateChars ++ 'T' :: rest) := by
    have hletter : ∀ c ∈ ('T' :: rest).head?, isBlank c = false ∧ isDigit c = false := by
      intro c hc
      cases hc
      exact ⟨by decide, by decide⟩
    exact fails_bareClock_hour (takes_no_blanks fun c hc => (hletter c hc).1) hletter
  cases f with
  | blank =>
    have htakes : Takes (bareClock Scan.blanks) (s.chars .blank) s.clock [] :=
      takes_bareClock (s.takes_blank_mark [])
    rw [ofBare?, htakes.whole]
    rfl
  | bare | zulu | offset =>
    rw [ofBare?, chars, Form.mark, (hother _).whole]
    rfl

theorem ofBare?_mark_chars (f : Form) : ofBare? (Scan.char 'T') (s.chars f) =
    if f = .bare then s.clock.instant? 0 else none := by
  have htakes (rest : List Char) :
      Takes (bareClock (Scan.char 'T')) (s.dateChars ++ 'T' :: (s.timeChars ++ rest)) s.clock rest :=
    takes_bareClock (takes_char 'T' _)
  cases f with
  | blank =>
    have hfails : Fails (bareClock (Scan.char 'T')) (s.chars .blank) :=
      fails_bareClock_mark (fails_char fun h => absurd (Option.some.inj h) (by decide))
    rw [ofBare?, hfails.whole]
    rfl
  | bare =>
    rw [ofBare?, chars, Form.mark, Form.zone, (htakes []).whole]
    rfl
  | zulu | offset =>
    rw [ofBare?, chars, Form.mark, Form.zone, (htakes _).whole_left]
    rfl

end Stamp

/-- Every form is read by one of the three readings, as the clock of the stamp. -/
theorem Instant.ofDevice?_text (s : Stamp) (f : Form) :
    Instant.ofDevice? (s.text f).toList = s.clock.instant? f.ahead := by
  have htext : (s.text f).toList = s.chars f := String.toList_ofList
  rw [htext, Instant.ofDevice?, s.ofStrict?_chars, s.ofBare?_blanks_chars, s.ofBare?_mark_chars]
  cases f <;> simp [Form.zone, Form.ahead]

private theorem yearInRange_of {year : Int} (hlow : -1 ≤ year) (hhigh : year ≤ 10000) :
    yearInRange year = true := by
  rw [yearInRange, Bool.and_eq_true, decide_eq_true_eq, decide_eq_true_eq]
  omega

namespace Stamp

/-- The stamp of a day of the calendar and of a time of that day. -/
structure Possible (s : Stamp) : Prop where
  date : s.date.Gregorian
  hour : (s.hour : Nat) < 24
  minute : (s.minute : Nat) < 60
  second : (s.second : Nat) < 60

/-- The stamp of no day, or of no time of the day. A second 60 may be a leap second. -/
def Impossible (s : Stamp) : Prop :=
  ¬s.date.Gregorian ∨ 24 ≤ (s.hour : Nat) ∨ 60 ≤ (s.minute : Nat) ∨ 60 < (s.second : Nat)

def timeOfDay (s : Stamp) : Nat := s.hour * 3600 + s.minute * 60 + s.second

variable {s : Stamp}

theorem clock_exists_iff : s.clock.exists = true ↔ s.date.Gregorian ∧ (s.hour : Nat) < 24 ∧
    (s.minute : Nat) < 60 ∧ (s.second : Nat) ≤ 60 := by
  have hyear : s.clock.date.year = (s.year : Nat) := rfl
  have hrange : yearInRange s.clock.date.year = true := yearInRange_of (by omega) (by omega)
  simp only [Clock.exists, hrange, Bool.and_eq_true, decide_eq_true_eq, true_and, and_assoc,
    Date.exists_iff_gregorian]
  rfl

theorem Impossible.instant?_eq_none (h : s.Impossible) (offset : Int) :
    s.clock.instant? offset = none := by
  have hclock : ¬s.clock.exists = true := by
    rw [clock_exists_iff]
    intro hexists
    obtain ⟨hdate, hhour, hminute, hsecond⟩ := hexists
    obtain hnone | hlate | hlate | hlate := h
    · exact hnone hdate
    all_goals omega
  rw [Clock.instant?, Bool.eq_false_of_not_eq_true hclock]
  rfl

/-- The instant lies on the day of the stamp or on a day beside it. -/
theorem Possible.instant?_eq (h : s.Possible) {offset : Int} (hlow : -86400 < offset)
    (hhigh : offset < 86400) :
    s.clock.instant? offset = some ⟨s.date.dayNumber * 86400 + s.timeOfDay - offset, 0⟩ := by
  have hhour := h.hour
  have hminute := h.minute
  have hsecond := h.second
  have hexists : s.clock.exists = true :=
    clock_exists_iff.mpr ⟨h.date, hhour, hminute, Nat.le_of_lt hsecond⟩
  have hleap : (s.clock.second == 60) = false := beq_false_of_ne (Nat.ne_of_lt hsecond)
  have htime : s.timeOfDay < 86400 := by
    rw [timeOfDay]
    omega
  have hclock : s.clock.hour * 3600 + s.clock.minute * 60 + s.clock.second = s.timeOfDay := rfl
  let seconds := s.date.dayNumber * 86400 + (s.timeOfDay : Int) - offset
  have hyear : s.date.year = (s.year : Nat) := rfl
  have hnear := Date.ofDayNumber_near h.date (n := seconds / 86400) (by omega) (by omega)
  have hrange : yearInRange (Date.ofDayNumber (seconds / 86400)).year = true :=
    yearInRange_of (by omega) (by omega)
  simp only [Clock.instant?, hleap, hexists, hclock, Bool.false_eq_true, if_false, Bool.true_and]
  rw [if_pos]
  · rfl
  · exact hrange

end Stamp

theorem Form.ahead_bounds (f : Form) : -86400 < f.ahead ∧ f.ahead < 86400 := by
  cases f with
  | blank | bare | zulu => decide
  | offset west hours minutes =>
    cases west <;> simp only [Form.ahead] <;> omega

end FleetTrail.Time
