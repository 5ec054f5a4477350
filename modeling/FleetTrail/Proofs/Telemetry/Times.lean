import FleetTrail.Proofs.Telemetry.Decoding
import FleetTrail.Proofs.Time.Stamp

/-!
# Times on samples

A device may write the time of a sample in any of its forms: a stamp that exists stands for one
instant in all of them, and one that does not exist refuses the payload in all of them.
-/

namespace FleetTrail.Telemetry

open Time
open Json (Denotes)

variable {p : Payload} {raw : String}

theorem exists_reading_of_time {t : Instant} (hvehicle : p.vehicleId.isSome = true)
    (hdriver : p.driverId.isSome = true) (hraw : p.loggedAt = some raw) (hne : raw ≠ "")
    (ht : Instant.ofDevice? raw.toList = some t) :
    ∃ r, p.reading = .ok r ∧ r.loggedAt = some t := by
  cases hreading : p.reading with
  | error fault =>
    cases Payload.reading_eq_error_iff.mp hreading with
    | vehicle h =>
      rw [h] at hvehicle
      cases hvehicle
    | driver _ h =>
      rw [h] at hdriver
      cases hdriver
    | loggedAt _ _ h _ hbad =>
      cases hraw.symm.trans h
      cases ht.symm.trans hbad
  | ok r =>
    have hlogged := (Payload.reading_eq_ok_iff.mp hreading).loggedAt
    rw [hraw] at hlogged
    generalize htime : r.loggedAt = time at hlogged
    cases hlogged with
    | empty => exact absurd rfl hne
    | given _ h => exact ⟨r, rfl, htime.trans (h.symm.trans ht)⟩

theorem no_reading_of_bad_time (hraw : p.loggedAt = some raw) (hne : raw ≠ "")
    (hbad : Instant.ofDevice? raw.toList = none) (r : Reading) : p.reading ≠ .ok r := by
  intro hreading
  have hlogged := (Payload.reading_eq_ok_iff.mp hreading).loggedAt
  rw [hraw] at hlogged
  generalize r.loggedAt = time at hlogged
  cases hlogged with
  | empty => exact hne rfl
  | given _ h => cases h.symm.trans hbad

theorem no_batch_of_no_reading {bytes : ByteArray} {message : Message}
    (hmessage : Message.ofBytes bytes = .ok message) (hp : p ∈ message.payloads)
    (hnone : ∀ r, p.reading ≠ .ok r) : ∃ fault, Batch.ofBytes bytes = .error fault := by
  cases hbatch : Batch.ofBytes bytes with
  | error fault => exact ⟨fault, rfl⟩
  | ok batch =>
    obtain ⟨message', hmessage', hreadings⟩ := Batch.readings_of_ofBytes hbatch
    cases hmessage.symm.trans hmessage'
    have hmem : p.reading ∈ message.payloads.map Payload.reading := List.mem_map_of_mem hp
    rw [hreadings] at hmem
    obtain ⟨r, -, hr⟩ := List.mem_map.mp hmem
    exact absurd hr.symm (hnone r)

/-- A stamp of the calendar is read as the same instant in every form, shifted back by the offset,
its day counted from the first of January 1970. In every form, the stamp of no day or of no time of
the day leaves its sample without a reading, and refuses the payload. -/
theorem forms_agree (s : Stamp) (f : Form) (p : Payload) (hraw : p.loggedAt = some (s.text f)) :
    (s.Possible → p.vehicleId.isSome = true → p.driverId.isSome = true →
      ∃ day r, s.date.Counted day ∧ p.reading = .ok r ∧
        r.loggedAt = some ⟨day * 86400 + s.timeOfDay - f.ahead, 0⟩) ∧
    (s.Impossible →
      (p.vehicleId.isSome = true → p.driverId.isSome = true →
        p.reading = .error (.badLoggedAt (s.text f))) ∧
      ∀ bytes message, Message.ofBytes bytes = .ok message → p ∈ message.payloads →
        ∃ fault, Batch.ofBytes bytes = .error fault) := by
  have hread := Instant.ofDevice?_text s f
  have hne : s.text f ≠ "" := by
    intro h
    have hchars : s.chars f = [] := String.ofList_inj.mp h
    exact absurd (List.append_eq_nil_iff.mp hchars).2 (List.cons_ne_nil _ _)
  refine ⟨fun hpossible hvehicle hdriver => ?_, fun himpossible => ⟨fun hvehicle hdriver => ?_, ?_⟩⟩
  · have hbounds := f.ahead_bounds
    rw [hpossible.instant?_eq hbounds.1 hbounds.2] at hread
    obtain ⟨r, hreading, htime⟩ := exists_reading_of_time hvehicle hdriver hraw hne hread
    exact ⟨_, r, Date.counted_iff.mpr ⟨hpossible.date, rfl⟩, hreading, htime⟩
  · rw [himpossible.instant?_eq_none] at hread
    exact Payload.reading_eq_error_iff.mpr (.loggedAt hvehicle hdriver hraw hne hread)
  · intro bytes message hmessage hp
    rw [himpossible.instant?_eq_none] at hread
    exact no_batch_of_no_reading hmessage hp (no_reading_of_bad_time hraw hne hread)

def stamped (s : Stamp) (f : Form) : Payload :=
  { vehicleId := some 1, driverId := some 2, loggedAt := some (s.text f) }

/-- Written west of Greenwich on the leap day of 2000, the instant lies in March. In 1900 there was
no such day. -/
theorem forms_agree_on_leap_days :
    let leapDay : Stamp := ⟨2000, 2, 29, 23, 30, 15⟩
    let noDay : Stamp := ⟨1900, 2, 29, 23, 30, 15⟩
    (leapDay.text (.offset true 1 0) = "2000-02-29T23:30:15-01:00" ∧ leapDay.Possible ∧
      ∃ r, (stamped leapDay (.offset true 1 0)).reading = .ok r ∧
        r.loggedAt = some ⟨951870615, 0⟩) ∧
    noDay.text .zulu = "1900-02-29T23:30:15Z" ∧ noDay.Impossible ∧
    (stamped noDay .zulu).reading = .error (.badLoggedAt "1900-02-29T23:30:15Z") ∧
    ∃ fault, Batch.ofBytes
      "[null,1,2,null,null,null,null,null,null,null,null,null,\"1900-02-29T23:30:15Z\"]".toUTF8 =
        .error fault := by
  intro leapDay noDay
  have hleapText : leapDay.text (.offset true 1 0) = "2000-02-29T23:30:15-01:00" := by decide
  have hpossible : leapDay.Possible :=
    ⟨⟨by decide, by decide, by decide, by decide⟩, by decide, by decide, by decide⟩
  have hnoText : noDay.text .zulu = "1900-02-29T23:30:15Z" := by decide
  have himpossible : noDay.Impossible := .inl fun h => absurd h.day_le (by decide)
  refine ⟨⟨hleapText, hpossible, ?_⟩, hnoText, himpossible, ?_, ?_⟩
  · obtain ⟨day, r, hday, hreading, htime⟩ :=
      (forms_agree leapDay (.offset true 1 0) (stamped leapDay _) rfl).1 hpossible rfl rfl
    obtain ⟨-, rfl⟩ := Date.counted_iff.mp hday
    exact ⟨r, hreading, htime.trans (by decide)⟩
  · rw [← hnoText]
    exact ((forms_agree noDay .zulu (stamped noDay .zulu) rfl).2 himpossible).1 rfl rfl
  · let listed : Json.Value := .list [.null, .int 1, .int 2, .null, .null, .null, .null, .null, .null,
      .null, .null, .null, .text "1900-02-29T23:30:15Z"]
    have hv : Denotes
        "[null,1,2,null,null,null,null,null,null,null,null,null,\"1900-02-29T23:30:15Z\"]".toUTF8
        listed :=
      Json.denotes_of_front? (by cbv)
    have hsample : Message.ofJson listed = .ok (.single (stamped noDay .zulu)) := by
      rw [stamped, hnoText]
      rfl
    have hmessage := Message.ofBytes_eq_ok_iff.mpr
      ⟨listed, hv, (Message.ofJson_eq_ok_iff hv.ordered).mp hsample⟩
    exact ((forms_agree noDay .zulu (stamped noDay .zulu) rfl).2 himpossible).2 _ _ hmessage
      List.mem_cons_self

end FleetTrail.Telemetry
