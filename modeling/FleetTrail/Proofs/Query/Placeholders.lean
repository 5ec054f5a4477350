import FleetTrail.Proofs.Number.Digits
import FleetTrail.Query.Marker
import Mathlib.Data.List.TakeWhile

/-!
# Placeholders in a text

The numbers of the placeholders that a text of SQL holds, from left to right. Rewriting the markers
of a fragment leaves exactly the numbers that were handed out: one after the other for markers with
a value each, the same one for markers that share a value.
-/

namespace FleetTrail.Query

open Number

def placeholdersIn : List Char → List Nat
  | [] => []
  | c :: rest =>
    if c = '$' ∧ rest.takeWhile isDigit ≠ [] then
      digitsValue (rest.takeWhile isDigit) :: placeholdersIn rest
    else placeholdersIn rest

def NoDigit (cs : List Char) : Prop := ∀ c ∈ cs.head?, isDigit c = false

/-- Dollar signs stand only in markers, and no marker stands before a digit. -/
def Marked : List Char → Prop
  | [] => True
  | c :: rest => (c = '$' → rest.head? = some '?' ∧ NoDigit rest.tail) ∧ Marked rest

/-- Every dollar sign stands before a digit. -/
def Numbered : List Char → Prop
  | [] => True
  | c :: rest => (c = '$' → ∃ d ∈ rest.head?, isDigit d = true) ∧ Numbered rest

instance decidableNoDigit : (cs : List Char) → Decidable (NoDigit cs)
  | [] => isTrue fun _ h => nomatch h
  | c :: _ =>
    decidable_of_iff (isDigit c = false)
      ⟨fun h _ hd => Option.some.inj hd ▸ h, fun h => h c rfl⟩

instance decidableMarked : (cs : List Char) → Decidable (Marked cs)
  | [] => isTrue trivial
  | _ :: rest =>
    have := decidableMarked rest
    inferInstanceAs (Decidable (_ ∧ Marked rest))

theorem isDigit_dollar : isDigit '$' = false := by decide

theorem NoDigit.append {a b : List Char} (ha : NoDigit a) (hb : NoDigit b) : NoDigit (a ++ b) := by
  cases a with
  | nil => exact hb
  | cons c rest => exact ha

theorem NoDigit.of_ne_nil {a : List Char} (ha : NoDigit a) (hne : a ≠ []) (b : List Char) :
    NoDigit (a ++ b) := by
  cases a with
  | nil => exact absurd rfl hne
  | cons c rest => exact ha

theorem placeholdersIn_append {a b : List Char} (hb : NoDigit b) :
    placeholdersIn (a ++ b) = placeholdersIn a ++ placeholdersIn b := by
  have htake (rest : List Char) : (rest ++ b).takeWhile isDigit = rest.takeWhile isDigit := by
    induction rest with
    | nil =>
      cases b with
      | nil => rfl
      | cons c b => simp [hb c rfl]
    | cons c rest ih => simp only [List.cons_append, List.takeWhile_cons, ih]
  induction a with
  | nil => rfl
  | cons c rest ih =>
    simp only [List.cons_append, placeholdersIn, htake, ih]
    split <;> rfl

theorem placeholdersIn_append_of_no_dollar {a : List Char} (h : '$' ∉ a) (b : List Char) :
    placeholdersIn (a ++ b) = placeholdersIn b := by
  induction a with
  | nil => rfl
  | cons c rest ih =>
    obtain ⟨hc, hrest⟩ := not_or.mp (List.mem_cons.not.mp h)
    rw [List.cons_append, placeholdersIn, if_neg (fun hdollar => hc hdollar.1.symm), ih hrest]

theorem placeholdersIn_of_no_dollar {cs : List Char} (h : '$' ∉ cs) : placeholdersIn cs = [] := by
  rw [← List.append_nil cs, placeholdersIn_append_of_no_dollar h, placeholdersIn]

theorem dollar_not_mem_digits (n : Nat) : '$' ∉ digits n := fun h => by
  have hdigit := isDigit_of_mem_digits h
  rw [isDigit_dollar] at hdigit
  cases hdigit

theorem placeholdersIn_placeholder (n : Nat) : placeholdersIn (placeholder n) = [n] := by
  have htake : (digits n).takeWhile isDigit = digits n :=
    List.takeWhile_eq_self_iff.mpr fun c => isDigit_of_mem_digits
  rw [placeholder, placeholdersIn, htake, if_pos ⟨rfl, digits_ne_nil n⟩, digitsValue_digits,
    placeholdersIn_of_no_dollar (dollar_not_mem_digits n)]

theorem Numbered.append {a b : List Char} (ha : Numbered a) (hb : Numbered b) :
    Numbered (a ++ b) := by
  induction a with
  | nil => exact hb
  | cons c rest ih =>
    refine ⟨fun hc => ?_, ih ha.2⟩
    obtain ⟨d, hd, hdigit⟩ := ha.1 hc
    cases rest with
    | nil => cases hd
    | cons e rest => exact ⟨d, hd, hdigit⟩

theorem numbered_of_no_dollar {cs : List Char} (h : '$' ∉ cs) : Numbered cs := by
  induction cs with
  | nil => trivial
  | cons c rest ih =>
    obtain ⟨hc, hrest⟩ := not_or.mp (List.mem_cons.not.mp h)
    exact ⟨fun hdollar => absurd hdollar.symm hc, ih hrest⟩

theorem numbered_placeholder (n : Nat) : Numbered (placeholder n) := by
  refine ⟨fun _ => ?_, numbered_of_no_dollar (dollar_not_mem_digits n)⟩
  cases h : digits n with
  | nil => exact absurd h (digits_ne_nil n)
  | cons d rest =>
    have hmem : d ∈ digits n := h ▸ List.mem_cons_self
    exact ⟨d, rfl, isDigit_of_mem_digits hmem⟩

theorem Numbered.no_marker {cs : List Char} (h : Numbered cs) : ¬marker.toList <:+: cs := by
  rintro ⟨before, after, rfl⟩
  induction before with
  | nil =>
    obtain ⟨d, hd, hdigit⟩ := h.1 rfl
    cases hd
    exact absurd hdigit (by decide)
  | cons c before ih => exact ih h.2

theorem Marked.append {a b : List Char} (ha : Marked a) (hb : Marked b) (hdigit : NoDigit b) :
    Marked (a ++ b) := by
  induction a with
  | nil => exact hb
  | cons c rest ih =>
    refine ⟨fun hc => ?_, ih ha.2⟩
    obtain ⟨hhead, htail⟩ := ha.1 hc
    cases rest with
    | nil => cases hhead
    | cons d rest => exact ⟨hhead, htail.append hdigit⟩

theorem Marked.prepend {a b : List Char} (ha : '$' ∉ a) (hb : Marked b) : Marked (a ++ b) := by
  induction a with
  | nil => exact hb
  | cons c rest ih =>
    obtain ⟨hc, hrest⟩ := not_or.mp (List.mem_cons.not.mp ha)
    exact ⟨fun hdollar => absurd hdollar.symm hc, ih hrest⟩

theorem marked_of_no_dollar {cs : List Char} (h : '$' ∉ cs) : Marked cs := by
  rw [← List.append_nil cs]
  exact Marked.prepend h trivial

theorem Marked.head_ne {c : Char} {rest : List Char} (h : Marked (c :: rest))
    (hmarker : ∀ tail, c = '$' → rest = '?' :: tail → False) : c ≠ '$' := by
  intro hc
  have hhead := (h.1 hc).1
  cases rest with
  | nil => cases hhead
  | cons d rest => exact hmarker rest hc (congrArg (· :: rest) (Option.some.inj hhead))

theorem noDigit_placeholder (n : Nat) : NoDigit (placeholder n) := by
  intro c hc
  cases hc
  exact isDigit_dollar

section Join

variable {separator : List Char}

theorem infix_intercalate {text : List Char} {texts : List (List Char)} (h : text ∈ texts) :
    text <:+: separator.intercalate texts := by
  induction texts with
  | nil => cases h
  | cons first rest ih =>
    cases rest with
    | nil => exact ⟨[], [], by simp [List.mem_singleton.mp h]⟩
    | cons second rest =>
      rw [List.intercalate_cons_cons]
      rcases List.mem_cons.mp h with rfl | htail
      · exact ⟨[], separator ++ separator.intercalate (second :: rest), by simp⟩
      · exact (ih htail).trans (List.suffix_append _ _).isInfix

theorem Marked.intercalate (hdollar : '$' ∉ separator) (hdigit : NoDigit separator)
    (hne : separator ≠ []) {texts : List (List Char)} (h : ∀ text ∈ texts, Marked text) :
    Marked (separator.intercalate texts) := by
  induction texts with
  | nil => trivial
  | cons first rest ih =>
    obtain ⟨hfirst, hrest⟩ := List.forall_mem_cons.mp h
    cases rest with
    | nil => rw [List.intercalate_singleton]; exact hfirst
    | cons second rest =>
      rw [List.intercalate_cons_cons, List.append_assoc]
      exact hfirst.append (Marked.prepend hdollar (ih hrest)) (hdigit.of_ne_nil hne _)

theorem Numbered.intercalate (hdollar : '$' ∉ separator) {texts : List (List Char)}
    (h : ∀ text ∈ texts, Numbered text) : Numbered (separator.intercalate texts) := by
  induction texts with
  | nil => trivial
  | cons first rest ih =>
    obtain ⟨hfirst, hrest⟩ := List.forall_mem_cons.mp h
    cases rest with
    | nil => rw [List.intercalate_singleton]; exact hfirst
    | cons second rest =>
      rw [List.intercalate_cons_cons, List.append_assoc]
      exact hfirst.append ((numbered_of_no_dollar hdollar).append (ih hrest))

theorem placeholdersIn_intercalate (hdollar : '$' ∉ separator) (hdigit : NoDigit separator)
    (hne : separator ≠ []) (texts : List (List Char)) :
    placeholdersIn (separator.intercalate texts) = texts.flatMap placeholdersIn := by
  induction texts with
  | nil => rfl
  | cons first rest ih =>
    cases rest with
    | nil => rw [List.intercalate_singleton, List.flatMap_singleton]
    | cons second rest =>
      rw [List.intercalate_cons_cons, List.append_assoc,
        placeholdersIn_append (hdigit.of_ne_nil hne _),
        placeholdersIn_append_of_no_dollar hdollar, ih]
      rfl

end Join

def markers : List Char → Nat
  | '$' :: '?' :: rest => markers rest + 1
  | _ :: rest => markers rest
  | [] => 0

theorem markers_append_of_no_dollar {a : List Char} (h : '$' ∉ a) (b : List Char) :
    markers (a ++ b) = markers b := by
  induction a with
  | nil => rfl
  | cons c rest ih =>
    obtain ⟨hc, hrest⟩ := not_or.mp (List.mem_cons.not.mp h)
    rw [List.cons_append, markers, ih hrest]
    rintro tail rfl
    exact absurd rfl hc

/-- Text without a marker in front adds none, unless its last dollar sign meets a question mark. -/
theorem markers_append_of_no_marker {a b : List Char} (h : ¬marker.toList <:+: a)
    (hseam : b.head? ≠ some '?') : markers (a ++ b) = markers b := by
  induction a with
  | nil => rfl
  | cons c rest ih =>
    have hrest : ¬marker.toList <:+: rest := fun hin =>
      h (hin.trans (List.suffix_cons c rest).isInfix)
    rw [List.cons_append, markers, ih hrest]
    rintro tail rfl htail
    cases rest with
    | nil => exact hseam (congrArg List.head? htail)
    | cons d rest =>
      obtain ⟨rfl, -⟩ := List.cons.inj htail
      exact h ⟨[], rest, rfl⟩

theorem no_marker_of_no_dollar {cs : List Char} (h : '$' ∉ cs) : ¬marker.toList <:+: cs :=
  fun hin => h (hin.subset List.mem_cons_self)

theorem markers_pos {cs : List Char} (h : marker.toList <:+: cs) : 0 < markers cs := by
  obtain ⟨before, after, rfl⟩ := h
  fun_induction markers before with
  | case1 rest ih => exact Nat.succ_pos _
  | case2 c rest hmarker ih =>
    simp only [List.cons_append]
    rw [markers]
    · exact ih
    · rintro tail rfl hrest
      cases rest with
      | nil =>
        have hhead : '$' = '?' := (List.cons.inj hrest).1
        exact absurd hhead (by decide)
      | cons d rest => exact hmarker rest rfl (congrArg (· :: rest) (List.cons.inj hrest).1)
  | case3 => exact Nat.succ_pos _

theorem numberMarkers_ok {n : Nat} {cs : List Char} {values : List Value} {out : List Char}
    (hmarked : Marked cs) (h : numberMarkers n cs values = .ok out) :
    placeholdersIn out = List.range' n values.length ∧ Numbered out ∧
      (NoDigit cs → NoDigit out) := by
  fun_induction numberMarkers n cs values generalizing out with
  | case1 => cases h
  | case2 => cases h
  | case3 next rest value values hlimit ih =>
    cases hrest : numberMarkers (next + 1) rest values with
    | error misfit => rw [hrest] at h; cases h
    | ok text =>
      rw [hrest] at h
      cases h
      obtain ⟨hnumbers, hnumbered, hdigit⟩ := ih hmarked.2.2 hrest
      have htail := hdigit (hmarked.1 rfl).2
      refine ⟨?_, (numbered_placeholder next).append hnumbered,
        fun _ => (noDigit_placeholder next).append htail⟩
      rw [placeholdersIn_append htail, placeholdersIn_placeholder, hnumbers, List.length_cons,
        List.range'_succ]
      rfl
  | case4 next c rest values hmarker ih =>
    cases hrest : numberMarkers next rest values with
    | error misfit => rw [hrest] at h; cases h
    | ok text =>
      rw [hrest] at h
      cases h
      have hc := hmarked.head_ne hmarker
      obtain ⟨hnumbers, hnumbered, -⟩ := ih hmarked.2 hrest
      refine ⟨?_, ⟨fun hdollar => absurd hdollar hc, hnumbered⟩, fun hdigit => hdigit⟩
      rw [placeholdersIn, if_neg (fun hdollar => hc hdollar.1), hnumbers]
  | case5 =>
    cases h
    exact ⟨rfl, trivial, fun hdigit => hdigit⟩
  | case6 => cases h

theorem numberMarkers_isOk {n : Nat} {cs : List Char} {values : List Value}
    (hfit : markers cs = values.length) (hlimit : n + values.length ≤ placeholderLimit) :
    ∃ out, numberMarkers n cs values = .ok out := by
  fun_induction numberMarkers n cs values with
  | case1 => cases hfit
  | case2 => simp only [List.length_cons] at hlimit; omega
  | case3 next rest value values hnext ih =>
    simp only [List.length_cons] at hlimit
    obtain ⟨out, hout⟩ := ih (Nat.succ.inj hfit) (by omega)
    exact ⟨placeholder next ++ out, by rw [hout]; rfl⟩
  | case4 next c rest values hmarker ih =>
    rw [markers] at hfit
    · obtain ⟨out, hout⟩ := ih hfit hlimit
      exact ⟨c :: out, by rw [hout]; rfl⟩
    · exact hmarker
  | case5 => exact ⟨[], rfl⟩
  | case6 => cases hfit

theorem numberMarkers_overflow {n : Nat} {cs : List Char} {values : List Value}
    (hfit : markers cs = values.length) (hn : n ≤ placeholderLimit)
    (hlimit : placeholderLimit < n + values.length) :
    numberMarkers n cs values = .error .overflow := by
  fun_induction numberMarkers n cs values with
  | case1 => cases hfit
  | case2 => rfl
  | case3 next rest value values hnext ih =>
    simp only [List.length_cons] at hlimit
    rw [ih (Nat.succ.inj hfit) (by omega) (by omega)]
    rfl
  | case4 next c rest values hmarker ih =>
    rw [markers] at hfit
    · rw [ih hfit hn hlimit]
      rfl
    · exact hmarker
  | case5 => exact absurd hlimit (Nat.not_lt.mpr hn)
  | case6 => cases hfit

/-- The text of markers with a value each depends on how many values there are. -/
theorem numberMarkers_congr {n : Nat} {cs : List Char} {values values' : List Value}
    (h : values.length = values'.length) :
    numberMarkers n cs values = numberMarkers n cs values' := by
  fun_induction numberMarkers n cs values generalizing values' with
  | case1 next rest =>
    rw [List.length_eq_zero_iff.mp h.symm]
    rfl
  | case2 rest value values =>
    cases values' with
    | nil => cases h
    | cons value' values' => rw [numberMarkers, if_pos rfl]
  | case3 next rest value values hnext ih =>
    cases values' with
    | nil => cases h
    | cons value' values' =>
      rw [numberMarkers, if_neg hnext, ih (Nat.succ.inj h)]
  | case4 next c rest values hmarker ih =>
    rw [numberMarkers, ih h]
    exact hmarker
  | case5 =>
    rw [List.length_eq_zero_iff.mp h.symm]
    rfl
  | case6 =>
    cases values' with
    | nil => cases h
    | cons value' values' => rfl

theorem shareMarker_eq (n : Nat) {cs : List Char} (hmarked : Marked cs) :
    placeholdersIn (shareMarker n cs) = List.replicate (markers cs) n ∧
      Numbered (shareMarker n cs) ∧ (NoDigit cs → NoDigit (shareMarker n cs)) := by
  fun_induction shareMarker n cs with
  | case1 rest ih =>
    obtain ⟨hnumbers, hnumbered, hdigit⟩ := ih hmarked.2.2
    have htail := hdigit (hmarked.1 rfl).2
    refine ⟨?_, (numbered_placeholder n).append hnumbered,
      fun _ => (noDigit_placeholder n).append htail⟩
    rw [placeholdersIn_append htail, placeholdersIn_placeholder, hnumbers, markers,
      List.replicate_succ]
    rfl
  | case2 c rest hmarker ih =>
    have hc := hmarked.head_ne hmarker
    obtain ⟨hnumbers, hnumbered, -⟩ := ih hmarked.2
    refine ⟨?_, ⟨fun hdollar => absurd hdollar hc, hnumbered⟩, fun hdigit => hdigit⟩
    rw [placeholdersIn, if_neg (fun hdollar => hc hdollar.1), hnumbers, markers]
    exact hmarker
  | case3 => exact ⟨rfl, trivial, fun hdigit => hdigit⟩

theorem numberMarkers_append_of_no_dollar {a : List Char} (h : '$' ∉ a) (n : Nat)
    (b : List Char) (values : List Value) :
    numberMarkers n (a ++ b) values = (numberMarkers n b values).map (a ++ ·) := by
  induction a with
  | nil =>
    show numberMarkers n b values = _
    cases numberMarkers n b values <;> rfl
  | cons c rest ih =>
    obtain ⟨hc, hrest⟩ := not_or.mp (List.mem_cons.not.mp h)
    rw [List.cons_append, numberMarkers, ih hrest]
    · cases numberMarkers n b values <;> rfl
    · rintro tail rfl
      exact absurd rfl hc

theorem numberMarkers_marker {n : Nat} {a b : List Char} {value : Value} {values : List Value}
    {out : List Char} (hdollar : '$' ∉ a)
    (h : numberMarkers n (a ++ (marker.toList ++ b)) (value :: values) = .ok out) :
    ∃ rest, numberMarkers (n + 1) b values = .ok rest ∧ out = a ++ (placeholder n ++ rest) := by
  have hmarker : marker.toList ++ b = '$' :: '?' :: b := rfl
  rw [numberMarkers_append_of_no_dollar hdollar, hmarker, numberMarkers] at h
  split at h
  · cases h
  · cases hrest : numberMarkers (n + 1) b values with
    | error misfit => rw [hrest] at h; cases h
    | ok rest =>
      rw [hrest] at h
      cases h
      exact ⟨rest, rfl, rfl⟩

theorem numberMarkers_of_no_dollar {cs : List Char} (h : '$' ∉ cs) (n : Nat) :
    numberMarkers n cs [] = .ok cs := by
  have happend := numberMarkers_append_of_no_dollar h n [] []
  rw [List.append_nil] at happend
  rw [happend]
  show Except.ok (cs ++ []) = _
  rw [List.append_nil]

theorem shareMarker_append {a : List Char} (h : Marked a) (n : Nat) (b : List Char) :
    shareMarker n (a ++ b) = shareMarker n a ++ shareMarker n b := by
  fun_induction shareMarker n a with
  | case1 rest ih =>
    show placeholder n ++ shareMarker n (rest ++ b) = _
    rw [ih h.2.2, List.append_assoc]
  | case2 c rest hmarker ih =>
    have hc := h.head_ne hmarker
    rw [List.cons_append, shareMarker, ih h.2, List.cons_append]
    rintro tail rfl
    exact absurd rfl hc
  | case3 => rfl

theorem shareMarker_of_no_dollar {cs : List Char} (h : '$' ∉ cs) (n : Nat) :
    shareMarker n cs = cs := by
  induction cs with
  | nil => rfl
  | cons c rest ih =>
    obtain ⟨hc, hrest⟩ := not_or.mp (List.mem_cons.not.mp h)
    rw [shareMarker, ih hrest]
    rintro tail rfl
    exact absurd rfl hc

theorem shareMarker_intercalate {separator : List Char} (h : '$' ∉ separator) (n : Nat)
    {texts : List (List Char)} (htexts : ∀ text ∈ texts, Marked text) :
    shareMarker n (separator.intercalate texts) =
      separator.intercalate (texts.map (shareMarker n)) := by
  induction texts with
  | nil => rfl
  | cons first rest ih =>
    obtain ⟨hfirst, hrest⟩ := List.forall_mem_cons.mp htexts
    cases rest with
    | nil => simp only [List.map_cons, List.map_nil, List.intercalate_singleton]
    | cons second rest =>
      rw [List.intercalate_cons_cons, List.append_assoc, shareMarker_append hfirst,
        shareMarker_append (marked_of_no_dollar h), shareMarker_of_no_dollar h, ih hrest]
      simp only [List.map_cons, List.intercalate_cons_cons, List.append_assoc]

end FleetTrail.Query
