import FleetTrail.Proofs.Query.Placeholders
import FleetTrail.Query.Builder
import Mathlib.Data.List.Basic

/-!
# Rewriting the markers of a fragment

The markers cut a fragment into segments, and binding fills the gaps between the segments: with the
marker they give the fragment back, with one placeholder after the other the text that is appended,
with one and the same placeholder the text of a shared value.
-/

namespace FleetTrail.Query

/-- What is left of a text when the occurrences of a needle are cut out of it. Each of them is the
first one behind the last, so they do not overlap. -/
inductive Cut (needle : List Char) : List Char → List (List Char) → Prop
  | last {text : List Char} (h : ¬needle <:+: text) : Cut needle text [text]
  | found {segment rest : List Char} {segments : List (List Char)}
      (hfirst : ∀ before after, segment ++ needle ++ rest = before ++ needle ++ after →
        segment.length ≤ before.length)
      (hrest : Cut needle rest segments) :
      Cut needle (segment ++ needle ++ rest) (segment :: segments)

/-- The segments of a text with `fill i` in the gap number `i`. -/
def filled (fill : Nat → List Char) : List (List Char) → List Char
  | [] => []
  | first :: rest => first ++ (rest.mapIdx fun i segment => fill i ++ segment).flatten

def segments : List Char → List (List Char)
  | '$' :: '?' :: rest => [] :: segments rest
  | c :: rest => (segments rest).modifyHead (c :: ·)
  | [] => [[]]

section Cutting

variable {needle text : List Char} {first : List Char} {rest found found' : List (List Char)}

theorem Cut.unique (h : Cut needle text found) (h' : Cut needle text found') : found = found' := by
  induction h generalizing found' with
  | last hnone =>
    cases h' with
    | last => rfl
    | found => exact absurd ⟨_, _, rfl⟩ hnone
  | @found segment rest segments hfirst _ ih =>
    generalize htext : segment ++ needle ++ rest = text at h'
    cases h' with
    | last hnone => exact absurd ⟨segment, rest, htext⟩ hnone
    | @found segment' rest' segments' hfirst' hrest' =>
      have hlength : segment.length = segment'.length :=
        Nat.le_antisymm (hfirst _ _ htext) (hfirst' _ _ htext.symm)
      rw [List.append_assoc, List.append_assoc] at htext
      obtain ⟨rfl, hbehind⟩ := List.append_inj htext hlength
      rw [← List.append_cancel_left hbehind] at hrest'
      rw [ih hrest']

theorem Cut.cons {c : Char} (hfront : ¬needle <+: c :: text) (h : Cut needle text (first :: rest)) :
    Cut needle (c :: text) ((c :: first) :: rest) := by
  cases h with
  | last hnone =>
    refine .last fun hin => ?_
    obtain hprefix | hinfix := List.infix_cons_iff.mp hin
    · exact hfront hprefix
    · exact hnone hinfix
  | @found _ behind _ hfirst hrest =>
    change Cut needle ((c :: first) ++ needle ++ behind) _
    refine .found (fun before after heq => ?_) hrest
    cases before with
    | nil => exact absurd ⟨after, heq.symm⟩ hfront
    | cons d before => exact Nat.succ_le_succ (hfirst before after (List.cons.inj heq).2)

end Cutting

theorem exists_segments (cs : List Char) : ∃ first rest, segments cs = first :: rest := by
  fun_induction segments cs with
  | case1 rest ih => exact ⟨_, _, rfl⟩
  | case2 c rest hmarker ih =>
    obtain ⟨first, later, hsegments⟩ := ih
    exact ⟨c :: first, later, by rw [hsegments, List.modifyHead_cons]⟩
  | case3 => exact ⟨_, _, rfl⟩

theorem length_segments (cs : List Char) : (segments cs).length = markers cs + 1 := by
  fun_induction segments cs with
  | case1 rest ih => rw [List.length_cons, ih, markers]
  | case2 c rest hmarker ih =>
    rw [List.length_modifyHead, ih, markers]
    exact hmarker
  | case3 => rfl

theorem cut_segments (cs : List Char) : Cut marker.toList cs (segments cs) := by
  fun_induction segments cs with
  | case1 rest ih =>
    change Cut _ ([] ++ marker.toList ++ rest) _
    exact .found (fun _ _ _ => Nat.zero_le _) ih
  | case2 c rest hmarker ih =>
    obtain ⟨first, later, hsegments⟩ := exists_segments rest
    rw [hsegments] at ih ⊢
    refine ih.cons fun hprefix => ?_
    obtain ⟨tail, htail⟩ := hprefix
    obtain ⟨hc, hrest⟩ := List.cons.inj htail
    exact hmarker tail hc.symm hrest.symm
  | case3 => exact .last (by decide)

section Filling

variable (fill : Nat → List Char)

theorem filled_segments_marker (rest : List Char) :
    filled fill ([] :: segments rest) = fill 0 ++ filled (fun i => fill (i + 1)) (segments rest) := by
  obtain ⟨first, later, hsegments⟩ := exists_segments rest
  rw [hsegments]
  simp only [filled, List.mapIdx_cons, List.flatten_cons, List.nil_append, List.append_assoc]

theorem filled_segments_cons (c : Char) (rest : List Char) :
    filled fill ((segments rest).modifyHead (c :: ·)) = c :: filled fill (segments rest) := by
  obtain ⟨first, later, hsegments⟩ := exists_segments rest
  rw [hsegments]
  rfl

end Filling

theorem filled_marker (cs : List Char) : filled (fun _ => marker.toList) (segments cs) = cs := by
  fun_induction segments cs with
  | case1 rest ih =>
    rw [filled_segments_marker, ih]
    rfl
  | case2 c rest hmarker ih => rw [filled_segments_cons, ih]
  | case3 => rfl

theorem shareMarker_eq_filled (n : Nat) (cs : List Char) :
    shareMarker n cs = filled (fun _ => placeholder n) (segments cs) := by
  fun_induction segments cs with
  | case1 rest ih => rw [shareMarker, filled_segments_marker, ih]
  | case2 c rest hmarker ih =>
    rw [shareMarker, filled_segments_cons, ih]
    exact hmarker
  | case3 => rfl

section Numbering

variable {n : Nat} {cs : List Char} {values : List Value}

/-- While there are numbers, too few and too many values are found out, and as many values as markers
fill the gaps. -/
theorem numberMarkers_eq (hroom : ∀ i < values.length, n + i ≠ placeholderLimit) :
    numberMarkers n cs values =
      if values.length < markers cs then .error .tooFew
      else if markers cs < values.length then .error .tooMany
      else .ok (filled (fun i => placeholder (n + i)) (segments cs)) := by
  fun_induction numberMarkers n cs values with
  | case1 => rfl
  | case2 => exact absurd rfl (hroom 0 (Nat.succ_pos _))
  | case3 next rest value values hnext ih =>
    have hcount (i : Nat) : next + 1 + i = next + (i + 1) := by omega
    have hlater : ∀ i < values.length, next + 1 + i ≠ placeholderLimit := fun i hi =>
      hcount i ▸ hroom (i + 1) (Nat.succ_lt_succ hi)
    rw [ih hlater, markers, List.length_cons, segments, filled_segments_marker]
    simp only [Nat.add_lt_add_iff_right, hcount]
    split
    · rfl
    · split <;> rfl
  | case4 next c rest values hmarker ih =>
    rw [ih hroom, markers, segments, filled_segments_cons]
    · split
      · rfl
      · split <;> rfl
    · exact hmarker
    · exact hmarker
  | case5 => rfl
  | case6 => rfl

theorem numberMarkers_single (hsingle : markers cs = 1) (value : Value) :
    numberMarkers n cs [value] =
      if n = placeholderLimit then .error .overflow else .ok (shareMarker n cs) := by
  by_cases hlast : n = placeholderLimit
  · rw [if_pos hlast]
    apply numberMarkers_overflow hsingle (Nat.le_of_eq hlast)
    rw [hlast]
    exact Nat.lt_succ_self _
  · have hroom : ∀ i < [value].length, n + i ≠ placeholderLimit := by
      intro i hi
      rw [Nat.lt_one_iff.mp hi]
      exact hlast
    have hlength : (segments cs).length = 2 := by rw [length_segments, hsingle]
    obtain ⟨before, behind, hsegments⟩ := List.length_eq_two.mp hlength
    rw [numberMarkers_eq hroom, shareMarker_eq_filled, hsingle, hsegments, if_neg hlast]
    rfl

end Numbering

section Appending

variable {b : Builder} {fragment : String} {values : List Value}

theorem append_eq (hroom : b.next + values.length ≤ placeholderLimit) :
    b.append fragment values =
      if values.length < markers fragment.toList then .error (.tooFewValues fragment)
      else if markers fragment.toList < values.length then .error (.tooManyValues fragment)
      else .ok { b with
        fragments := b.fragments ++ [String.ofList
          (filled (fun i => placeholder (b.next + i)) (segments fragment.toList))]
        args := b.args ++ values
        next := b.next + values.length } := by
  have hnumbers : ∀ i < values.length, b.next + i ≠ placeholderLimit := by
    intro i hi
    omega
  rw [Builder.append, numberMarkers_eq hnumbers]
  by_cases hfew : values.length < markers fragment.toList
  · rw [if_pos hfew, if_pos hfew]
  · by_cases hmany : markers fragment.toList < values.length
    · rw [if_neg hfew, if_neg hfew, if_pos hmany, if_pos hmany]
    · rw [if_neg hfew, if_neg hfew, if_neg hmany, if_neg hmany]

theorem append_single (hsingle : markers fragment.toList = 1) (value : Value) :
    b.append fragment [value] = b.appendShared fragment value := by
  rw [Builder.append, numberMarkers_single hsingle value, Builder.appendShared]
  by_cases hlast : b.next = placeholderLimit
  · rw [if_pos hlast, if_pos hlast]
  · rw [if_neg hlast, if_neg hlast]
    rfl

end Appending

/-- The segments of a fragment are what is left when its markers are cut out from left to right. As
long as there are numbers, an append fails exactly when the values are not as many as the markers;
otherwise the gap number `i` is filled with the `i`-th number from the next one on, and the values
are bound in their order. With a single marker, a value of its own and a shared one are the same. -/
theorem append_fills_gaps (b : Builder) (fragment : String) :
    let found := segments fragment.toList
    (∀ cut, Cut marker.toList fragment.toList cut ↔ cut = found) ∧
    filled (fun _ => marker.toList) found = fragment.toList ∧
    found.length = markers fragment.toList + 1 ∧
    (∀ values, b.next + values.length ≤ placeholderLimit →
      ((∃ fault, b.append fragment values = .error fault) ↔
        values.length ≠ markers fragment.toList) ∧
      (values.length = markers fragment.toList →
        b.append fragment values = .ok { b with
          fragments := b.fragments ++
            [String.ofList (filled (fun i => placeholder (b.next + i)) found)]
          args := b.args ++ values
          next := b.next + values.length })) ∧
    (markers fragment.toList = 1 →
      ∀ value, b.append fragment [value] = b.appendShared fragment value) := by
  intro found
  have hcut : Cut marker.toList fragment.toList found := cut_segments fragment.toList
  refine ⟨fun cut => ?_, filled_marker _, length_segments _, fun values hroom => ?_, append_single⟩
  · constructor
    · intro h
      exact h.unique hcut
    · intro h
      rw [h]
      exact hcut
  · rw [append_eq hroom]
    constructor
    · constructor
      · intro h hfit
        obtain ⟨fault, hfault⟩ := h
        rw [hfit, if_neg (Nat.lt_irrefl _), if_neg (Nat.lt_irrefl _)] at hfault
        cases hfault
      · intro hne
        obtain hfew | hmany := Nat.lt_or_gt_of_ne hne
        · exact ⟨_, if_pos hfew⟩
        · rw [if_neg (Nat.lt_asymm hmany)]
          exact ⟨_, if_pos hmany⟩
    · intro hfit
      rw [hfit, if_neg (Nat.lt_irrefl _), if_neg (Nat.lt_irrefl _)]

/-- Dollar signs and question marks around markers, and markers that touch. -/
theorem append_fills_touching_gaps :
    let b : Builder := ⟨["t.deleted = false"], [.int 4], 9, .equality, 1⟩
    b.append "é$?$$?$?? = 'é'" [.int 1, .int 2, .int 3] = .ok
      ⟨["t.deleted = false", "é$9$$10$11? = 'é'"], [.int 4, .int 1, .int 2, .int 3], 12,
        .equality, 1⟩ ∧
    (∃ fault, b.append "é$?$$?$?? = 'é'" [.int 1, .int 2] = .error fault) ∧
    b.append "$$??" [.int 1] = b.appendShared "$$??" (.int 1) := by
  intro b
  obtain ⟨-, -, -, hvalues, -⟩ := append_fills_gaps b "é$?$$?$?? = 'é'"
  refine ⟨?_, ?_, ?_⟩
  · have htext : filled (fun i => placeholder (9 + i)) (segments "é$?$$?$?? = 'é'".toList) =
        "é$9$$10$11? = 'é'".toList := by decide
    rw [(hvalues [.int 1, .int 2, .int 3] (by decide)).2 (by decide)]
    simp only [b, htext, String.ofList_toList]
    rfl
  · exact (hvalues [.int 1, .int 2] (by decide)).1.mpr (by decide)
  · exact (append_fills_gaps b "$$??").2.2.2.2 (by decide) (.int 1)

end FleetTrail.Query
