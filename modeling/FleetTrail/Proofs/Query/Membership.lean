import FleetTrail.Proofs.Query.Alignment
import FleetTrail.Proofs.Query.Reading

/-!
# Where a text tests membership

`ANY(` opens every test of a column against an array, and its last two characters stand nowhere else
in the texts of a listing. So the tests of a whole text are the tests of its pieces, and each is
about a column that was asked for and the array bound for it.
-/

namespace FleetTrail

namespace Query

open Sql

def NoTest (text : List Char) : Prop := ¬['Y', '('] <:+: text

/-- Wherever a text tests a column against an array, `P` holds of the column and of the number that
the array is bound under. -/
def Tests (P : String → Nat → Prop) (text : List Char) : Prop :=
  ∀ before after, text = before ++ 'Y' :: '(' :: after → ∃ column n rest,
    P column n ∧ (column ++ " = AN").toList <:+ before ∧ after = placeholder n ++ ')' :: rest

theorem noTest_cons {c : Char} {rest : List Char} :
    NoTest (c :: rest) ↔ ¬(c = 'Y' ∧ rest.head? = some '(') ∧ NoTest rest := by
  have hprefix : ['Y', '('] <+: c :: rest ↔ c = 'Y' ∧ rest.head? = some '(' := by
    cases rest <;> simp [List.cons_prefix_cons, eq_comm]
  rw [NoTest, List.infix_cons_iff, not_or, hprefix]
  rfl

theorem NoTest.of_not_mem {text : List Char} (h : 'Y' ∉ text) : NoTest text :=
  fun hpair => h (hpair.subset List.mem_cons_self)

instance decidableNoTest : (text : List Char) → Decidable (NoTest text)
  | [] => isTrue (.of_not_mem List.not_mem_nil)
  | _ :: rest =>
    have := decidableNoTest rest
    decidable_of_iff _ noTest_cons.symm

theorem NoTest.prepend {a b : List Char} (ha : 'Y' ∉ a) (hb : NoTest b) : NoTest (a ++ b) := by
  induction a with
  | nil => exact hb
  | cons c rest ih =>
    obtain ⟨hc, hrest⟩ := not_or.mp (List.mem_cons.not.mp ha)
    exact noTest_cons.mpr ⟨fun h => hc h.1.symm, ih hrest⟩

theorem not_mem_placeholder (n : Nat) : 'Y' ∉ placeholder n := by
  intro h
  obtain h | h := List.mem_cons.mp h
  · exact absurd h (by decide)
  · exact absurd (Number.isDigit_of_mem_digits h) (by decide)

section Pieces

variable {P Q : String → Nat → Prop} {a b : List Char}

theorem Tests.mono (h : Tests P a) (hPQ : ∀ column n, P column n → Q column n) : Tests Q a := by
  intro before after htext
  obtain ⟨column, n, rest, hP, hbefore, hafter⟩ := h before after htext
  exact ⟨column, n, rest, hPQ column n hP, hbefore, hafter⟩

theorem NoTest.tests (h : NoTest a) : Tests P a := by
  rintro before after rfl
  exact absurd ⟨before, after, by simp⟩ h

/-- What opens in a text of two pieces opens in one of them, unless the second piece starts with a
bracket. -/
theorem cut_append {before after : List Char} (hseam : b.head? ≠ some '(')
    (h : a ++ b = before ++ 'Y' :: '(' :: after) :
    (∃ tail, a = before ++ 'Y' :: '(' :: tail ∧ after = tail ++ b) ∨
      ∃ front, b = front ++ 'Y' :: '(' :: after ∧ before = a ++ front := by
  obtain ⟨front, rfl, hb⟩ | ⟨tail, ha, hcut⟩ := List.append_eq_append_iff.mp h
  · exact .inr ⟨front, hb, rfl⟩
  · match tail with
    | [] => exact .inr ⟨[], hcut.symm, by simpa using ha.symm⟩
    | [c] =>
      obtain ⟨-, hb⟩ := List.cons.inj hcut
      exact absurd (congrArg List.head? hb.symm) hseam
    | c :: d :: tail =>
      simp only [List.cons_append, List.cons.injEq] at hcut
      obtain ⟨rfl, rfl, rfl⟩ := hcut
      exact .inl ⟨tail, ha, rfl⟩

theorem NoTest.append (ha : NoTest a) (hb : NoTest b) (hseam : b.head? ≠ some '(') :
    NoTest (a ++ b) := by
  rintro ⟨before, after, htext⟩
  have hcut : a ++ b = before ++ 'Y' :: '(' :: after := by simp [← htext]
  obtain ⟨tail, rfl, -⟩ | ⟨front, rfl, -⟩ := cut_append hseam hcut
  · exact ha ⟨before, tail, by simp⟩
  · exact hb ⟨front, after, by simp⟩

theorem NoTest.blank (ha : NoTest a) (hb : NoTest b) : NoTest (a ++ ' ' :: b) := by
  have hblank : NoTest (' ' :: b) := noTest_cons.mpr ⟨fun h => absurd h.1 (by decide), hb⟩
  exact ha.append hblank (by simp)

theorem Tests.append (ha : Tests P a) (hb : Tests P b) (hseam : b.head? ≠ some '(') :
    Tests P (a ++ b) := by
  intro before after htext
  obtain ⟨tail, rfl, rfl⟩ | ⟨front, rfl, rfl⟩ := cut_append hseam htext
  · obtain ⟨column, n, rest, hP, hbefore, rfl⟩ := ha before tail rfl
    exact ⟨column, n, rest ++ b, hP, hbefore, by simp⟩
  · obtain ⟨column, n, rest, hP, hbefore, rfl⟩ := hb front after rfl
    exact ⟨column, n, rest, hP, hbefore.trans (List.suffix_append a front), rfl⟩

theorem Tests.blank (ha : Tests P a) (hb : Tests P b) : Tests P (a ++ ' ' :: b) := by
  have hblank : Tests P (' ' :: b) := by
    rintro (_ | ⟨c, before⟩) after htext
    · cases htext
    · obtain ⟨-, htext⟩ := List.cons.inj htext
      obtain ⟨column, n, rest, hP, hbefore, hafter⟩ := hb before after htext
      exact ⟨column, n, rest, hP, hbefore.trans (List.suffix_cons c before), hafter⟩
  exact ha.append hblank (by simp)

theorem Tests.conjunction {texts : List (List Char)} (h : ∀ text ∈ texts, Tests P text) :
    Tests P (" AND ".toList.intercalate texts) := by
  induction texts with
  | nil => exact NoTest.tests (by decide)
  | cons first rest ih =>
    obtain ⟨hfirst, hrest⟩ := List.forall_mem_cons.mp h
    cases rest with
    | nil =>
      rw [List.intercalate_singleton]
      exact hfirst
    | cons second rest =>
      rw [List.intercalate_cons_cons, List.append_assoc]
      exact hfirst.blank ((NoTest.tests (a := "AND".toList) (by decide)).blank (ih hrest))

theorem tests_within {column : String} (hcolumn : NoTest column.toList) {n : Nat}
    (hP : P column n) :
    Tests P (column.toList ++ (" = ANY(".toList ++ (placeholder n ++ ")".toList))) := by
  intro before after htext
  have hfront : NoTest (column ++ " = AN").toList := by
    rw [String.toList_append]
    exact hcolumn.append (by decide) (by decide)
  have hback : NoTest ('(' :: (placeholder n ++ ")".toList)) :=
    noTest_cons.mpr ⟨fun h => absurd h.1 (by decide), .prepend (not_mem_placeholder n) (by decide)⟩
  have hcut : (column ++ " = AN").toList ++ 'Y' :: '(' :: (placeholder n ++ ")".toList) =
      before ++ 'Y' :: '(' :: after := by
    rw [← htext, String.toList_append, List.append_assoc]
    rfl
  obtain ⟨tail, hopen, -⟩ | ⟨front, hopen, rfl⟩ := cut_append (by simp) hcut
  · exact absurd ⟨before, tail, by simp [hopen]⟩ hfront
  · cases front with
    | nil =>
      obtain ⟨-, rfl⟩ := List.cons.inj (List.cons.inj hopen).2
      exact ⟨column, n, [], hP, ⟨[], (List.append_nil _).symm⟩, rfl⟩
    | cons c front =>
      obtain ⟨-, hopen⟩ := List.cons.inj hopen
      exact absurd ⟨front, after, (List.append_assoc ..).trans hopen.symm⟩ hback

end Pieces

theorem not_mem_numberMarkers {cs : List Char} (h : 'Y' ∉ cs) {n : Nat} {values : List Value}
    {text : List Char} (htext : numberMarkers n cs values = .ok text) : 'Y' ∉ text := by
  fun_induction numberMarkers n cs values generalizing text with
  | case1 => cases htext
  | case2 => cases htext
  | case3 next rest value values hlimit ih =>
    cases hrest : numberMarkers (next + 1) rest values with
    | error misfit =>
      rw [hrest] at htext
      cases htext
    | ok tail =>
      rw [hrest] at htext
      cases htext
      have htail := ih (fun hmem => h (List.mem_cons_of_mem _ (List.mem_cons_of_mem _ hmem))) hrest
      exact fun hmem => (List.mem_append.mp hmem).elim (not_mem_placeholder next) htail
  | case4 next c rest values hmarker ih =>
    cases hrest : numberMarkers next rest values with
    | error misfit =>
      rw [hrest] at htext
      cases htext
    | ok tail =>
      rw [hrest] at htext
      cases htext
      obtain ⟨hc, hcs⟩ := not_or.mp (List.mem_cons.not.mp h)
      exact List.mem_cons.not.mpr (not_or.mpr ⟨hc, ih hcs hrest⟩)
  | case5 =>
    cases htext
    exact h
  | case6 => cases htext

theorem not_mem_shareMarker {cs : List Char} (h : 'Y' ∉ cs) (n : Nat) : 'Y' ∉ shareMarker n cs := by
  fun_induction shareMarker n cs with
  | case1 rest ih =>
    have htail := ih fun hmem => h (List.mem_cons_of_mem _ (List.mem_cons_of_mem _ hmem))
    exact fun hmem => (List.mem_append.mp hmem).elim (not_mem_placeholder n) htail
  | case2 c rest hmarker ih =>
    obtain ⟨hc, hcs⟩ := not_or.mp (List.mem_cons.not.mp h)
    exact List.mem_cons.not.mpr (not_or.mpr ⟨hc, ih hcs⟩)
  | case3 => exact h

def Call.texts : Call → List String
  | .guard fragment | .predicate fragment _ | .shared fragment _ => [fragment]
  | .offerIds fragment ids => (ids.map fun _ => fragment).toList
  | .eq column _ | .range column _ _ | .within column _ | .notWithin column _
  | .withinRadius column _ _ _ => [column]
  | .eqAny columns _ | .contains columns _ | .search columns _ => columns

def Call.array? : Call → Option Value
  | .within _ values => values
  | _ => none

/-- Which columns may be tested against which arrays. -/
abbrev Allowance := String → Value → Prop

section Allowed

variable {A : Allowance}

/-- The part opens no test, or one that is allowed. -/
def Part.TestsOnly (A : Allowance) (p : Part) : Prop :=
  'Y' ∉ p.fragment.toList ∨ ∃ column v, p = .numbered (withinFragment column) [v] ∧
    'Y' ∉ column.toList ∧ '$' ∉ column.toList ∧ A column v

structure Call.TestsOnly (A : Allowance) (call : Call) : Prop where
  texts : ∀ text ∈ call.texts, 'Y' ∉ text.toList
  arrays : ∀ v ∈ call.array?, ∀ column ∈ call.texts, '$' ∉ column.toList ∧ A column v

theorem not_mem_intercalate {c : Char} {separator : List Char} (hseparator : c ∉ separator)
    {texts : List (List Char)} (h : ∀ text ∈ texts, c ∉ text) :
    c ∉ separator.intercalate texts := by
  induction texts with
  | nil => exact List.not_mem_nil
  | cons first rest ih =>
    obtain ⟨hfirst, hrest⟩ := List.forall_mem_cons.mp h
    cases rest with
    | nil =>
      rw [List.intercalate_singleton]
      exact hfirst
    | cons second rest =>
      rw [List.intercalate_cons_cons]
      simp only [List.mem_append, not_or]
      exact ⟨⟨hfirst, hseparator⟩, ih hrest⟩

private theorem not_mem_anyOf {alternatives : List String}
    (h : ∀ alternative ∈ alternatives, 'Y' ∉ alternative.toList) :
    'Y' ∉ (anyOf alternatives).toList := by
  have hjoined : 'Y' ∉ " OR ".toList.intercalate (alternatives.map String.toList) :=
    not_mem_intercalate (by decide) (List.forall_mem_map.mpr h)
  simp only [anyOf, String.toList_append, String.toList_intercalate, List.mem_append, not_or]
  exact ⟨⟨by decide, hjoined⟩, by decide⟩

private theorem not_mem_behind {column : String} (h : 'Y' ∉ column.toList) {suffix : String}
    (hsuffix : 'Y' ∉ suffix.toList) : 'Y' ∉ (column ++ suffix).toList := by
  rw [String.toList_append]
  exact fun hmem => (List.mem_append.mp hmem).elim h hsuffix

private theorem not_mem_like {columns : List String} (h : ∀ column ∈ columns, 'Y' ∉ column.toList) :
    'Y' ∉ (likeFragment columns).toList := by
  have hall : ∀ text ∈ columns.map fun c => c ++ " ILIKE " ++ marker, 'Y' ∉ text.toList := by
    refine List.forall_mem_map.mpr fun column hmem => ?_
    exact not_mem_behind (not_mem_behind (h column hmem) (by decide)) (by decide)
  rw [likeFragment]
  split
  · next single heq => exact hall single (by rw [heq]; exact List.mem_singleton_self _)
  · exact not_mem_anyOf hall

theorem Call.TestsOnly.parts {call : Call} (h : call.TestsOnly A) :
    ∀ p ∈ call.parts, p.TestsOnly A := by
  obtain ⟨htexts, harrays⟩ := h
  intro p hp
  cases call with
  | within column values =>
    simp only [Call.parts, Option.mem_toList, Option.map_eq_some_iff] at hp
    obtain ⟨v, rfl, rfl⟩ := hp
    obtain ⟨hdollar, hA⟩ := harrays v rfl column (List.mem_singleton_self _)
    exact .inr ⟨column, v, rfl, htexts column (List.mem_singleton_self _), hdollar, hA⟩
  | guard fragment | predicate fragment values | shared fragment value =>
    cases List.mem_singleton.mp hp
    exact .inl (htexts fragment (List.mem_singleton_self _))
  | offerIds fragment ids =>
    simp only [Call.parts, Option.mem_toList, Option.map_eq_some_iff] at hp
    obtain ⟨v, rfl, rfl⟩ := hp
    exact .inl (htexts fragment (List.mem_singleton_self _))
  | eq column value =>
    simp only [Call.parts, Option.mem_toList, Option.map_eq_some_iff] at hp
    obtain ⟨v, -, rfl⟩ := hp
    have hcolumn := htexts column (List.mem_singleton_self _)
    exact .inl (not_mem_behind (not_mem_behind hcolumn (by decide)) (by decide))
  | eqAny columns value =>
    simp only [Call.parts, Option.mem_toList, Option.map_eq_some_iff] at hp
    obtain ⟨v, -, rfl⟩ := hp
    refine .inl (not_mem_anyOf (List.forall_mem_map.mpr fun column hmem => ?_))
    exact not_mem_behind (not_mem_behind (htexts column hmem) (by decide)) (by decide)
  | contains columns term | search columns term =>
    simp only [Call.parts, Option.mem_toList, Option.map_eq_some_iff] at hp
    obtain ⟨pattern, -, rfl⟩ := hp
    exact .inl (not_mem_like htexts)
  | range column least most =>
    have hcolumn := htexts column (List.mem_singleton_self _)
    simp only [Call.parts, List.mem_append, Option.mem_toList, Option.map_eq_some_iff] at hp
    obtain ⟨v, -, rfl⟩ | ⟨v, -, rfl⟩ := hp
    · exact .inl (not_mem_behind (not_mem_behind hcolumn (by decide)) (by decide))
    · exact .inl (not_mem_behind (not_mem_behind hcolumn (by decide)) (by decide))
  | notWithin column values =>
    simp only [Call.parts, Option.mem_toList, Option.map_eq_some_iff] at hp
    obtain ⟨v, -, rfl⟩ := hp
    have hcolumn := htexts column (List.mem_singleton_self _)
    refine .inl ?_
    simp only [Part.fragment, notWithinFragment, String.toList_append, List.mem_append, not_or]
    exact ⟨⟨⟨⟨⟨⟨by decide, hcolumn⟩, by decide⟩, hcolumn⟩, by decide⟩, by decide⟩, by decide⟩
  | withinRadius column lat lng radiusKm =>
    have hcolumn := htexts column (List.mem_singleton_self _)
    have hfragment : ∀ p ∈ (Call.withinRadius column lat lng radiusKm).parts,
        p.fragment = radiusFragment column := by
      simp only [Call.parts]
      split
      · exact fun p hp => congrArg Part.fragment (List.mem_singleton.mp hp)
      · exact fun p hp => absurd hp List.not_mem_nil
    refine .inl ?_
    rw [hfragment p hp]
    have hpoint : 'Y' ∉ ("ST_DWithin(" ++ column ++ ", ST_SetSRID(ST_MakePoint(").toList :=
      not_mem_behind (not_mem_behind (by decide) hcolumn) (by decide)
    have hmarker : 'Y' ∉ marker.toList := by decide
    have hcomma : 'Y' ∉ ", ".toList := by decide
    have hlngLat := not_mem_behind (not_mem_behind (not_mem_behind hpoint hmarker) hcomma) hmarker
    exact not_mem_behind (not_mem_behind (not_mem_behind hlngLat (by decide)) hmarker) (by decide)

def Holds (A : Allowance) (args : List Value) (column : String) (n : Nat) : Prop :=
  ∃ v, bound args n = some v ∧ A column v

theorem Holds.behind {args : List Value} {column : String} {n : Nat} (h : Holds A args column n)
    (later : List Value) : Holds A (args ++ later) column n := by
  obtain ⟨v, hv, hA⟩ := h
  refine ⟨v, ?_, hA⟩
  cases n with
  | zero => cases hv
  | succ n =>
    have hlt : n < args.length := (List.getElem?_eq_some_iff.mp hv).1
    rw [bound, List.getElem?_append_left hlt]
    exact hv

/-- What a part tests when its first number is that of the next value. -/
theorem Part.TestsOnly.text {p : Part} (hp : p.TestsOnly A) {args : List Value} {text : List Char}
    (htext : p.text (1 + args.length) = .ok text) : Tests (Holds A (args ++ p.values)) text := by
  obtain hnone | ⟨column, v, rfl, hcolumn, hdollar, hA⟩ := hp
  · refine (NoTest.of_not_mem ?_).tests
    cases p with
    | fixed fragment =>
      cases htext
      exact hnone
    | numbered fragment values => exact not_mem_numberMarkers hnone htext
    | shared fragment value =>
      rw [text_shared htext]
      exact not_mem_shareMarker hnone _
  · have hfront : '$' ∉ (column ++ " = ANY(").toList := by
      rw [String.toList_append]
      exact fun hmem => (List.mem_append.mp hmem).elim hdollar (by decide)
    rw [text_of_marker (column ++ " = ANY(") ")" hfront (by decide) htext, String.toList_append,
      List.append_assoc]
    refine tests_within (.of_not_mem hcolumn) ⟨v, ?_, hA⟩
    rw [Nat.add_comm, bound, List.getElem?_append_right (Nat.le_refl _), Nat.sub_self]
    rfl

structure Builder.Allowed (A : Allowance) (b : Builder) : Prop where
  next_eq : b.next = 1 + b.args.length
  tests : ∀ fragment ∈ b.fragments, Tests (Holds A b.args) fragment.toList

theorem Builder.Allowed.add {b b' : Builder} {p : Part} (h : b.Allowed A) (hp : p.TestsOnly A)
    (hadd : b.add p = .ok b') : b'.Allowed A := by
  obtain ⟨text, htext, rfl⟩ := Builder.add_eq_ok_iff.mp hadd
  have hnext := h.next_eq
  refine ⟨?_, fun fragment hmem => ?_⟩
  · simp only [List.length_append]
    omega
  · obtain hmem | hmem := List.mem_append.mp hmem
    · exact (h.tests fragment hmem).mono fun column n hheld => hheld.behind p.values
    · rw [List.mem_singleton.mp hmem, String.toList_ofList]
      rw [hnext] at htext
      exact hp.text htext

theorem Builder.foldlM_keeps {α : Type} {f : Builder → α → Except Fault Builder} {xs : List α}
    {P : Builder → Prop} (hstep : ∀ x ∈ xs, ∀ c c', P c → f c x = .ok c' → P c') {b b' : Builder}
    (h : P b) (hrun : xs.foldlM f b = .ok b') : P b' := by
  induction xs generalizing b with
  | nil =>
    cases hrun
    exact h
  | cons x xs ih =>
    obtain ⟨hx, hxs⟩ := List.forall_mem_cons.mp hstep
    obtain ⟨b₁, hfirst, hrest⟩ := Builder.foldlM_cons_ok hrun
    exact ih hxs (hx b b₁ h hfirst) hrest

theorem Builder.Allowed.apply {b b' : Builder} {call : Call} (h : b.Allowed A)
    (hcall : call.TestsOnly A) (happly : b.apply call = .ok b') : b'.Allowed A := by
  obtain ⟨stage, hparts⟩ := Builder.apply_eq_ok happly
  have hentered : Builder.Allowed A { b with stage } := ⟨h.next_eq, h.tests⟩
  exact foldlM_keeps (fun p hp c c' hc hadd => hc.add (hcall.parts p hp) hadd) hentered hparts

theorem Builder.Allowed.build {b : Builder} (h : b.Allowed A) :
    Tests (Holds A b.args) b.build.clause.toList := by
  simp only [Builder.build]
  split
  · exact NoTest.tests (by decide)
  · rw [String.toList_append, String.toList_intercalate]
    have hjoined := Tests.conjunction (List.forall_mem_map.mpr h.tests)
    exact (NoTest.tests (a := "WHERE".toList) (by decide)).blank hjoined

theorem compile_tests {calls : List Call} (h : Orderly calls)
    (hcalls : ∀ call ∈ calls, call.TestsOnly A) :
    ∃ c, compile calls = .ok c ∧ c.next + 2 ≤ placeholderLimit ∧
      Tests (Holds A c.args) c.clause.toList := by
  obtain ⟨b, hrun, hlimit⟩ := h.run
  have hstart : (Builder.startingAt 1).Allowed A := ⟨rfl, fun _ hmem => nomatch hmem⟩
  have hallowed : b.Allowed A := Builder.foldlM_keeps
    (fun call hmem c c' hc happly => hc.apply (hcalls call hmem) happly) hstart hrun
  exact ⟨b.build, by rw [compile, hrun]; rfl, hlimit, hallowed.build⟩

end Allowed

/-- Behind its guard, a restriction to offers is the first to bind a value. -/
theorem compile_offers {guard fragment : String} {ids : List Int64} {calls : List Call}
    (h : Orderly (.guard guard :: .offerIds fragment (some ids) :: calls)) :
    ∃ c text, compile (.guard guard :: .offerIds fragment (some ids) :: calls) = .ok c ∧
      c.next + 2 ≤ placeholderLimit ∧ numberMarkers 1 fragment.toList [.ints ids] = .ok text ∧
      text <:+: c.clause.toList ∧ c.args.head? = some (.ints ids) := by
  obtain ⟨b, hrun, hlimit⟩ := h.run
  obtain ⟨b₁, hguard, hrest⟩ := Builder.foldlM_cons_ok hrun
  obtain ⟨b₂, hoffers, hlater⟩ := Builder.foldlM_cons_ok hrest
  have hfirst : (Builder.startingAt 1).apply (.guard guard) = .ok ⟨[guard], [], 1, .guard, 1⟩ := rfl
  cases hfirst.symm.trans hguard
  obtain ⟨stage, hpart⟩ := Builder.apply_eq_ok hoffers
  obtain ⟨b₃, hadd, hdone⟩ := Builder.foldlM_cons_ok hpart
  cases hdone
  obtain ⟨text, htext, rfl⟩ := Builder.add_eq_ok_iff.mp hadd
  obtain ⟨fragments, values, hgrows⟩ := Builder.run_grows (fun call hmem =>
    (h.plain call (List.mem_cons_of_mem _ (List.mem_cons_of_mem _ hmem))).wellMarked) hlater
  have hfragments : b.fragments = guard :: String.ofList text :: fragments := hgrows.fragments_eq
  have hargs : b.args = .ints ids :: values := hgrows.args_eq
  refine ⟨b.build, text, by rw [compile, hrun]; rfl, hlimit, htext, ?_, ?_⟩
  · have hclause : b.build.clause = "WHERE " ++ String.intercalate " AND " b.fragments := by
      simp only [Builder.build]
      rw [if_neg (by simp [hfragments])]
    have hmem : text ∈ b.fragments.map String.toList := by
      rw [hfragments]
      simp
    rw [hclause, String.toList_append, String.toList_intercalate]
    exact (infix_intercalate hmem).trans (List.suffix_append _ _).isInfix
  · show b.args.head? = _
    rw [hargs]
    rfl

end Query

end FleetTrail
