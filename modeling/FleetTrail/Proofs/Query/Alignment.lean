import FleetTrail.Proofs.Query.Completion
import FleetTrail.Query.Page

/-!
# Placeholders and arguments stay aligned

Whatever calls a clause is built from, its placeholders count the arguments up from the first
number, in the order of the text, and the placeholders of a value stand in the fragments of the
call that binds it. The invariant is a relation between two builders, `Continues`: every part
added continues the clause, and what continues a continuation continues the whole.
-/

namespace FleetTrail.Query

def placeholdersOf (fragments : List String) : List Nat :=
  fragments.flatMap fun fragment => placeholdersIn fragment.toList

/-- `b'` goes on from `b` with fragments whose placeholders count up the values bound in them. -/
structure Continues (b b' : Builder) (fragments : List String) (values : List Value) : Prop where
  fragments_eq : b'.fragments = b.fragments ++ fragments
  args_eq : b'.args = b.args ++ values
  next_eq : b'.next = b.next + values.length
  numbered : ∀ fragment ∈ fragments, Numbered fragment.toList
  inOrder : (placeholdersOf fragments).eraseDups = List.range' b.next values.length

/-- A guard has no dollar sign; elsewhere dollar signs stand in markers only, and a value that is
shared is shared by at least one marker. -/
def Call.WellMarked : Call → Prop
  | .guard fragment => '$' ∉ fragment.toList
  | .offerIds fragment _ | .predicate fragment _ => Marked fragment.toList
  | .eq column _ | .range column _ _ | .within column _ | .notWithin column _
  | .withinRadius column _ _ _ => Marked column.toList
  | .eqAny columns value =>
    (∀ column ∈ columns, Marked column.toList) ∧ (value.isSome → columns ≠ [])
  | .contains columns term | .search columns term =>
    (∀ column ∈ columns, Marked column.toList) ∧ ((likePattern term).isSome → columns ≠ [])
  | .shared fragment _ => Marked fragment.toList ∧ marker.toList <:+: fragment.toList

def Part.WellMarked : Part → Prop
  | .fixed fragment => '$' ∉ fragment.toList
  | .numbered fragment _ => Marked fragment.toList
  | .shared fragment _ => Marked fragment.toList ∧ 0 < markers fragment.toList

section Fragments

variable {column : String} {columns : List String}

private theorem marked_behind (h : Marked column.toList) {suffix : String}
    (hsuffix : Marked suffix.toList) (hdigit : NoDigit suffix.toList) :
    Marked (column ++ suffix).toList := by
  rw [String.toList_append]
  exact h.append hsuffix hdigit

private theorem marked_operation (h : Marked column.toList) {operator : String}
    (hoperator : Marked (operator ++ marker).toList) (hdigit : NoDigit (operator ++ marker).toList) :
    Marked (column ++ operator ++ marker).toList := by
  rw [String.append_assoc]
  exact marked_behind h hoperator hdigit

private theorem marked_equals (h : Marked column.toList) : Marked (equalsFragment column).toList :=
  marked_operation h (by decide) (by decide)

private theorem marked_anyOf {alternatives : List String}
    (h : ∀ alternative ∈ alternatives, Marked alternative.toList) :
    Marked (anyOf alternatives).toList := by
  simp only [anyOf, String.toList_append, String.toList_intercalate, List.append_assoc]
  have hjoined : Marked (List.intercalate " OR ".toList (alternatives.map String.toList)) :=
    Marked.intercalate (by decide) (by decide) (by decide) (List.forall_mem_map.mpr h)
  exact Marked.prepend (by decide) (hjoined.append (by decide) (by decide))

private theorem markers_anyOf {alternatives : List String} {alternative : String}
    (hmem : alternative ∈ alternatives) (h : marker.toList <:+: alternative.toList) :
    0 < markers (anyOf alternatives).toList := by
  simp only [anyOf, String.toList_append, String.toList_intercalate, List.append_assoc]
  have hjoined : alternative.toList <:+:
      List.intercalate " OR ".toList (alternatives.map String.toList) :=
    infix_intercalate (List.mem_map_of_mem hmem)
  exact markers_pos (h.trans (hjoined.trans ⟨"(".toList, ")".toList, by simp⟩))

private theorem shared_equals (h : ∀ column ∈ columns, Marked column.toList)
    (hne : columns ≠ []) (value : Value) :
    (Part.shared (anyOf (columns.map equalsFragment)) value).WellMarked := by
  obtain ⟨column, hmem⟩ := List.exists_mem_of_ne_nil columns hne
  refine ⟨marked_anyOf (List.forall_mem_map.mpr fun column hcolumn =>
    marked_equals (h column hcolumn)), markers_anyOf (List.mem_map_of_mem hmem) ?_⟩
  rw [equalsFragment, String.toList_append]
  exact (List.suffix_append _ _).isInfix

private theorem shared_like (h : ∀ column ∈ columns, Marked column.toList)
    (hne : columns ≠ []) (value : Value) :
    (Part.shared (likeFragment columns) value).WellMarked := by
  have hmarked : ∀ text ∈ columns.map fun c => c ++ " ILIKE " ++ marker, Marked text.toList := by
    refine List.forall_mem_map.mpr fun column hcolumn => ?_
    exact marked_operation (h column hcolumn) (by decide) (by decide)
  have hmarker : ∀ text ∈ columns.map fun c => c ++ " ILIKE " ++ marker,
      marker.toList <:+: text.toList := by
    refine List.forall_mem_map.mpr fun column _ => ?_
    rw [String.toList_append]
    exact (List.suffix_append _ _).isInfix
  have hnonempty : (columns.map fun c => c ++ " ILIKE " ++ marker) ≠ [] := by
    simpa using hne
  rw [likeFragment]
  generalize columns.map (fun c => c ++ " ILIKE " ++ marker) = alternatives at *
  split
  · next single =>
    exact ⟨hmarked single List.mem_cons_self, markers_pos (hmarker single List.mem_cons_self)⟩
  · obtain ⟨alternative, hmem⟩ := List.exists_mem_of_ne_nil alternatives hnonempty
    exact ⟨marked_anyOf hmarked, markers_anyOf hmem (hmarker alternative hmem)⟩

private theorem marked_notWithin (h : Marked column.toList) :
    Marked (notWithinFragment column).toList := by
  simp only [notWithinFragment, String.toList_append, List.append_assoc]
  have hback : Marked (" <> ALL(".toList ++ (marker.toList ++ "))".toList)) := by decide
  have hsecond := Marked.prepend (a := " IS NULL OR ".toList) (by decide)
    (h.append hback (by decide))
  exact Marked.prepend (by decide)
    (h.append hsecond (NoDigit.of_ne_nil (by decide) (by decide) _))

private theorem marked_radius (h : Marked column.toList) :
    Marked (radiusFragment column).toList := by
  unfold radiusFragment
  simp only [String.toList_append, List.append_assoc]
  exact Marked.prepend (by decide) (h.append (by decide +kernel) (by decide))

theorem Call.WellMarked.parts {call : Call} (h : call.WellMarked) :
    ∀ p ∈ call.parts, p.WellMarked := by
  intro p hp
  cases call with
  | guard fragment =>
    rw [List.mem_singleton.mp hp]
    exact h
  | offerIds fragment ids =>
    obtain ⟨ids, -, rfl⟩ := Option.map_eq_some_iff.mp (Option.mem_toList.mp hp)
    exact h
  | eq column value =>
    obtain ⟨v, -, rfl⟩ := Option.map_eq_some_iff.mp (Option.mem_toList.mp hp)
    exact marked_equals h
  | eqAny columns value =>
    obtain ⟨v, hv, rfl⟩ := Option.map_eq_some_iff.mp (Option.mem_toList.mp hp)
    exact shared_equals h.1 (h.2 (by rw [hv]; rfl)) v
  | contains columns term | search columns term =>
    obtain ⟨pattern, hpattern, rfl⟩ := Option.map_eq_some_iff.mp (Option.mem_toList.mp hp)
    exact shared_like h.1 (h.2 (by rw [hpattern]; rfl)) _
  | range column least most =>
    simp only [Call.parts, List.mem_append, Option.mem_toList, Option.map_eq_some_iff] at hp
    rcases hp with ⟨v, -, rfl⟩ | ⟨v, -, rfl⟩
    · exact marked_operation h (by decide) (by decide)
    · exact marked_operation h (by decide) (by decide)
  | within column values =>
    obtain ⟨v, -, rfl⟩ := Option.map_eq_some_iff.mp (Option.mem_toList.mp hp)
    show Marked (withinFragment column).toList
    rw [withinFragment, String.append_assoc, String.append_assoc]
    exact marked_behind h (by decide) (by decide)
  | notWithin column values =>
    obtain ⟨v, -, rfl⟩ := Option.map_eq_some_iff.mp (Option.mem_toList.mp hp)
    exact marked_notWithin h
  | withinRadius column lat lng radiusKm =>
    simp only [Call.parts] at hp
    split at hp
    · rw [List.mem_singleton.mp hp]
      exact marked_radius h
    · cases hp
  | predicate fragment values =>
    rw [List.mem_singleton.mp hp]
    exact h
  | shared fragment value =>
    rw [List.mem_singleton.mp hp]
    exact ⟨h.1, markers_pos h.2⟩

end Fragments

private theorem eraseDups_replicate (n m : Nat) : (List.replicate (m + 1) n).eraseDups = [n] := by
  rw [List.replicate_succ, List.eraseDups_cons, List.filter_eq_nil_iff.mpr, List.eraseDups_nil]
  intro k hk
  simp [List.eq_of_mem_replicate hk]

private theorem eraseDups_range' (n m : Nat) :
    (List.range' n m).eraseDups = List.range' n m := by
  induction m generalizing n with
  | zero => rfl
  | succ m ih =>
    rw [List.range'_succ, List.eraseDups_cons, List.filter_eq_self.mpr, ih]
    intro k hk
    have hlt := (List.mem_range'_1.mp hk).1
    simpa using Nat.ne_of_gt hlt

/-- Numbers that go on where others end keep the order of first occurrences. -/
private theorem eraseDups_append_range' {ns ms : List Nat} {first n m : Nat}
    (hns : ns.eraseDups = List.range' first n) (hms : ms.eraseDups = List.range' (first + n) m) :
    (ns ++ ms).eraseDups = List.range' first (n + m) := by
  have hnew : ms.removeAll ns = ms := by
    refine List.filter_eq_self.mpr fun k hk => ?_
    have hle : first + n ≤ k := by
      rw [← List.mem_eraseDups, hms] at hk
      exact (List.mem_range'_1.mp hk).1
    have hnot : k ∉ ns := by
      rw [← List.mem_eraseDups, hns]
      intro hmem
      have hlt := (List.mem_range'_1.mp hmem).2
      omega
    simpa using hnot
  rw [List.eraseDups_append, hnew, hns, hms, List.range'_append_1]

theorem Part.WellMarked.text {p : Part} (h : p.WellMarked) {n : Nat} {text : List Char}
    (htext : p.text n = .ok text) :
    Numbered text ∧ (placeholdersIn text).eraseDups = List.range' n p.values.length := by
  cases p with
  | fixed fragment =>
    cases htext
    exact ⟨numbered_of_no_dollar h, by rw [placeholdersIn_of_no_dollar h]; rfl⟩
  | numbered fragment values =>
    obtain ⟨hnumbers, hnumbered, -⟩ := numberMarkers_ok h htext
    exact ⟨hnumbered, by rw [hnumbers, eraseDups_range']; rfl⟩
  | shared fragment value =>
    rw [Part.text_shared htext]
    obtain ⟨hnumbers, hnumbered, -⟩ := shareMarker_eq n h.1
    obtain ⟨m, hm⟩ := Nat.exists_eq_succ_of_ne_zero (Nat.ne_of_gt h.2)
    exact ⟨hnumbered, by rw [hnumbers, hm, eraseDups_replicate]; rfl⟩

namespace Continues

theorem refl (b : Builder) : Continues b b [] [] where
  fragments_eq := (List.append_nil _).symm
  args_eq := (List.append_nil _).symm
  next_eq := rfl
  numbered := fun _ h => nomatch h
  inOrder := rfl

theorem trans {b₁ b₂ b₃ : Builder} {fragments fragments' : List String}
    {values values' : List Value} (h : Continues b₁ b₂ fragments values)
    (h' : Continues b₂ b₃ fragments' values') :
    Continues b₁ b₃ (fragments ++ fragments') (values ++ values') where
  fragments_eq := by rw [h'.fragments_eq, h.fragments_eq, List.append_assoc]
  args_eq := by rw [h'.args_eq, h.args_eq, List.append_assoc]
  next_eq := by rw [h'.next_eq, h.next_eq, List.length_append, Nat.add_assoc]
  numbered := fun fragment hmem =>
    (List.mem_append.mp hmem).elim (h.numbered fragment) (h'.numbered fragment)
  inOrder := by
    have hrest := h'.inOrder
    rw [h.next_eq] at hrest
    rw [placeholdersOf, List.flatMap_append, List.length_append]
    exact eraseDups_append_range' h.inOrder hrest

end Continues

namespace Builder

/-- A builder that goes on from another one with some fragments. -/
def Grows (b b' : Builder) : Prop := ∃ fragments values, Continues b b' fragments values

theorem Grows.trans {b₁ b₂ b₃ : Builder} (h : Grows b₁ b₂) (h' : Grows b₂ b₃) : Grows b₁ b₃ := by
  obtain ⟨_, _, h⟩ := h
  obtain ⟨_, _, h'⟩ := h'
  exact ⟨_, _, h.trans h'⟩

private theorem foldlM_grows {α : Type} {f : Builder → α → Except Fault Builder} {xs : List α}
    (hstep : ∀ x ∈ xs, ∀ c c', f c x = .ok c' → Grows c c') {b b' : Builder}
    (h : xs.foldlM f b = .ok b') : Grows b b' := by
  induction xs generalizing b with
  | nil =>
    cases h
    exact ⟨_, _, Continues.refl _⟩
  | cons x xs ih =>
    obtain ⟨b₁, hx, hrest⟩ := foldlM_cons_ok h
    obtain ⟨hfirst, htail⟩ := List.forall_mem_cons.mp hstep
    exact (hfirst b b₁ hx).trans (ih htail hrest)

theorem add_grows {b b' : Builder} {p : Part} (hp : p.WellMarked) (h : b.add p = .ok b') :
    Grows b b' := by
  obtain ⟨text, htext, rfl⟩ := add_eq_ok_iff.mp h
  obtain ⟨hnumbered, hnumbers⟩ := hp.text htext
  refine ⟨[String.ofList text], p.values, rfl, rfl, rfl, ?_, ?_⟩
  · intro fragment hfragment
    rw [List.mem_singleton.mp hfragment, String.toList_ofList]
    exact hnumbered
  · rw [placeholdersOf, List.flatMap_singleton, String.toList_ofList]
    exact hnumbers

theorem apply_grows {b b' : Builder} {call : Call} (hcall : call.WellMarked)
    (h : b.apply call = .ok b') : Grows b b' := by
  obtain ⟨stage, hparts⟩ := apply_eq_ok h
  obtain ⟨fragments, values, hgrows⟩ :=
    foldlM_grows (fun p hp _ _ => add_grows (hcall.parts p hp)) hparts
  -- the stage is no part of what a builder has written
  exact ⟨fragments, values, hgrows.1, hgrows.2, hgrows.3, hgrows.4, hgrows.5⟩

theorem run_grows {b b' : Builder} {calls : List Call} (hcalls : ∀ call ∈ calls, call.WellMarked)
    (h : calls.foldlM apply b = .ok b') : Grows b b' :=
  foldlM_grows (fun call hmem _ _ => apply_grows (hcalls call hmem)) h

end Builder

def Compiled.paged (c : Compiled) (page : Page) : Except Fault Compiled := do
  let (text, bound) ← c.limitClause page.limit page.offset
  return { bound with clause := c.clause ++ " " ++ text }

/-- The placeholders of a text count its arguments up from `first`, each where it first occurs,
and every dollar sign belongs to a placeholder. -/
structure Compiled.Aligned (first : Nat) (c : Compiled) : Prop where
  next_eq : c.next = first + c.args.length
  inOrder : (placeholdersIn c.clause.toList).eraseDups = List.range' first c.args.length
  numbered : Numbered c.clause.toList

def Page.values (page : Page) : List Value := [.int page.limit, .int page.offset]

private theorem aligned_build {first : Nat} {b : Builder}
    (h : Builder.Grows (Builder.startingAt first) b) : b.build.Aligned first := by
  obtain ⟨fragments, values, h⟩ := h
  have hfragments : b.fragments = fragments := h.fragments_eq
  have hargs : b.args = values := h.args_eq
  have hclause : placeholdersIn b.build.clause.toList = placeholdersOf fragments ∧
      Numbered b.build.clause.toList := by
    simp only [Builder.build, hfragments]
    split
    · next hempty =>
      rw [List.isEmpty_iff.mp hempty]
      exact ⟨rfl, trivial⟩
    · rw [String.toList_append, String.toList_intercalate]
      refine ⟨?_, (numbered_of_no_dollar (by decide)).append
        (Numbered.intercalate (by decide) (List.forall_mem_map.mpr h.numbered))⟩
      rw [placeholdersIn_append_of_no_dollar (by decide),
        placeholdersIn_intercalate (by decide) (by decide) (by decide), List.flatMap_map]
      rfl
  refine ⟨?_, ?_, hclause.2⟩
  · show b.next = first + b.args.length
    rw [h.next_eq, hargs]
    rfl
  · show (placeholdersIn b.build.clause.toList).eraseDups = List.range' first b.args.length
    rw [hclause.1, h.inOrder, hargs]
    rfl

private theorem aligned_paged {first : Nat} {c : Compiled} (h : c.Aligned first) (page : Page)
    (hlimit : first + c.args.length + 2 ≤ placeholderLimit) :
    ∃ c', c.paged page = .ok c' ∧ c'.Aligned first ∧ c'.args = c.args ++ page.values := by
  have hnext := h.next_eq
  have hok : ¬placeholderLimit < c.next + 2 := by omega
  refine ⟨_, by rw [Compiled.paged, Compiled.limitClause, if_neg hok]; rfl, ⟨?_, ?_, ?_⟩, rfl⟩
  · simp only [List.length_append, List.length_cons, List.length_nil]
    omega
  · simp only [String.toList_append, String.toList_ofList, List.append_assoc]
    rw [placeholdersIn_append (NoDigit.of_ne_nil (by decide) (by decide) _),
      placeholdersIn_append_of_no_dollar (by decide), placeholdersIn_append_of_no_dollar (by decide),
      placeholdersIn_append (NoDigit.of_ne_nil (by decide) (by decide) _),
      placeholdersIn_placeholder, placeholdersIn_append_of_no_dollar (by decide),
      placeholdersIn_placeholder]
    have hnew : [c.next, c.next + 1].eraseDups = List.range' (first + c.args.length) 2 := by
      rw [hnext]
      exact eraseDups_range' (first + c.args.length) 2
    rw [List.length_append]
    exact eraseDups_append_range' h.inOrder hnew
  · simp only [String.toList_append, String.toList_ofList]
    have hback := (numbered_of_no_dollar (show '$' ∉ " OFFSET ".toList by decide)).append
      (numbered_placeholder (c.next + 1))
    have hfront := (numbered_of_no_dollar (show '$' ∉ "LIMIT ".toList by decide)).append
      (numbered_placeholder c.next)
    rw [List.append_assoc ("LIMIT ".toList ++ placeholder c.next)]
    exact (h.numbered.append (numbered_of_no_dollar (by decide))).append (hfront.append hback)

theorem Compiled.Aligned.pages {first : Nat} {c : Compiled} (h : c.Aligned first)
    {pages : List Page}
    (hlimit : first + c.args.length + 2 * pages.length ≤ placeholderLimit) :
    ∃ c', pages.foldlM Compiled.paged c = .ok c' ∧ c'.Aligned first ∧
      c'.args = c.args ++ pages.flatMap Page.values := by
  induction pages generalizing c with
  | nil => exact ⟨c, rfl, h, (List.append_nil _).symm⟩
  | cons page pages ih =>
    rw [List.length_cons] at hlimit
    obtain ⟨c₁, hpage, haligned, hargs⟩ := aligned_paged h page (by omega)
    have hlength : c₁.args.length = c.args.length + 2 := by
      rw [hargs, List.length_append]
      rfl
    obtain ⟨c', hpages, haligned', hargs'⟩ := ih haligned (by omega)
    refine ⟨c', ?_, haligned', ?_⟩
    · rw [List.foldlM_cons, hpage]
      exact hpages
    · rw [hargs', hargs, List.append_assoc, List.flatMap_cons]

/-- Every call in a run is reached by the calls before it and continued by the calls behind it. -/
private theorem run_split {b b' : Builder} {before after : List Call} {call : Call}
    (h : (before ++ call :: after).foldlM Builder.apply b = .ok b') :
    ∃ b₁ b₂, before.foldlM Builder.apply b = .ok b₁ ∧ b₁.apply call = .ok b₂ ∧
      after.foldlM Builder.apply b₂ = .ok b' := by
  rw [List.foldlM_append] at h
  cases hbefore : before.foldlM Builder.apply b with
  | error fault => rw [hbefore] at h; cases h
  | ok b₁ =>
    rw [hbefore] at h
    obtain ⟨b₂, hcall, hafter⟩ := Builder.foldlM_cons_ok h
    exact ⟨b₁, b₂, rfl, hcall, hafter⟩

theorem Call.Plain.wellMarked {call : Call} (h : call.Plain) : call.WellMarked := by
  cases call with
  | guard fragment => exact h
  | offerIds fragment ids => exact h.1
  | eqAny columns value | contains columns term | search columns term =>
    exact ⟨fun column hmem => marked_of_no_dollar (h.2 column hmem), fun _ => h.1⟩
  | eq column value | range column least most | within column values | notWithin column values
  | withinRadius column lat lng radiusKm => exact marked_of_no_dollar h
  | predicate fragment values | shared fragment value => exact h.elim

def CompletesAligned (result : Except Fault Compiled) : Prop :=
  ∃ c, result = .ok c ∧ ∀ pages : List Page,
    1 + c.args.length + 2 * pages.length ≤ placeholderLimit →
    ∃ c', pages.foldlM Compiled.paged c = .ok c' ∧ c'.Aligned 1 ∧
      c'.args = c.args ++ pages.flatMap Page.values ∧ ¬marker.toList <:+: c'.clause.toList

private theorem Orderly.completesAligned {calls : List Call} (h : Orderly calls) :
    CompletesAligned (compile calls) := by
  obtain ⟨b, hrun, -⟩ := h.run
  have hgrows := Builder.run_grows (fun call hmem => (h.plain call hmem).wellMarked) hrun
  refine ⟨b.build, by rw [compile, hrun]; rfl, fun pages hlimit => ?_⟩
  obtain ⟨c', hpages, haligned, hargs⟩ := (aligned_build hgrows).pages hlimit
  exact ⟨c', hpages, haligned, hargs, haligned.numbered.no_marker⟩

/-- Placeholders count the arguments, call by call and in the whole text with its pages. All
filters complete such a text. -/
theorem placeholders_count_arguments :
    (∀ (first : Nat) (calls : List Call) (b : Builder) (pages : List Page),
      (∀ call ∈ calls, call.WellMarked) →
      calls.foldlM Builder.apply (Builder.startingAt first) = .ok b →
      first + b.args.length + 2 * pages.length ≤ placeholderLimit →
      (∀ before call after, calls = before ++ call :: after →
        ∃ b₁ b₂ fragments values,
          before.foldlM Builder.apply (Builder.startingAt first) = .ok b₁ ∧
          b₁.apply call = .ok b₂ ∧
          b₁.next = first + b₁.args.length ∧ b₂.next = first + b₂.args.length ∧
          Continues b₁ b₂ fragments values ∧ b₂.Grows b) ∧
      ∃ c, pages.foldlM Compiled.paged b.build = .ok c ∧ c.Aligned first ∧
        c.args = b.args ++ pages.flatMap Page.values ∧ ¬marker.toList <:+: c.clause.toList) ∧
    (∀ (f : Trip.Filter) offerIds, CompletesAligned (f.compile offerIds)) ∧
    (∀ (f : Telemetry.Filter) offerIds, CompletesAligned (f.compile offerIds)) ∧
    (∀ (s : Telemetry.Selector) offerIds, CompletesAligned (s.compile offerIds)) ∧
    (∀ f : Offer.Filter, CompletesAligned f.compile) := by
  refine ⟨fun first calls b pages hcalls hrun hlimit => ⟨?_, ?_⟩,
    fun f offerIds => (f.orderly offerIds).completesAligned,
    fun f offerIds => (f.orderly offerIds).completesAligned,
    fun s offerIds => (s.orderly offerIds).completesAligned,
    fun f => f.orderly.completesAligned⟩
  · rintro before call after rfl
    obtain ⟨hbefore, hcall, hafter⟩ : (∀ c ∈ before, c.WellMarked) ∧ call.WellMarked ∧
        ∀ c ∈ after, c.WellMarked := by
      simpa [or_imp, forall_and] using hcalls
    obtain ⟨b₁, b₂, hrun₁, happly, hrun₂⟩ := run_split hrun
    obtain ⟨_, _, hfirst⟩ := Builder.run_grows hbefore hrun₁
    obtain ⟨fragments, values, hcontinues⟩ := Builder.apply_grows hcall happly
    have hnext₁ : b₁.next = first + b₁.args.length := by
      rw [hfirst.next_eq, hfirst.args_eq]
      rfl
    have hnext₂ : b₂.next = first + b₂.args.length := by
      rw [hcontinues.next_eq, hcontinues.args_eq, List.length_append, hnext₁, Nat.add_assoc]
    exact ⟨b₁, b₂, fragments, values, hrun₁, happly, hnext₁, hnext₂, hcontinues,
      Builder.run_grows hafter hrun₂⟩
  · have haligned := aligned_build (Builder.run_grows hcalls hrun)
    obtain ⟨c, hpages, haligned', hargs⟩ := haligned.pages hlimit
    exact ⟨c, hpages, haligned', hargs, haligned'.numbered.no_marker⟩

/-- A run from three, with a shared value, a bound on each side and a page. -/
theorem placeholders_count_from_three :
    let calls : List Call := [.guard "o.deleted = false",
      .eqAny ["o.company_id", "o.exec_company_id"] (some (.int 7)),
      .range "o.price" (some (.int 1)) (some (.int 9))]
    ∃ b c, calls.foldlM Builder.apply (Builder.startingAt 3) = .ok b ∧
      [Page.mk 10 20].foldlM Compiled.paged b.build = .ok c ∧ c.Aligned 3 ∧
      c.args = [.int 7, .int 1, .int 9, .int 10, .int 20] := by
  intro calls
  have hcalls : ∀ call ∈ calls, call.WellMarked := by
    simp only [calls, List.forall_mem_cons, List.not_mem_nil, false_implies, implies_true, and_true,
      Call.WellMarked]
    decide +kernel
  obtain ⟨b, hrun, hargs⟩ : ∃ b, calls.foldlM Builder.apply (Builder.startingAt 3) = .ok b ∧
      b.args = [.int 7, .int 1, .int 9] := ⟨_, rfl, rfl⟩
  have hlimit : 3 + b.args.length + 2 * [Page.mk 10 20].length ≤ placeholderLimit := by
    rw [hargs]
    decide
  obtain ⟨-, c, hpages, haligned, hvalues, -⟩ :=
    placeholders_count_arguments.1 3 calls b [Page.mk 10 20] hcalls hrun hlimit
  exact ⟨b, c, hrun, hpages, haligned, by rw [hvalues, hargs]; rfl⟩

end FleetTrail.Query
