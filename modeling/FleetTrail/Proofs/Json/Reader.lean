import FleetTrail.Proofs.Json.Grammar

/-!
# The reader follows the grammar

What the reader takes off a text is what the grammar derives in front of it, and the other way
round. The steps that the reader is given always suffice, so none of its refusals is due to them.
-/

namespace FleetTrail.Json

private theorem word_eq_some {expected cs rest : List Char} {u v : Value}
    (h : word expected u cs = some (v, rest)) : v = u ∧ cs = expected ++ rest := by
  unfold word at h
  split at h
  next hp =>
    cases h
    obtain ⟨behind, rfl⟩ := List.isPrefixOf_iff_prefix.mp hp
    exact ⟨rfl, by rw [List.drop_left]⟩
  next => cases h

def putFields (done fs : List (String × Value)) : List (String × Value) :=
  fs.foldl (fun r f => putField f.1 f.2 r) done

/-- One reading step less; the four parts of the reader derive what they read. -/
private structure Sound (fuel : Nat) : Prop where
  value {depth : Nat} {cs rest : List Char} {v : Value}
    (h : Json.value fuel depth cs = some (v, rest)) : Reads depth (.value v) cs rest
  items {depth : Nat} {done : List Value} {cs rest : List Char} {v : Value}
    (h : Json.items fuel depth done cs = some (v, rest)) :
    ∃ vs, v = .list (done.reverse ++ vs) ∧ Reads depth (.items vs) cs rest
  embedded {depth : Nat} {cs rest : List Char} {v : Value}
    (h : Json.embedded fuel cs = some (v, rest)) : Reads depth (.embedding v) cs rest
  fields {depth : Nat} {done : List (String × Value)} {cs rest : List Char} {v : Value}
    (h : Json.fields fuel depth done cs = some (v, rest)) :
    (∃ fs, v = .record (putFields done fs) ∧ Reads depth (.fields fs) cs rest ∧
        (done = [] → fs.head?.map Prod.fst ≠ some embeddingName)) ∨
      (done = [] ∧ ∃ behind, Named cs embeddingName behind ∧
        Reads depth (.embedding v) (skip behind) rest)

private theorem putField_ne_nil (name : String) (v : Value) (fields : List (String × Value)) :
    putField name v fields ≠ [] := by
  cases fields with
  | nil => simp [putField]
  | cons f rest =>
    simp only [putField]
    split
    · simp
    · split <;> simp

section Sound

variable {fuel depth : Nat} {cs rest : List Char} {v : Value}

private theorem Sound.value_succ (ih : Sound fuel)
    (h : Json.value (fuel + 1) depth cs = some (v, rest)) : Reads depth (.value v) cs rest := by
  unfold Json.value at h
  split at h
  · obtain ⟨rfl, hcs⟩ := word_eq_some h
    rw [hcs]
    exact .null
  · obtain ⟨rfl, hcs⟩ := word_eq_some h
    rw [hcs]
    exact .truth
  · obtain ⟨rfl, hcs⟩ := word_eq_some h
    rw [hcs]
    exact .falsity
  next front =>
    obtain ⟨⟨s, behind⟩, hs, heq⟩ := Option.map_eq_some_iff.mp h
    cases heq
    have htext : Reads depth (.value (.text (String.ofList s.toList))) ('"' :: front) behind :=
      .text (textTail_eq_some_iff.mp hs)
    rwa [String.ofList_toList] at htext
  · split at h
    · cases h
    · split at h
      next hend =>
        cases h
        exact .noItems hend
      next =>
        obtain ⟨vs, rfl, hvs⟩ := ih.items h
        exact .list hvs
  · split at h
    · cases h
    · split at h
      next hend =>
        cases h
        exact .noFields hend
      next =>
        obtain ⟨fs, rfl, hfs, hopen⟩ | ⟨-, behind, hname, hv⟩ := ih.fields h
        · exact .record (hopen rfl) hfs
        · exact .embedded hname hv
  · exact .number h

private theorem Sound.items_succ (ih : Sound fuel) {done : List Value}
    (h : Json.items (fuel + 1) depth done cs = some (v, rest)) :
    ∃ vs, v = .list (done.reverse ++ vs) ∧ Reads depth (.items vs) cs rest := by
  unfold Json.items at h
  split at h
  · cases h
  next u after hu =>
    split at h
    next behind hcomma =>
      obtain ⟨vs, rfl, hvs⟩ := ih.items h
      exact ⟨u :: vs, by simp, .item (ih.value hu) hcomma hvs⟩
    next behind hend =>
      cases h
      exact ⟨[u], by simp, .lastItem (ih.value hu) hend⟩
    next => cases h

private theorem Sound.embedded_succ (ih : Sound fuel)
    (h : Json.embedded (fuel + 1) cs = some (v, rest)) :
    Reads depth (.embedding v) cs rest := by
  unfold Json.embedded at h
  split at h
  next front =>
    split at h
    · cases h
    next text after htext =>
      split at h
      next behind hend =>
        split at h
        · cases h
        next u ending hu =>
          split at h
          next hblank =>
            cases h
            exact .embedding (textTail_eq_some_iff.mp htext) hend (ih.value hu)
              (List.isEmpty_iff.mp hblank)
          next => cases h
      next => cases h
  next => cases h

private theorem Sound.fields_succ (ih : Sound fuel) {done : List (String × Value)}
    (h : Json.fields (fuel + 1) depth done cs = some (v, rest)) :
    (∃ fs, v = .record (putFields done fs) ∧ Reads depth (.fields fs) cs rest ∧
        (done = [] → fs.head?.map Prod.fst ≠ some embeddingName)) ∨
      (done = [] ∧ ∃ behind, Named cs embeddingName behind ∧
        Reads depth (.embedding v) (skip behind) rest) := by
  unfold Json.fields at h
  split at h
  case h_2 => cases h
  next front =>
  split at h
  · cases h
  next name after hname =>
  split at h
  case h_2 => cases h
  next behind hcolon =>
  have hnamed : Named ('"' :: front) name behind :=
    ⟨front, after, rfl, textTail_eq_some_iff.mp hname, hcolon⟩
  split at h
  next hembedding =>
    obtain ⟨hdone, hembedding⟩ := Bool.and_eq_true_iff.mp hembedding
    rw [eq_of_beq hembedding] at hnamed
    exact .inr ⟨List.isEmpty_iff.mp hdone, behind, hnamed, ih.embedded h⟩
  next hembedding =>
    have hopen : done = [] → name ≠ embeddingName := by
      intro hdone hsame
      simp [hdone, hsame] at hembedding
    split at h
    · cases h
    next u ending hu =>
      split at h
      next next hcomma =>
        obtain ⟨fs, rfl, hfs, -⟩ | ⟨hdone, -⟩ := ih.fields h
        · refine .inl ⟨(name, u) :: fs, rfl, .field hnamed (ih.value hu) hcomma hfs, ?_⟩
          intro hdone
          simpa using hopen hdone
        · exact absurd hdone (putField_ne_nil name u done)
      next behind' hend =>
        cases h
        refine .inl ⟨[(name, u)], rfl, .lastField hnamed (ih.value hu) hend, ?_⟩
        intro hdone
        simpa using hopen hdone
      next => cases h

private theorem sound (fuel : Nat) : Sound fuel := by
  -- The four parts call one another with one step less, so they are taken together.
  induction fuel with
  | zero => constructor <;> intros <;> contradiction
  | succ fuel ih => exact ⟨ih.value_succ, ih.items_succ, ih.embedded_succ, ih.fields_succ⟩

end Sound

private theorem Reads.opening {depth : Nat} {p : Phrase} {cs rest : List Char}
    (h : Reads depth p cs rest) : ∃ c front, cs = c :: front ∧ c ≠ ']' ∧ c ≠ '\x7d' := by
  induction h with
  | null => exact ⟨'n', _, rfl, by decide, by decide⟩
  | truth => exact ⟨'t', _, rfl, by decide, by decide⟩
  | falsity => exact ⟨'f', _, rfl, by decide, by decide⟩
  | number h =>
    obtain ⟨-, c, front, rfl, rfl | hc, -⟩ := number_takes h
    · exact ⟨'-', front, rfl, by decide, by decide⟩
    · refine ⟨c, front, rfl, ?_, ?_⟩
      all_goals
        rintro rfl
        cases hc
  | text | embedding => exact ⟨'"', _, rfl, by decide, by decide⟩
  | noItems | list => exact ⟨'[', _, rfl, by decide, by decide⟩
  | noFields | record | embedded => exact ⟨'\x7b', _, rfl, by decide, by decide⟩
  | lastItem _ _ ih => exact ih
  | item _ _ _ ih => exact ih
  | lastField hname =>
    obtain ⟨front, _, rfl, -⟩ := hname
    exact ⟨'"', front, rfl, by decide, by decide⟩
  | field hname =>
    obtain ⟨front, _, rfl, -⟩ := hname
    exact ⟨'"', front, rfl, by decide, by decide⟩

private theorem Named.length_lt {cs behind : List Char} {name : String} (h : Named cs name behind) :
    behind.length < cs.length := by
  obtain ⟨front, after, rfl, hname, hcolon⟩ := h
  have := hname.length_add
  have := behind_lt hcolon
  simp only [List.length_cons]
  omega

/-- Reading a phrase with enough fuel takes off what the grammar takes off. -/
private def Complete (depth : Nat) (p : Phrase) (cs rest : List Char) : Prop :=
  rest.length < cs.length ∧ ∀ fuel, 2 * cs.length ≤ fuel →
  match p with
  | .value v => value (fuel + 1) depth cs = some (v, rest)
  | .items vs => ∀ done, items (fuel + 2) depth done cs = some (.list (done.reverse ++ vs), rest)
  | .embedding v => embedded (fuel + 1) cs = some (v, rest)
  | .fields fs => ∀ done, (done = [] → fs.head?.map Prod.fst ≠ some embeddingName) →
      fields (fuel + 1) depth done cs = some (.record (putFields done fs), rest)

private theorem value_number {fuel depth : Nat} {cs rest : List Char} {v : Value}
    (h : number cs = some (v, rest)) : value (fuel + 1) depth cs = some (v, rest) := by
  obtain ⟨-, c, front, rfl, hc, -⟩ := number_takes h
  have hother (d : Char) (hd : d ≠ '-') (hdigit : Number.isDigit d = false) : c ≠ d := by
    rintro rfl
    obtain hc | hc := hc
    · exact hd hc
    · rw [hdigit] at hc
      cases hc
  unfold Json.value
  split
  next heq => exact absurd (List.head_eq_of_cons_eq heq) (hother 'n' (by decide) rfl)
  next heq => exact absurd (List.head_eq_of_cons_eq heq) (hother 't' (by decide) rfl)
  next heq => exact absurd (List.head_eq_of_cons_eq heq) (hother 'f' (by decide) rfl)
  next heq => exact absurd (List.head_eq_of_cons_eq heq) (hother '"' (by decide) rfl)
  next heq => exact absurd (List.head_eq_of_cons_eq heq) (hother '[' (by decide) rfl)
  next heq => exact absurd (List.head_eq_of_cons_eq heq) (hother '\x7b' (by decide) rfl)
  · exact h

private theorem word_append (expected rest : List Char) (v : Value) :
    word expected v (expected ++ rest) = some (v, rest) := by
  rw [word, if_pos (List.isPrefixOf_iff_prefix.mpr (List.prefix_append _ _)), List.drop_left]

private theorem value_list {fuel depth : Nat} {cs : List Char} {c : Char} {front : List Char}
    (hopen : skip cs = c :: front) (hc : c ≠ ']') :
    value (fuel + 1) (depth + 1) ('[' :: cs) = items fuel depth [] (skip cs) := by
  simp only [Json.value]
  split
  next heq =>
    rw [hopen] at heq
    exact absurd (List.head_eq_of_cons_eq heq) hc
  next => rfl

private theorem value_record {fuel depth : Nat} {cs : List Char} {c : Char} {front : List Char}
    (hopen : skip cs = c :: front) (hc : c ≠ '\x7d') :
    value (fuel + 1) (depth + 1) ('\x7b' :: cs) = fields fuel depth [] (skip cs) := by
  simp only [Json.value]
  split
  next heq =>
    rw [hopen] at heq
    exact absurd (List.head_eq_of_cons_eq heq) hc
  next => rfl

/-- The three ways in which a record goes on behind the name of a field. -/
private theorem fields_embedding {fuel depth : Nat} {cs behind : List Char}
    (h : Named cs embeddingName behind) :
    fields (fuel + 1) depth [] cs = embedded fuel (skip behind) := by
  obtain ⟨front, after, rfl, hname, hcolon⟩ := h
  simp [Json.fields, textTail_eq_some_iff.mpr hname, hcolon]

private theorem fields_end {fuel depth : Nat} {done : List (String × Value)} {name : String}
    {v : Value} {cs behind after rest : List Char} (h : Named cs name behind)
    (hplain : (done.isEmpty && name == embeddingName) = false)
    (hv : value fuel depth (skip behind) = some (v, after)) (hend : skip after = '\x7d' :: rest) :
    fields (fuel + 1) depth done cs = some (.record (putField name v done), rest) := by
  obtain ⟨front, _, rfl, hname, hcolon⟩ := h
  simp [Json.fields, textTail_eq_some_iff.mpr hname, hcolon, hplain, hv, hend]

private theorem fields_comma {fuel depth : Nat} {done : List (String × Value)} {name : String}
    {v : Value} {cs behind after next : List Char} (h : Named cs name behind)
    (hplain : (done.isEmpty && name == embeddingName) = false)
    (hv : value fuel depth (skip behind) = some (v, after)) (hcomma : skip after = ',' :: next) :
    fields (fuel + 1) depth done cs = fields fuel depth (putField name v done) (skip next) := by
  obtain ⟨front, _, rfl, hname, hcolon⟩ := h
  simp [Json.fields, textTail_eq_some_iff.mpr hname, hcolon, hplain, hv, hcomma]

private theorem not_embedding {done : List (String × Value)} {name : String}
    (h : done = [] → name ≠ embeddingName) :
    (done.isEmpty && name == embeddingName) = false := by
  cases done with
  | nil => simpa using h rfl
  | cons => rfl

private theorem Complete.list {depth : Nat} {vs : List Value} {cs rest : List Char}
    (hr : Reads depth (.items vs) (skip cs) rest) (h : Complete depth (.items vs) (skip cs) rest) :
    Complete (depth + 1) (.value (.list vs)) ('[' :: cs) rest := by
  obtain ⟨hlength, hitems⟩ := h
  have hskip := skip_length_le cs
  refine ⟨by simp only [List.length_cons]; omega, ?_⟩
  intro fuel hfuel
  rw [List.length_cons] at hfuel
  obtain ⟨c, front, hopen, hc, -⟩ := hr.opening
  obtain ⟨fuel, rfl⟩ : ∃ n, fuel = n + 2 := ⟨fuel - 2, by omega⟩
  rw [value_list hopen hc]
  exact hitems fuel (by omega) []

private theorem Complete.item {depth : Nat} {v : Value} {vs : List Value}
    {cs after behind rest : List Char} (hv : Complete depth (.value v) cs after)
    (hcomma : skip after = ',' :: behind) (h : Complete depth (.items vs) (skip behind) rest) :
    Complete depth (.items (v :: vs)) cs rest := by
  obtain ⟨hafter, hvalue⟩ := hv
  obtain ⟨hlength, hitems⟩ := h
  have hbehind := behind_lt hcomma
  have hskip := skip_length_le behind
  refine ⟨by omega, ?_⟩
  intro fuel hfuel done
  rw [Json.items, hvalue fuel hfuel]
  simp only [hcomma]
  obtain ⟨fuel, rfl⟩ : ∃ n, fuel = n + 1 := ⟨fuel - 1, by omega⟩
  have hrest := hitems fuel (by omega) (v :: done)
  rw [List.reverse_cons, List.append_assoc] at hrest
  exact hrest

private theorem Complete.record {depth : Nat} {fs : List (String × Value)} {cs rest : List Char}
    (hopen : fs.head?.map Prod.fst ≠ some embeddingName)
    (hr : Reads depth (.fields fs) (skip cs) rest)
    (h : Complete depth (.fields fs) (skip cs) rest) :
    Complete (depth + 1) (.value (.ofFields fs)) ('\x7b' :: cs) rest := by
  obtain ⟨hlength, hfields⟩ := h
  have hskip := skip_length_le cs
  refine ⟨by simp only [List.length_cons]; omega, ?_⟩
  intro fuel hfuel
  rw [List.length_cons] at hfuel
  obtain ⟨c, front, hfront, -, hc⟩ := hr.opening
  obtain ⟨fuel, rfl⟩ : ∃ n, fuel = n + 1 := ⟨fuel - 1, by omega⟩
  rw [value_record hfront hc]
  exact hfields fuel (by omega) [] fun _ => hopen

private theorem Complete.lastField {depth : Nat} {name : String} {v : Value}
    {cs behind after rest : List Char} (hname : Named cs name behind)
    (hv : Complete depth (.value v) (skip behind) after) (hend : skip after = '\x7d' :: rest) :
    Complete depth (.fields [(name, v)]) cs rest := by
  obtain ⟨hafter, hvalue⟩ := hv
  have hbehind := hname.length_lt
  have hskip := skip_length_le behind
  have hrest := behind_lt hend
  refine ⟨by omega, ?_⟩
  intro fuel hfuel done hopen
  obtain ⟨fuel, rfl⟩ : ∃ n, fuel = n + 1 := ⟨fuel - 1, by omega⟩
  have hplain := not_embedding fun hdone => by simpa using hopen hdone
  exact fields_end hname hplain (hvalue fuel (by omega)) hend

private theorem Complete.field {depth : Nat} {name : String} {v : Value}
    {fs : List (String × Value)} {cs behind after next rest : List Char}
    (hname : Named cs name behind) (hv : Complete depth (.value v) (skip behind) after)
    (hcomma : skip after = ',' :: next) (h : Complete depth (.fields fs) (skip next) rest) :
    Complete depth (.fields ((name, v) :: fs)) cs rest := by
  obtain ⟨hafter, hvalue⟩ := hv
  obtain ⟨hlength, hfields⟩ := h
  have hbehind := hname.length_lt
  have hskip := skip_length_le behind
  have hskip' := skip_length_le next
  have hnext := behind_lt hcomma
  refine ⟨by omega, ?_⟩
  intro fuel hfuel done hopen
  obtain ⟨fuel, rfl⟩ : ∃ n, fuel = n + 1 := ⟨fuel - 1, by omega⟩
  have hplain := not_embedding fun hdone => by simpa using hopen hdone
  rw [fields_comma hname hplain (hvalue fuel (by omega)) hcomma]
  exact hfields fuel (by omega) _ fun hdone => absurd hdone (putField_ne_nil name v done)

private theorem Complete.embedded {depth : Nat} {v : Value} {cs behind rest : List Char}
    (hname : Named (skip cs) embeddingName behind)
    (h : Complete depth (.embedding v) (skip behind) rest) :
    Complete (depth + 1) (.value v) ('\x7b' :: cs) rest := by
  obtain ⟨hlength, hembedded⟩ := h
  have hbehind := hname.length_lt
  have hskip := skip_length_le behind
  have hskip' := skip_length_le cs
  refine ⟨by simp only [List.length_cons]; omega, ?_⟩
  intro fuel hfuel
  rw [List.length_cons] at hfuel
  obtain ⟨front, _, hfront, -⟩ := id hname
  obtain ⟨fuel, rfl⟩ : ∃ n, fuel = n + 2 := ⟨fuel - 2, by omega⟩
  rw [value_record hfront (by decide), fields_embedding hname]
  exact hembedded fuel (by omega)

private theorem Complete.embedding {depth : Nat} {v : Value} {text cs after rest behind : List Char}
    (htext : Quoted cs text after) (hend : skip after = '\x7d' :: rest)
    (hv : Complete nestingLimit (.value v) (skip text) behind) (hblank : skip behind = []) :
    Complete depth (.embedding v) ('"' :: cs) rest := by
  obtain ⟨-, hvalue⟩ := hv
  have hlength := htext.length_add
  have hrest := behind_lt hend
  have hskip := skip_length_le text
  refine ⟨by simp only [List.length_cons]; omega, ?_⟩
  intro fuel hfuel
  rw [List.length_cons] at hfuel
  obtain ⟨fuel, rfl⟩ : ∃ n, fuel = n + 1 := ⟨fuel - 1, by omega⟩
  have hs := htext.textTail [] (Nat.lt_succ_self _)
  have hinner := hvalue fuel (by omega)
  simp [Json.embedded, hs, hend, hinner, hblank]

private theorem complete {depth : Nat} {p : Phrase} {cs rest : List Char}
    (h : Reads depth p cs rest) : Complete depth p cs rest := by
  -- Two steps for each character suffice: an item costs one step before its value takes a character.
  induction h with
  | null => exact ⟨by simp; omega, fun _ _ => word_append "null".toList _ .null⟩
  | truth => exact ⟨by simp; omega, fun _ _ => word_append "true".toList _ (.bool true)⟩
  | falsity => exact ⟨by simp; omega, fun _ _ => word_append "false".toList _ (.bool false)⟩
  | number h =>
    obtain ⟨-, _, _, rfl, -, hrest⟩ := number_takes h
    exact ⟨Nat.lt_succ_of_le hrest, fun _ _ => value_number h⟩
  | text h =>
    have hlength := h.length_add
    refine ⟨by simp only [List.length_cons]; omega, ?_⟩
    intro fuel _
    have hs := h.textTail [] (Nat.lt_succ_self _)
    simp [Json.value, hs]
  | noItems h | noFields h =>
    refine ⟨Nat.lt_succ_of_lt (behind_lt h), ?_⟩
    intro fuel _
    simp [Json.value, h]
  | list h ih => exact .list h ih
  | lastItem _ hend ih =>
    obtain ⟨hafter, hvalue⟩ := ih
    have hrest := behind_lt hend
    refine ⟨by omega, ?_⟩
    intro fuel hfuel done
    rw [Json.items, hvalue fuel hfuel]
    simp [hend]
  | item _ hcomma _ ihv ih => exact .item ihv hcomma ih
  | record hopen h ih => exact .record hopen h ih
  | lastField hname _ hend ih => exact .lastField hname ih hend
  | field hname _ hcomma _ ihv ih => exact .field hname ihv hcomma ih
  | embedded hname _ ih => exact .embedded hname ih
  | embedding htext hend _ hblank ih => exact .embedding htext hend ih hblank

/-- Reading a text finds the value that the grammar puts in front of it, and leaves the rest. -/
theorem front?_eq_some_iff {cs rest : List Char} {v : Value} :
    Value.front? cs = some (v, rest) ↔
      ∃ after, Reads nestingLimit (.value v) (skip cs) after ∧ skip after = rest := by
  rw [Value.front?]
  constructor
  · intro h
    obtain ⟨⟨u, after⟩, hu, heq⟩ := Option.map_eq_some_iff.mp h
    cases heq
    exact ⟨after, (sound _).value hu, rfl⟩
  · intro h
    obtain ⟨after, hv, rfl⟩ := h
    have hread := (complete hv).2 (2 * (skip cs).length + 1) (Nat.le_succ _)
    exact Option.map_eq_some_iff.mpr ⟨(v, after), hread, rfl⟩

end FleetTrail.Json
