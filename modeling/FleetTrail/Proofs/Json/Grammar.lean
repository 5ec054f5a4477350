import FleetTrail.Json.Parser

/-!
# The grammar of JSON text

What a text says as JSON, independently of how it is read. A derivation follows the text from the
left: it relates what stands in front to what is left behind it, and its depth is how many lists
and records may still be opened.
-/

namespace FleetTrail.Json

/-- The characters of a string behind its opening quote, and what follows its closing one. -/
inductive Quoted : List Char → List Char → List Char → Prop
  | close {rest : List Char} : Quoted ('"' :: rest) [] rest
  | plain {c : Char} {cs s rest : List Char} (hquote : c ≠ '"') (hescape : c ≠ '\\')
      (hcontrol : 0x20 ≤ c.toNat) (h : Quoted cs s rest) : Quoted (c :: cs) (c :: s) rest
  | escape {c : Char} {cs behind s rest : List Char} (hc : escaped cs = some (c, behind))
      (h : Quoted behind s rest) : Quoted ('\\' :: cs) (c :: s) rest

def Named (cs : List Char) (name : String) (behind : List Char) : Prop :=
  ∃ front after, cs = '"' :: front ∧ Quoted front name.toList after ∧ skip after = ':' :: behind

/-- The parts of a text that the grammar tells apart: a value, the rest of a list or of a record
through its closing bracket, and the rest of a record that embeds a text. -/
inductive Phrase where
  | value (v : Value)
  | items (vs : List Value)
  | fields (fs : List (String × Value))
  | embedding (v : Value)

inductive Reads : Nat → Phrase → List Char → List Char → Prop
  | null {depth : Nat} {rest : List Char} :
      Reads depth (.value .null) ("null".toList ++ rest) rest
  | truth {depth : Nat} {rest : List Char} :
      Reads depth (.value (.bool true)) ("true".toList ++ rest) rest
  | falsity {depth : Nat} {rest : List Char} :
      Reads depth (.value (.bool false)) ("false".toList ++ rest) rest
  | number {depth : Nat} {v : Value} {cs rest : List Char} (h : number cs = some (v, rest)) :
      Reads depth (.value v) cs rest
  | text {depth : Nat} {s cs rest : List Char} (h : Quoted cs s rest) :
      Reads depth (.value (.text (String.ofList s))) ('"' :: cs) rest
  | noItems {depth : Nat} {cs rest : List Char} (h : skip cs = ']' :: rest) :
      Reads (depth + 1) (.value (.list [])) ('[' :: cs) rest
  | list {depth : Nat} {vs : List Value} {cs rest : List Char}
      (h : Reads depth (.items vs) (skip cs) rest) :
      Reads (depth + 1) (.value (.list vs)) ('[' :: cs) rest
  | lastItem {depth : Nat} {v : Value} {cs after rest : List Char}
      (hv : Reads depth (.value v) cs after) (hend : skip after = ']' :: rest) :
      Reads depth (.items [v]) cs rest
  | item {depth : Nat} {v : Value} {vs : List Value} {cs after behind rest : List Char}
      (hv : Reads depth (.value v) cs after) (hcomma : skip after = ',' :: behind)
      (h : Reads depth (.items vs) (skip behind) rest) : Reads depth (.items (v :: vs)) cs rest
  | noFields {depth : Nat} {cs rest : List Char} (h : skip cs = '\x7d' :: rest) :
      Reads (depth + 1) (.value (.record [])) ('\x7b' :: cs) rest
  | record {depth : Nat} {fs : List (String × Value)} {cs rest : List Char}
      (hopen : fs.head?.map Prod.fst ≠ some embeddingName)
      (h : Reads depth (.fields fs) (skip cs) rest) :
      Reads (depth + 1) (.value (.ofFields fs)) ('\x7b' :: cs) rest
  | lastField {depth : Nat} {name : String} {v : Value} {cs behind after rest : List Char}
      (hname : Named cs name behind) (hv : Reads depth (.value v) (skip behind) after)
      (hend : skip after = '\x7d' :: rest) : Reads depth (.fields [(name, v)]) cs rest
  | field {depth : Nat} {name : String} {v : Value} {fs : List (String × Value)}
      {cs behind after next rest : List Char} (hname : Named cs name behind)
      (hv : Reads depth (.value v) (skip behind) after) (hcomma : skip after = ',' :: next)
      (h : Reads depth (.fields fs) (skip next) rest) :
      Reads depth (.fields ((name, v) :: fs)) cs rest
  | embedded {depth : Nat} {v : Value} {cs behind rest : List Char}
      (hname : Named (skip cs) embeddingName behind)
      (h : Reads depth (.embedding v) (skip behind) rest) :
      Reads (depth + 1) (.value v) ('\x7b' :: cs) rest
  /-- An embedded text is a text of its own, and counts its nesting anew. -/
  | embedding {depth : Nat} {v : Value} {text cs after rest behind : List Char}
      (htext : Quoted cs text after) (hend : skip after = '\x7d' :: rest)
      (hv : Reads nestingLimit (.value v) (skip text) behind) (hblank : skip behind = []) :
      Reads depth (.embedding v) ('"' :: cs) rest

theorem skip_length_le (cs : List Char) : (skip cs).length ≤ cs.length :=
  (List.dropWhile_suffix _).length_le

theorem behind_lt {cs rest : List Char} {c : Char} (h : skip cs = c :: rest) :
    rest.length < cs.length := by
  have := skip_length_le cs
  rw [h] at this
  exact this

private theorem hexUnit_length {cs rest : List Char} {n : Nat} (h : hexUnit cs = some (n, rest)) :
    rest.length < cs.length := by
  unfold hexUnit at h
  split at h
  · simp only [Option.bind_eq_bind, Option.bind_eq_some_iff, Option.pure_def, Option.some.injEq,
      Prod.mk.injEq] at h
    obtain ⟨_, _, _, _, _, _, _, _, _, rfl⟩ := h
    simp only [List.length_cons]
    omega
  · cases h

private theorem escapedUnit_length {cs rest : List Char} {c : Char}
    (h : escapedUnit cs = some (c, rest)) : rest.length < cs.length := by
  unfold escapedUnit at h
  obtain ⟨⟨high, behind⟩, hhigh, h⟩ := Option.bind_eq_some_iff.mp h
  have hbehind := hexUnit_length hhigh
  dsimp only at h
  split at h
  · split at h
    · obtain ⟨⟨low, behind'⟩, hlow, h⟩ := Option.bind_eq_some_iff.mp h
      have hbehind' := hexUnit_length hlow
      dsimp only at h
      split at h
      · simp only [Option.pure_def, Option.some.injEq, Prod.mk.injEq] at h
        obtain ⟨-, rfl⟩ := h
        simp only [List.length_cons] at hbehind
        omega
      · cases h
    · cases h
  · split at h
    · cases h
    · simp only [Option.pure_def, Option.some.injEq, Prod.mk.injEq] at h
      obtain ⟨-, rfl⟩ := h
      exact hbehind

theorem escaped_length {cs rest : List Char} {c : Char} (h : escaped cs = some (c, rest)) :
    rest.length < cs.length := by
  unfold escaped at h
  split at h
  case h_9 behind => exact Nat.lt_succ_of_lt (escapedUnit_length h)
  case h_10 => cases h
  all_goals
    cases h
    exact Nat.lt_succ_self _

theorem Quoted.length_add {cs s rest : List Char} (h : Quoted cs s rest) :
    s.length + rest.length < cs.length := by
  induction h with
  | close => simp
  | plain _ _ _ _ ih =>
    simp only [List.length_cons]
    omega
  | escape hc _ ih =>
    have := escaped_length hc
    simp only [List.length_cons]
    omega

theorem quoted_of_textTail {fuel : Nat} {done cs rest : List Char} {s : String}
    (h : textTail fuel done cs = some (s, rest)) :
    ∃ tail, s = String.ofList (done.reverse ++ tail) ∧ Quoted cs tail rest := by
  induction fuel generalizing done cs with
  | zero => cases h
  | succ fuel ih =>
    cases cs with
    | nil => cases h
    | cons c cs =>
      rw [textTail] at h
      by_cases hquote : c = '"'
      · rw [if_pos hquote] at h
        cases h
        subst hquote
        exact ⟨[], by simp, .close⟩
      · rw [if_neg hquote] at h
        by_cases hescape : c = '\\'
        · rw [if_pos hescape] at h
          subst hescape
          cases hc : escaped cs with
          | none =>
            rw [hc] at h
            cases h
          | some r =>
            rw [hc] at h
            obtain ⟨tail, rfl, htail⟩ := ih h
            exact ⟨r.1 :: tail, by simp, .escape hc htail⟩
        · rw [if_neg hescape] at h
          by_cases hcontrol : c.toNat < 0x20
          · rw [if_pos hcontrol] at h
            cases h
          · rw [if_neg hcontrol] at h
            obtain ⟨tail, rfl, htail⟩ := ih h
            exact ⟨c :: tail, by simp, .plain hquote hescape (Nat.le_of_not_lt hcontrol) htail⟩

theorem Quoted.textTail {cs tail rest : List Char} (h : Quoted cs tail rest) :
    ∀ {fuel : Nat} (done : List Char), cs.length < fuel →
      Json.textTail fuel done cs = some (String.ofList (done.reverse ++ tail), rest) := by
  induction h with
  | close =>
    intro fuel done hfuel
    cases fuel with
    | zero => cases hfuel
    | succ fuel => simp [Json.textTail]
  | plain hquote hescape hcontrol _ ih =>
    intro fuel done hfuel
    cases fuel with
    | zero => cases hfuel
    | succ fuel =>
      rw [Json.textTail, if_neg hquote, if_neg hescape, if_neg (Nat.not_lt.mpr hcontrol),
        ih _ (Nat.lt_of_succ_lt_succ hfuel)]
      simp
  | escape hc _ ih =>
    intro fuel done hfuel
    cases fuel with
    | zero => cases hfuel
    | succ fuel =>
      have hshorter := escaped_length hc
      rw [Json.textTail, if_neg (by decide), if_pos rfl, hc]
      simp only
      rw [ih _ (by simp only [List.length_cons] at hfuel; omega)]
      simp

theorem textTail_eq_some_iff {cs rest : List Char} {s : String} :
    textTail (cs.length + 1) [] cs = some (s, rest) ↔ Quoted cs s.toList rest := by
  constructor
  · intro h
    obtain ⟨tail, rfl, htail⟩ := quoted_of_textTail h
    simpa using htail
  · intro h
    simpa using h.textTail [] (Nat.lt_succ_self _)

end FleetTrail.Json
