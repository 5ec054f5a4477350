import FleetTrail.Text.Blank
import Mathlib.Data.List.DropRight
import Mathlib.Data.List.TakeWhile

/-!
# Blanks around and inside a text

Trimming takes off the blanks put around a text that neither opens nor closes with one, and nothing
else. The words of a text split at a blank.
-/

namespace FleetTrail.Text

theorem trimStart_append {before : List Char} (h : before.all isBlank = true) (cs : List Char) :
    trimStart (before ++ cs) = trimStart cs :=
  List.dropWhile_append_of_pos (List.all_eq_true.mp h)

theorem trimStart_cons {c : Char} (h : isBlank c = false) (cs : List Char) :
    trimStart (c :: cs) = c :: cs :=
  List.dropWhile_cons_of_neg (by rw [h]; decide)

theorem trimEnd_append {after : List Char} (h : after.all isBlank = true) (cs : List Char) :
    trimEnd (cs ++ after) = trimEnd cs := by
  rw [← List.all_reverse] at h
  rw [trimEnd, List.reverse_append]
  exact congrArg List.reverse (trimStart_append h cs.reverse)

theorem trimEnd_concat {c : Char} (h : isBlank c = false) (cs : List Char) :
    trimEnd (cs ++ [c]) = cs ++ [c] := by
  rw [trimEnd, List.reverse_append]
  change (trimStart (c :: cs.reverse)).reverse = _
  rw [trimStart_cons h, List.reverse_cons, List.reverse_reverse]

theorem trim_around {before after cs : List Char} {c d : Char} (hc : isBlank c = false)
    (hd : isBlank d = false) (hbefore : before.all isBlank = true)
    (hafter : after.all isBlank = true) :
    trim (before ++ (c :: cs ++ [d]) ++ after) = c :: cs ++ [d] := by
  rw [trim, List.append_assoc, trimStart_append hbefore, List.cons_append, List.cons_append,
    trimStart_cons hc, ← List.cons_append, ← List.cons_append, trimEnd_append hafter,
    trimEnd_concat hd]

theorem trim_solid {before after cs : List Char} (hcs : ∀ c ∈ cs, isBlank c = false)
    (hbefore : before.all isBlank = true) (hafter : after.all isBlank = true) :
    trim (before ++ cs ++ after) = cs := by
  have hend : trimEnd cs = cs := by
    obtain rfl | ⟨front, d, rfl⟩ := List.eq_nil_or_concat cs
    · rfl
    · rw [List.concat_eq_append] at hcs ⊢
      exact trimEnd_concat (hcs d (by simp)) front
  cases cs with
  | nil => rw [trim_eq_nil_iff, List.append_nil, List.all_append, hbefore, hafter, Bool.and_self]
  | cons c rest =>
    rw [trim, List.append_assoc, trimStart_append hbefore, List.cons_append,
      trimStart_cons (hcs c List.mem_cons_self), ← List.cons_append, trimEnd_append hafter, hend]

theorem trimEnd_eq_self_iff {cs : List Char} :
    trimEnd cs = cs ↔ ∀ c, cs.getLast? = some c → isBlank c = false := by
  change cs.rdropWhile isBlank = cs ↔ _
  rw [List.rdropWhile_eq_self_iff]
  constructor
  · intro h c hc
    obtain ⟨front, rfl⟩ := List.getLast?_eq_some_iff.mp hc
    simpa using h (by simp)
  · intro h hne
    rw [Bool.not_eq_true]
    exact h _ (List.getLast?_eq_some_getLast hne)

theorem trimEnd_behind (front : List Char) {cs : List Char}
    (h : trimEnd (front ++ cs) = front ++ cs) : trimEnd cs = cs := by
  rw [trimEnd_eq_self_iff] at h ⊢
  intro c hc
  apply h
  rw [List.getLast?_append, hc, Option.some_or]

theorem trimEnd_trim (cs : List Char) : trimEnd (trim cs) = trim cs :=
  List.rdropWhile_idempotent isBlank (trimStart cs)

theorem exists_trim (cs : List Char) : ∃ before after,
    before.all isBlank = true ∧ after.all isBlank = true ∧ cs = before ++ trim cs ++ after := by
  have hafter : ((trimStart cs).rtakeWhile isBlank).all isBlank = true :=
    List.all_eq_true.mpr fun _ => List.mem_rtakeWhile_imp
  have hbody : trim cs ++ (trimStart cs).rtakeWhile isBlank = trimStart cs :=
    List.rdropWhile_append_rtakeWhile
  refine ⟨cs.takeWhile isBlank, (trimStart cs).rtakeWhile isBlank, List.all_takeWhile, hafter, ?_⟩
  rw [List.append_assoc, hbody]
  exact List.takeWhile_append_dropWhile.symm

theorem isBlank_of_letter {c : Char} (hlow : 'A'.toNat ≤ c.toNat) (hhigh : c.toNat ≤ 'z'.toNat) :
    isBlank c = false := by
  have hlow : 65 ≤ c.toNat := hlow
  have hhigh : c.toNat ≤ 122 := hhigh
  simp only [isBlank, Bool.or_eq_false_iff, Bool.and_eq_false_iff, decide_eq_false_iff_not,
    beq_eq_false_iff_ne]
  omega

/-- Capital letters move by 32. -/
theorem val_toLower {c : Char} (h : c.val ≥ 'A'.val ∧ c.val ≤ 'Z'.val) :
    c.toLower.val = c.val + 32 :=
  congrArg Char.val (dif_pos h)

theorem isBlank_toLower (c : Char) : isBlank c.toLower = isBlank c := by
  by_cases h : c.val ≥ 'A'.val ∧ c.val ≤ 'Z'.val
  · have hlow : 65 ≤ c.toNat := h.1
    have hhigh : c.toNat ≤ 90 := h.2
    have hlower : c.toLower.toNat = c.toNat + 32 := by
      change c.toLower.val.toNat = c.val.toNat + 32
      rw [val_toLower h, UInt32.toNat_add]
      exact Nat.mod_eq_of_lt (Nat.lt_of_le_of_lt (Nat.add_le_add_right hhigh 32) (by decide))
    rw [isBlank_of_letter hlow (hhigh.trans (by decide)), isBlank_of_letter]
    · exact hlower ▸ hlow.trans (Nat.le_add_right _ _)
    · exact hlower ▸ Nat.add_le_add_right hhigh 32
  · have hsame : c.toLower = c := dif_neg h
    rw [hsame]

private def step (c : Char) (s : List Char × List (List Char)) : List Char × List (List Char) :=
  if isBlank c then ([], pushWord s.1 s.2) else (c :: s.1, s.2)

private theorem words_eq (cs : List Char) :
    words cs = pushWord (cs.foldr step ([], [])).1 (cs.foldr step ([], [])).2 := rfl

private theorem foldr_step_word {word : List Char} (h : ∀ c ∈ word, isBlank c = false)
    (s : List Char × List (List Char)) : word.foldr step s = (word ++ s.1, s.2) := by
  induction word with
  | nil => rfl
  | cons c word ih =>
    rw [List.foldr_cons, ih fun d hd => h d (List.mem_cons_of_mem c hd), step,
      h c List.mem_cons_self]
    rfl

private theorem foldr_step_append (cs word : List Char) (rest done : List (List Char)) :
    cs.foldr step (word, rest ++ done) =
      ((cs.foldr step (word, rest)).1, (cs.foldr step (word, rest)).2 ++ done) := by
  induction cs with
  | nil => rfl
  | cons c cs ih =>
    rw [List.foldr_cons, List.foldr_cons, ih, step, step]
    by_cases hc : isBlank c
    · simp only [if_pos hc, pushWord]
      split <;> rfl
    · simp only [if_neg hc]

/-- The words of a text split at a blank. -/
theorem words_append_blank {blank : Char} (h : isBlank blank = true) (cs ds : List Char) :
    words (cs ++ blank :: ds) = words cs ++ words ds := by
  have hblank : (blank :: ds).foldr step ([], []) = ([], [] ++ words ds) := by
    rw [List.foldr_cons, step, if_pos h, words_eq]
    rfl
  rw [words_eq, List.foldr_append, hblank, foldr_step_append, words_eq cs, pushWord, pushWord]
  split <;> rfl

theorem words_singleton {word : List Char} (hne : word ≠ [])
    (h : ∀ c ∈ word, isBlank c = false) : words word = [word] := by
  rw [words_eq, foldr_step_word h, List.append_nil, pushWord, if_neg (by simpa using hne)]

theorem words_cons_word {word : List Char} (hne : word ≠ []) (h : ∀ c ∈ word, isBlank c = false)
    {blank : Char} (hblank : isBlank blank = true) (cs : List Char) :
    words (word ++ blank :: cs) = word :: words cs := by
  rw [words_append_blank hblank, words_singleton hne h, List.singleton_append]

theorem words_blanks_append {before : List Char} (h : before.all isBlank = true) (cs : List Char) :
    words (before ++ cs) = words cs := by
  induction before with
  | nil => rfl
  | cons c before ih =>
    rw [List.all_cons, Bool.and_eq_true] at h
    rw [← ih h.2]
    exact words_append_blank h.1 [] (before ++ cs)

theorem words_word_append {word : List Char} (hne : word ≠ []) (h : ∀ c ∈ word, isBlank c = false)
    {rest : List Char} (hrest : ∀ c, rest.head? = some c → isBlank c = true) :
    words (word ++ rest) = word :: words rest := by
  cases rest with
  | nil => rw [List.append_nil, words_singleton hne h]; rfl
  | cons blank rest =>
    have hblank := hrest blank rfl
    have hskip : words (blank :: rest) = words rest := words_append_blank hblank [] rest
    rw [words_cons_word hne h hblank, hskip]

theorem words_around {before word after : List Char} (hne : word ≠ [])
    (h : ∀ c ∈ word, isBlank c = false) (hbefore : before.all isBlank = true)
    (hafter : after.all isBlank = true) : words (before ++ word ++ after) = [word] := by
  have hhead : ∀ c, after.head? = some c → isBlank c = true := by
    intro c hc
    exact List.all_eq_true.mp hafter c (List.mem_of_head? hc)
  have hnone : words after = [] := by
    rw [← List.append_nil after, words_blanks_append hafter]
    rfl
  rw [List.append_assoc, words_blanks_append hbefore, words_word_append hne h hhead, hnone]

/-- A text is blank, or it is a word between blanks and a rest without that word. -/
theorem words_cases (cs : List Char) : (cs.all isBlank = true ∧ words cs = []) ∨
    ∃ before word rest, cs = before ++ (word ++ rest) ∧ before.all isBlank = true ∧ word ≠ [] ∧
      (∀ c ∈ word, isBlank c = false) ∧ (∀ c, rest.head? = some c → isBlank c = true) ∧
      words cs = word :: words rest := by
  have hsplit := List.takeWhile_append_dropWhile (p := isBlank) (l := cs)
  have hbefore : (cs.takeWhile isBlank).all isBlank = true := List.all_takeWhile
  have hhead := List.head?_dropWhile_not isBlank cs
  generalize cs.takeWhile isBlank = before at hsplit hbefore
  generalize cs.dropWhile isBlank = body at hsplit hhead
  subst hsplit
  rw [words_blanks_append hbefore]
  cases body with
  | nil =>
    left
    exact ⟨by simpa using hbefore, rfl⟩
  | cons c body =>
    right
    have hc : isBlank c = false := by simpa using hhead
    have hword := List.takeWhile_append_dropWhile (p := fun d => !isBlank d) (l := body)
    have hsolid : (body.takeWhile fun d => !isBlank d).all (fun d => !isBlank d) = true :=
      List.all_takeWhile
    have hrest := List.head?_dropWhile_not (fun d => !isBlank d) body
    generalize body.takeWhile (fun d => !isBlank d) = word at hword hsolid
    generalize body.dropWhile (fun d => !isBlank d) = rest at hword hrest
    subst hword
    have hall : ∀ d ∈ c :: word, isBlank d = false := by simpa [hc] using hsolid
    have hblank : ∀ d, rest.head? = some d → isBlank d = true := by
      intro d hd
      simpa [hd] using hrest
    exact ⟨before, c :: word, rest, rfl, hbefore, by simp, hall, hblank,
      words_word_append (by simp) hall hblank⟩

theorem all_isBlank_of_words {cs : List Char} (h : words cs = []) : cs.all isBlank = true := by
  rcases words_cases cs with ⟨hblank, -⟩ | ⟨_, _, _, -, -, -, -, -, hwords⟩
  · exact hblank
  · rw [hwords] at h
    cases h

theorem exists_of_words_cons {cs word : List Char} {others : List (List Char)}
    (h : words cs = word :: others) : ∃ before rest, cs = before ++ (word ++ rest) ∧
      before.all isBlank = true ∧ (∀ c, rest.head? = some c → isBlank c = true) ∧
      words rest = others := by
  rcases words_cases cs with ⟨-, hnone⟩ | ⟨before, first, rest, hcs, hbefore, -, -, hhead, hwords⟩
  · rw [hnone] at h
    cases h
  · rw [hwords] at h
    obtain ⟨rfl, hrest⟩ := List.cons_eq_cons.mp h
    exact ⟨before, rest, hcs, hbefore, hhead, hrest⟩

end FleetTrail.Text
