import Mathlib.Data.List.Forall2

/-!
# Results of checks

When checks that are made one after the other succeed and when they fail, and which element a list
of them fails for.
-/

namespace FleetTrail

variable {ε ε' α β : Type} {result : Except ε α} {f : α → Except ε β}

theorem bind_eq_ok_iff {b : β} :
    result >>= f = .ok b ↔ ∃ a, result = .ok a ∧ f a = .ok b := by
  refine ⟨fun h => ?_, fun ⟨a, ha, hb⟩ => by rw [ha]; exact hb⟩
  cases result with
  | error e => cases h
  | ok a => exact ⟨a, rfl, h⟩

theorem bind_eq_error_iff {e : ε} :
    result >>= f = .error e ↔ result = .error e ∨ ∃ a, result = .ok a ∧ f a = .error e := by
  constructor
  · intro h
    cases result with
    | error e' =>
      cases h
      exact .inl rfl
    | ok a => exact .inr ⟨a, rfl, h⟩
  · intro h
    obtain rfl | ⟨a, rfl, ha⟩ := h
    · rfl
    · exact ha

theorem pure_eq_ok_iff {a b : α} : (pure a : Except ε α) = .ok b ↔ a = b :=
  Except.ok.injEq a b ▸ Iff.rfl

theorem guard_eq_ok_iff {c : Prop} [Decidable c] {e : ε} {a : α} {first second : Except ε α} :
    (if c then throw e >>= fun _ : PUnit => first else second) = .ok a ↔ ¬c ∧ second = .ok a := by
  by_cases h : c
  · rw [if_pos h]
    constructor
    · intro hthrow
      cases hthrow
    · intro hnot
      exact absurd h hnot.1
  · rw [if_neg h]
    simp [h]

theorem mapError_eq_error_iff {f : ε → ε'} {e' : ε'} :
    result.mapError f = .error e' ↔ ∃ e, result = .error e ∧ f e = e' := by
  cases result <;> simp [Except.mapError]

theorem mapError_eq_ok_iff {f : ε → ε'} {a : α} :
    result.mapError f = .ok a ↔ result = .ok a := by
  cases result <;> simp [Except.mapError]

theorem exists_of_forall₂ {R : α → β → Prop} {as : List α} {bs : List β}
    (h : List.Forall₂ R as bs) {b : β} (hb : b ∈ bs) : ∃ a ∈ as, R a b := by
  induction h with
  | nil => cases hb
  | @cons a b' as bs hab _ ih =>
    obtain rfl | hb := List.mem_cons.mp hb
    · exact ⟨a, List.mem_cons_self, hab⟩
    · obtain ⟨a', ha', hR⟩ := ih hb
      exact ⟨a', List.mem_cons_of_mem a ha', hR⟩

section Traversal

variable {as : List α}

theorem mapM_eq_ok_iff {bs : List β} :
    as.mapM f = .ok bs ↔ List.Forall₂ (fun a b => f a = .ok b) as bs := by
  induction as generalizing bs with
  | nil => rw [List.mapM_nil, pure_eq_ok_iff, List.forall₂_nil_left_iff, eq_comm]
  | cons a as ih =>
    simp only [List.mapM_cons, bind_eq_ok_iff, pure_eq_ok_iff, ih, List.forall₂_cons_left_iff]
    grind

theorem forall₂_congr_of_mem {R S : α → β → Prop} (h : ∀ a ∈ as, ∀ b, R a b ↔ S a b)
    {bs : List β} : List.Forall₂ R as bs ↔ List.Forall₂ S as bs := by
  induction as generalizing bs with
  | nil => rw [List.forall₂_nil_left_iff, List.forall₂_nil_left_iff]
  | cons a as ih =>
    have hrest (bs : List β) : List.Forall₂ R as bs ↔ List.Forall₂ S as bs :=
      ih fun c hc => h c (List.mem_cons_of_mem a hc)
    simp only [List.forall₂_cons_left_iff, h a List.mem_cons_self, hrest]

theorem mapM_eq_error_iff {e : ε} :
    as.mapM f = .error e ↔ ∃ before bs a after, as = before ++ a :: after ∧
      List.Forall₂ (fun a b => f a = .ok b) before bs ∧ f a = .error e := by
  constructor
  · intro h
    induction as with
    | nil => cases h
    | cons a as ih =>
      rw [List.mapM_cons] at h
      obtain ha | ⟨b, hb, hrest⟩ := bind_eq_error_iff.mp h
      · exact ⟨[], [], a, as, rfl, .nil, ha⟩
      · obtain hrest | ⟨_, -, ⟨⟩⟩ := bind_eq_error_iff.mp hrest
        obtain ⟨before, bs, a', after, rfl, hall, ha'⟩ := ih hrest
        exact ⟨a :: before, b :: bs, a', after, rfl, .cons hb hall, ha'⟩
  · intro h
    obtain ⟨before, bs, a, after, rfl, hall, ha⟩ := h
    induction hall with
    | nil =>
      rw [List.nil_append, List.mapM_cons, ha]
      rfl
    | cons hb _ ih =>
      rw [List.cons_append, List.mapM_cons, hb]
      change List.mapM f _ >>= _ = _
      rw [ih]
      rfl

variable (f as) in
/-- All are read, each in its place, or the first that cannot be read is to blame. -/
theorem mapM_cases :
    (∃ bs, as.mapM f = .ok bs ∧ List.Forall₂ (fun a b => f a = .ok b) as bs) ∨
      ∃ a ∈ as, ∃ e, f a = .error e ∧ as.mapM f = .error e := by
  cases h : as.mapM f with
  | ok bs => exact .inl ⟨bs, rfl, mapM_eq_ok_iff.mp h⟩
  | error e =>
    obtain ⟨before, bs, a, after, rfl, -, ha⟩ := mapM_eq_error_iff.mp h
    exact .inr ⟨a, List.mem_append_right _ List.mem_cons_self, e, ha, rfl⟩

end Traversal

end FleetTrail
