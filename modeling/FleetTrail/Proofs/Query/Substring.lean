import FleetTrail.Proofs.Text.Blank
import FleetTrail.Query.Like
import Mathlib.Data.List.Infix

/-!
# Literal search

What a LIKE pattern matches: `%` any run of characters, `_` any one character, a backslash makes
the character behind it stand for itself, and so does every other character. The pattern of a term
matches exactly the texts that contain the trimmed term, also when letter case does not count.
-/

namespace FleetTrail.Query

inductive Piece where
  | anyRun
  | anyOne
  | literal (c : Char)

def Piece.ofChar (c : Char) : Piece :=
  if c = '%' then .anyRun else if c = '_' then .anyOne else .literal c

/-- The parts that a pattern is made of; `none` when its last backslash has nothing behind it. -/
def pieces? : List Char → Option (List Piece)
  | [] => some []
  | c :: rest =>
    if c = '\\' then
      match rest with
      | [] => none
      | d :: rest => (pieces? rest).map (.literal d :: ·)
    else (pieces? rest).map (.ofChar c :: ·)

/-- Whether a whole text matches, where characters of the same folding count as the same. A run of
any characters is tried at every length. -/
def matchPieces (fold : Char → Char) : List Piece → List Char → Bool
  | [], s => s.isEmpty
  | .anyRun :: ps, s => s.tails.any (matchPieces fold ps)
  | .anyOne :: ps, _ :: s => matchPieces fold ps s
  | .literal c :: ps, d :: s => fold c == fold d && matchPieces fold ps s
  | _ :: _, [] => false

/-- Whether a text is LIKE a pattern. An ill-formed pattern matches nothing. -/
def like (fold : Char → Char) (pattern s : List Char) : Bool :=
  (pieces? pattern).any (matchPieces fold · s)

def isMark (c : Char) : Bool := c == '%' || c == '_' || c == '\\'

/-- A folding that keeps the marks of patterns, and makes no other character one of them. -/
structure KeepsMarks (fold : Char → Char) : Prop where
  fixed : ∀ c, isMark c = true → fold c = c
  only : ∀ c, isMark (fold c) = true → isMark c = true

theorem keepsMarks_toLower : KeepsMarks Char.toLower := by
  constructor
  · intro c hc
    simp only [isMark, Bool.or_eq_true, beq_iff_eq] at hc
    rcases hc with (rfl | rfl) | rfl <;> rfl
  · intro c hc
    by_cases h : c.val ≥ 'A'.val ∧ c.val ≤ 'Z'.val
    · simp only [isMark, Bool.or_eq_true, beq_iff_eq, Char.ext_iff, Text.val_toLower h] at hc
      grind
    · have hsame : c.toLower = c := dif_neg h
      rwa [hsame] at hc

namespace KeepsMarks

variable {fold : Char → Char} (h : KeepsMarks fold)

include h in
theorem eq_mark_iff {c m : Char} (hm : isMark m = true) : fold c = m ↔ c = m := by
  constructor
  · intro hc
    have hmark : isMark c = true := by
      apply h.only
      rw [hc, hm]
    rw [← h.fixed c hmark, hc]
  · intro hc
    rw [hc, h.fixed m hm]

end KeepsMarks

theorem pieces?_plain {c : Char} (hc : c ≠ '\\') (rest : List Char) :
    pieces? (c :: rest) = (pieces? rest).map (.ofChar c :: ·) := by
  cases rest <;> simp [pieces?, hc]

theorem pieces?_escape (c : Char) (rest : List Char) :
    pieces? ('\\' :: c :: rest) = (pieces? rest).map (.literal c :: ·) := by
  rw [pieces?, if_pos rfl]

theorem pieces?_escaped (cs rest : List Char) :
    pieces? (cs.flatMap escapeLike ++ rest) = (pieces? rest).map (cs.map .literal ++ ·) := by
  induction cs with
  | nil => simp
  | cons c cs ih =>
    by_cases hc : c = '%' ∨ c = '_' ∨ c = '\\'
    · simp [escapeLike, hc, pieces?_escape, ih, Function.comp_def]
    · have hliteral : Piece.ofChar c = .literal c := by
        simp only [not_or] at hc
        simp [Piece.ofChar, hc]
      have hplain : c ≠ '\\' := fun h => hc (.inr (.inr h))
      simp [escapeLike, hc, pieces?_plain hplain, ih, hliteral, Function.comp_def]

/-- The pieces of the pattern of a term: the term itself between two runs of any characters. -/
theorem pieces?_pattern (cs : List Char) :
    pieces? ('%' :: cs.flatMap escapeLike ++ ['%']) =
      some (.anyRun :: (cs.map .literal ++ [.anyRun])) := by
  have hend : pieces? ['%'] = some [.anyRun] := rfl
  rw [List.cons_append, pieces?_plain (by decide), pieces?_escaped, hend]
  rfl

section Match

variable (fold : Char → Char)

theorem matchPieces_anyRun (s : List Char) : matchPieces fold [.anyRun] s = true := by
  rw [matchPieces, List.any_eq_true]
  exact ⟨[], by simp, rfl⟩

theorem matchPieces_literals (cs : List Char) (ps : List Piece) (s : List Char) :
    matchPieces fold (cs.map .literal ++ ps) s = true ↔
      ∃ front rest, s = front ++ rest ∧ cs.map fold = front.map fold ∧
        matchPieces fold ps rest = true := by
  induction cs generalizing s with
  | nil => simp
  | cons c cs ih =>
    cases s with
    | nil => simp [matchPieces]
    | cons d s =>
      simp only [List.map_cons, List.cons_append, matchPieces, Bool.and_eq_true, beq_iff_eq, ih]
      constructor
      · rintro ⟨hd, front, rest, rfl, hfront, hrest⟩
        exact ⟨d :: front, rest, rfl, by rw [List.map_cons, hd, hfront], hrest⟩
      · rintro ⟨front, rest, hs, hfront, hrest⟩
        cases front with
        | nil => simp at hfront
        | cons e front =>
          simp only [List.cons_append, List.cons.injEq, List.map_cons] at hs hfront
          obtain ⟨rfl, rfl⟩ := hs
          exact ⟨hfront.1, front, rest, rfl, hfront.2, hrest⟩

theorem matchPieces_around (cs s : List Char) :
    matchPieces fold (.anyRun :: (cs.map .literal ++ [.anyRun])) s = true ↔
      cs.map fold <:+: s.map fold := by
  rw [matchPieces, List.any_eq_true, List.infix_map_iff]
  simp only [List.mem_tails, matchPieces_literals, matchPieces_anyRun, and_true]
  constructor
  · rintro ⟨_, ⟨before, rfl⟩, front, rest, rfl, hfront⟩
    exact ⟨front, ⟨before, rest, by simp⟩, hfront⟩
  · rintro ⟨front, ⟨before, rest, rfl⟩, hfront⟩
    exact ⟨front ++ rest, ⟨before, by simp⟩, front, rest, rfl, hfront⟩

end Match

def Piece.map (f : Char → Char) : Piece → Piece
  | .literal c => .literal (f c)
  | p => p

section Fold

variable {fold : Char → Char}

theorem KeepsMarks.ofChar (h : KeepsMarks fold) (c : Char) :
    Piece.ofChar (fold c) = (Piece.ofChar c).map fold := by
  simp only [Piece.ofChar, h.eq_mark_iff (m := '%') rfl, h.eq_mark_iff (m := '_') rfl]
  split
  · rfl
  · split <;> rfl

theorem KeepsMarks.pieces? (h : KeepsMarks fold) (pattern : List Char) :
    pieces? (pattern.map fold) = (pieces? pattern).map (List.map (Piece.map fold)) := by
  fun_induction Query.pieces? pattern with
  | case1 => rfl
  | case2 => simp [Query.pieces?, h.eq_mark_iff (m := '\\') rfl]
  | case3 d rest ih =>
    have hmark : fold '\\' = '\\' := h.fixed _ rfl
    simp [hmark, pieces?_escape, ih, Function.comp_def, Piece.map]
  | case4 c rest hc ih =>
    have hplain : fold c ≠ '\\' := mt (h.eq_mark_iff rfl).mp hc
    simp [pieces?_plain hplain, ih, Function.comp_def, h.ofChar c]

theorem matchPieces_map (ps : List Piece) (s : List Char) :
    matchPieces id (ps.map (Piece.map fold)) (s.map fold) = matchPieces fold ps s := by
  induction ps generalizing s with
  | nil => simp [matchPieces]
  | cons p ps ih =>
    cases p with
    | anyRun =>
      simp only [matchPieces, Piece.map, List.map_cons, List.map_tails, List.any_map,
        Function.comp_def, ih]
    | anyOne => cases s <;> simp [matchPieces, Piece.map, ih]
    | literal c => cases s <;> simp [matchPieces, Piece.map, ih]

/-- Folding both texts before they are matched is matching modulo the folding. -/
theorem KeepsMarks.like_map (h : KeepsMarks fold) (pattern s : List Char) :
    like id (pattern.map fold) (s.map fold) = like fold pattern s := by
  rw [like, like, h.pieces?, Option.any_map]
  simp [matchPieces_map]

end Fold

theorem likePattern_some {text : String} (h : Text.trim text.toList ≠ []) :
    likePattern (some text) =
      some (String.ofList ('%' :: (Text.trim text.toList).flatMap escapeLike ++ ['%'])) := by
  simp [likePattern, h]

theorem likePattern_eq_none_iff {term : Option String} : likePattern term = none ↔
    term = none ∨ ∃ text, term = some text ∧ Text.allBlank text = true := by
  cases term with
  | none => simp [likePattern]
  | some text =>
    have hnone : likePattern (some text) = none ↔ Text.trim text.toList = [] := by
      by_cases h : Text.trim text.toList = []
      · simp [likePattern, h]
      · simp [likePattern_some h, h]
    rw [hnone, Text.trim_eq_nil_iff]
    simp [Text.allBlank]

/-- The pattern of a term is well formed and matches the texts that contain the trimmed term, letter
for letter or modulo a folding, and there is no pattern exactly for an absent or blank term. -/
theorem likePattern_searches_literally :
    (∀ term, likePattern term = none ↔
      term = none ∨ ∃ text, term = some text ∧ Text.allBlank text = true) ∧
    ∀ text, Text.trim text.toList ≠ [] → ∃ pattern, likePattern (some text) = some pattern ∧
      pieces? pattern.toList ≠ none ∧
      (∀ s, like id pattern.toList s = true ↔ Text.trim text.toList <:+: s) ∧
      ∀ fold, KeepsMarks fold → ∀ s,
        (like fold pattern.toList s = true ↔ (Text.trim text.toList).map fold <:+: s.map fold) ∧
        like id (pattern.toList.map fold) (s.map fold) = like fold pattern.toList s := by
  constructor
  · intro term
    exact likePattern_eq_none_iff
  intro text hne
  refine ⟨_, likePattern_some hne, ?_⟩
  rw [String.toList_ofList]
  have hpieces := pieces?_pattern (Text.trim text.toList)
  have hlike (fold : Char → Char) (s : List Char) :
      like fold ('%' :: (Text.trim text.toList).flatMap escapeLike ++ ['%']) s = true ↔
        (Text.trim text.toList).map fold <:+: s.map fold := by
    rw [like, hpieces, Option.any_some, matchPieces_around]
  refine ⟨by rw [hpieces]; exact Option.some_ne_none _, ?_, ?_⟩
  · intro s
    simpa using hlike id s
  · intro fold hfold s
    exact ⟨hlike fold s, hfold.like_map _ s⟩

/-- Marks in a term are searched as they are, and letter case may be folded. -/
theorem likePattern_finds_discount : ∃ pattern, likePattern (some " 50%_Off ") = some pattern ∧
    like Char.toLower pattern.toList "now 50%_OFF!".toList = true ∧
    like Char.toLower pattern.toList "now 500 off!".toList = false := by
  obtain ⟨pattern, hpattern, -, -, hfold⟩ :=
    likePattern_searches_literally.2 " 50%_Off " (by decide)
  have hsearch (s : List Char) := (hfold Char.toLower keepsMarks_toLower s).1
  refine ⟨pattern, hpattern, (hsearch _).mpr (by decide), ?_⟩
  rw [← Bool.not_eq_true, hsearch]
  decide

end FleetTrail.Query
