import FleetTrail.Geo.Point
import FleetTrail.Proofs.Number.RoundTrip
import FleetTrail.Proofs.Text.Blank

/-!
# Tokens read back

What reading makes of the token of a point: the point itself where it lies on the globe, and the
range error with its coordinates everywhere else. No token is taken for a binary form, for a
reference system or for a malformed text.
-/

namespace FleetTrail.Number

def isFloatChar (c : Char) : Bool := isDigit c || c ∈ ['-', '.', 'i', 'n', 'f', 'N', 'a']

private theorem isFloatChar_of_mem_signed {negative : Bool} {cs : List Char} {c : Char}
    (hcs : cs.all isFloatChar = true) (h : c ∈ (signed negative cs).toList) :
    isFloatChar c = true := by
  have hcs := List.all_eq_true.mp hcs
  rw [signed, String.toList_ofList] at h
  split at h
  · rcases List.mem_cons.mp h with rfl | h
    · rfl
    · exact hcs c h
  · exact hcs c h

theorem isFloatChar_of_mem {x : Float} {c : Char} (h : c ∈ (floatText x).toList) :
    isFloatChar c = true := by
  have hnan : "NaN".toList.all isFloatChar = true := by decide
  rw [floatText] at h
  split at h
  · exact List.all_eq_true.mp hnan c h
  · exact isFloatChar_of_mem_signed (by decide) h
  · split at h
    · exact isFloatChar_of_mem_signed (by decide) h
    · refine isFloatChar_of_mem_signed (List.all_eq_true.mpr fun d hd => ?_) h
      rcases mem_positional hd with hd | rfl
      · rw [isFloatChar, hd, Bool.true_or]
      · rfl

theorem isBlank_of_isFloatChar {c : Char} (h : isFloatChar c = true) : Text.isBlank c = false := by
  have hother : ['-', '.', 'i', 'n', 'f', 'N', 'a'].all fun d => !Text.isBlank d := by decide
  rcases Bool.or_eq_true_iff.mp h with h | h
  · exact isBlank_of_isDigit h
  · exact (Bool.not_eq_true' _).mp (List.all_eq_true.mp hother c (of_decide_eq_true h))

theorem floatText_ne_nil (x : Float) : (floatText x).toList ≠ [] := by
  intro h
  have := readFloat_floatText x
  rw [h] at this
  cases this

/-- Both zeros, and nothing else, compare equal to zero. -/
theorem beq_zero_iff (x : Float) : (x == 0.0) = true ↔ x = 0.0 ∨ x = -0.0 := by
  have hpos : (0.0 : Float).toModel.unpack = .zero .positive := rfl
  have hneg : (-0.0 : Float).toModel.unpack = .zero .negative := rfl
  have heq (y : Float) : x = y ↔ x.toModel.unpack = y.toModel.unpack :=
    ⟨fun h => h ▸ rfl, eq_of_unpack⟩
  rw [heq, heq, hpos, hneg]
  change (x.toModel.unpack.compare (0.0 : Float).toModel.unpack == some .eq) = true ↔ _
  rw [hpos]
  rcases x.toModel.unpack with s | _ | s | ⟨s, m, e, h⟩
  all_goals first | cases s | skip
  all_goals simp [Float.Model.UnpackedFloat.compare]

end FleetTrail.Number

namespace FleetTrail.Geo.Point

open Number (floatText)

variable (p : Point)

theorem isNull_iff :
    p.isNull = true ↔ (p.lat = 0.0 ∨ p.lat = -0.0) ∧ (p.lng = 0.0 ∨ p.lng = -0.0) := by
  rw [isNull, Bool.and_eq_true, Number.beq_zero_iff, Number.beq_zero_iff]

def tokenChars : List Char :=
  "POINT(".toList ++ ((floatText p.lng).toList ++ ' ' :: (floatText p.lat).toList) ++ [')']

theorem tokenChars_eq :
    p.tokenChars = 'P' :: 'O' :: 'I' :: 'N' :: 'T' :: '(' ::
      ((floatText p.lng).toList ++ ' ' :: (floatText p.lat).toList ++ [')']) := rfl

theorem token?_eq (h : p.isNull = false) : p.token? = some (String.ofList p.tokenChars) := by
  have hopen : "POINT(".toList = ['P', 'O', 'I', 'N', 'T', '('] := rfl
  have hspace : " ".toList = [' '] := rfl
  have hclose : ")".toList = [')'] := rfl
  rw [token?, h, if_neg (by decide)]
  refine congrArg some (String.toList_injective ?_)
  simp only [tokenChars_eq, String.toList_ofList, String.toList_append, hopen, hspace, hclose,
    List.append_assoc, List.cons_append, List.nil_append]

theorem token?_eq_none : p.token? = none ↔ p.isNull = true := by
  rw [token?]
  split <;> simp_all

theorem words_coordinates :
    Text.words ((floatText p.lng).toList ++ ' ' :: (floatText p.lat).toList) =
      [(floatText p.lng).toList, (floatText p.lat).toList] := by
  have hword (x : Float) : ∀ c ∈ (floatText x).toList, Text.isBlank c = false :=
    fun c hc => Number.isBlank_of_isFloatChar (Number.isFloatChar_of_mem hc)
  rw [Text.words_cons_word (Number.floatText_ne_nil _) (hword _) (by decide),
    Text.words_singleton (Number.floatText_ne_nil _) (hword _)]

theorem looksBinary_tokenChars : looksBinary p.tokenChars = false := by
  rw [tokenChars_eq, looksBinary]
  simp [List.isPrefixOf]

theorem dropReference_tokenChars : dropReference p.tokenChars = p.tokenChars := by
  have hfloat (x : Float) : ';' ∉ (floatText x).toList := fun h =>
    absurd (Number.isFloatChar_of_mem h) (by decide)
  have hfree : ';' ∉ p.tokenChars := by
    simp [tokenChars_eq, hfloat]
  have hnone : p.tokenChars.dropWhile (· ≠ ';') = [] := by
    rw [List.dropWhile_eq_nil_iff]
    intro c hc
    exact decide_eq_true fun h => hfree (h ▸ hc)
  rw [dropReference, hnone]

theorem insideBrackets_append (cs : List Char) :
    insideBrackets ('(' :: (cs ++ [')'])) = some cs := by
  rw [insideBrackets, List.getLast?_concat, if_pos rfl, List.dropLast_concat]

theorem readTagged_tokenChars : readTagged p.tokenChars = some (p.lng, p.lat) := by
  have hfold : Text.fold ['P', 'O', 'I', 'N', 'T'] = "point".toList := by decide
  have htag : Text.fold (p.tokenChars.take 5) = "point".toList := hfold
  have hbody : insideBrackets (Text.trimStart (p.tokenChars.drop 5)) =
      some ((floatText p.lng).toList ++ ' ' :: (floatText p.lat).toList) := by
    rw [← insideBrackets_append, ← Text.trimStart_cons (show Text.isBlank '(' = false by decide)]
    rfl
  have hlng := Number.readFloat_floatText p.lng
  have hlat := Number.readFloat_floatText p.lat
  simp [readTagged, dropReference_tokenChars, htag, hbody, words_coordinates, hlng, hlat]

/-- On the globe, the poles and the date line included. -/
def OnGlobe : Prop :=
  p.lat.isFinite = true ∧ p.lng.isFinite = true ∧ p.lat.abs ≤ 90.0 ∧ p.lng.abs ≤ 180.0

instance : Decidable p.OnGlobe := inferInstanceAs (Decidable (_ ∧ _ ∧ _ ∧ _))

theorem inRange_iff : inRange p.lat p.lng = true ↔ p.OnGlobe := by
  simp [inRange, OnGlobe, and_assoc]

/-- What is read from the token of a point, with whatever blanks around it. -/
theorem ofText_token {text : String} (h : p.token? = some text) (before after : List Char)
    (hbefore : before.all Text.isBlank = true) (hafter : after.all Text.isBlank = true) :
    ofText (String.ofList (before ++ text.toList ++ after)) =
      if p.OnGlobe then .ok p else .error (.outOfRange p.lat p.lng) := by
  have hnull : p.isNull = false := by
    rw [← Bool.not_eq_true, ← token?_eq_none, h]
    exact Option.some_ne_none _
  obtain rfl := Option.some.inj ((token?_eq p hnull).symm.trans h)
  have htrim : Text.trim (before ++ p.tokenChars ++ after) = p.tokenChars :=
    Text.trim_around (by decide) (by decide) hbefore hafter
  rw [ofText, String.toList_ofList, String.toList_ofList, htrim]
  simp [looksBinary_tokenChars, readTagged_tokenChars, inRange_iff]

theorem ofText_written {text : String} (h : p.token? = some text) :
    ofText text = if p.OnGlobe then .ok p else .error (.outOfRange p.lat p.lng) := by
  have hread := ofText_token p h [] [] rfl rfl
  rwa [List.nil_append, List.append_nil, String.ofList_toList] at hread

theorem onGlobe_of_ofText {raw : String} {q : Point} (h : ofText raw = .ok q) : q.OnGlobe := by
  rw [ofText] at h
  split at h
  · cases h
  split at h
  · cases h
  split at h
  · rename_i hrange
    cases h
    exact (inRange_iff _).mp hrange
  · cases h

theorem onGlobe_of_isNull (h : p.isNull = true) : p.OnGlobe := by
  have hzeros : ∀ lat ∈ [0.0, -0.0], ∀ lng ∈ [0.0, -0.0], (⟨lat, lng⟩ : Point).OnGlobe := by
    decide +kernel
  obtain ⟨hlat, hlng⟩ := (isNull_iff p).mp h
  exact hzeros p.lat (by simpa using hlat) p.lng (by simpa using hlng)

theorem ofOptionalText_some_eq_ok_iff {raw : String} {location : Option Point} :
    ofOptionalText (some raw) = .ok location ↔ ∃ q, ofText raw = .ok q ∧ some q = location := by
  rw [ofOptionalText]
  cases ofText raw <;> simp [Except.map]

theorem ofOptionalText_some_eq_error_iff {raw : String} {e : PointError} :
    ofOptionalText (some raw) = .error e ↔ ofText raw = .error e := by
  rw [ofOptionalText]
  cases ofText raw <;> simp [Except.map]

/-- The token of a point and what it is read as, for every point; and every text that is read as
a point other than the null point has a token that is read as it, blanks around it or not. -/
theorem token_round_trip :
    (∀ p : Point, p.token? = none ↔
      (p.lat = 0.0 ∨ p.lat = -0.0) ∧ (p.lng = 0.0 ∨ p.lng = -0.0)) ∧
    (∀ (p : Point) (text : String), p.token? = some text →
      ofText text = if p.OnGlobe then .ok p else .error (.outOfRange p.lat p.lng)) ∧
    ∀ (raw : String) (q : Point), ofText raw = .ok q → q.isNull = false →
      ∃ text, q.token? = some text ∧
        ∀ before after : List Char, before.all Text.isBlank = true → after.all Text.isBlank = true →
          ofText (String.ofList (before ++ text.toList ++ after)) = .ok q := by
  refine ⟨fun p => (token?_eq_none p).trans (isNull_iff p), fun p text => ofText_written p,
    fun raw q hread hnull => ?_⟩
  refine ⟨_, token?_eq q hnull, fun before after hbefore hafter => ?_⟩
  rw [ofText_token q (token?_eq q hnull) before after hbefore hafter,
    if_pos (onGlobe_of_ofText hread)]

end FleetTrail.Geo.Point
