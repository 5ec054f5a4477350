import FleetTrail.Proofs.Geo.RoundTrip

/-!
# The grammar of point texts

Which texts are points: a tagged point, with or without a reference system in front, or a pair in
brackets, longitude first in both. A binary form is neither, no text has two of the three forms,
and a text with none of them is malformed.
-/

namespace FleetTrail.Number

/-- The characters that a readable number is made of, the names of the special values included. -/
def isNumeral (c : Char) : Bool :=
  isDigit c || c.toLower ∈ ['+', '-', '.', 'e', 'i', 'n', 'f', 't', 'y', 'a']

private theorem isNumeral_of_isDigit {c : Char} (h : isDigit c = true) : isNumeral c = true := by
  rw [isNumeral, h, Bool.true_or]

private theorem isNumeral_of_name {name cs : List Char} (h : Text.fold cs = name)
    (hname : name.all (· ∈ ['+', '-', '.', 'e', 'i', 'n', 'f', 't', 'y', 'a']) = true) :
    ∀ c ∈ cs, isNumeral c = true := by
  intro c hc
  have hmem : c.toLower ∈ name := h ▸ List.mem_map_of_mem hc
  rw [isNumeral, List.all_eq_true.mp hname _ hmem, Bool.or_true]

private theorem isNumeral_of_dropWhile {cs : List Char}
    (h : ∀ c ∈ cs.dropWhile isDigit, isNumeral c = true) : ∀ c ∈ cs, isNumeral c = true := by
  intro c hc
  rw [← List.takeWhile_append_dropWhile (p := isDigit) (l := cs), List.mem_append] at hc
  exact hc.elim (isNumeral_of_isDigit <| List.mem_takeWhile_imp ·) (h c)

private theorem isNumeral_of_exponent {ds : List Char} {a e : Int}
    (h : (if ds.isEmpty ∨ !ds.all isDigit then none else some a) = some e) :
    ∀ c ∈ ds, isNumeral c = true := by
  split at h
  next => cases h
  next hdigits =>
    simp only [not_or, Bool.not_eq_true', Bool.not_eq_false] at hdigits
    intro c hc
    exact isNumeral_of_isDigit (List.all_eq_true.mp hdigits.2 c hc)

theorem isNumeral_of_readExponent {cs : List Char} {e : Int} (h : readExponent cs = some e) :
    ∀ c ∈ cs, isNumeral c = true := by
  rw [readExponent.eq_def] at h
  cases cs with
  | nil => simp
  | cons mark rest =>
    dsimp only at h
    split at h
    next hmark =>
      have hmark : isNumeral mark = true := by rcases hmark with rfl | rfl <;> decide
      rw [List.forall_mem_cons]
      apply And.intro hmark
      split at h
      next => exact List.forall_mem_cons.mpr ⟨by decide, isNumeral_of_exponent h⟩
      next => exact List.forall_mem_cons.mpr ⟨by decide, isNumeral_of_exponent h⟩
      next => exact isNumeral_of_exponent h
    next => cases h

private theorem isNumeral_of_tail {cs : List Char} {x : Float} {empty : Prop} [Decidable empty]
    {scale : Int → Float} (h : (if empty then none else (readExponent cs).map scale) = some x) :
    ∀ c ∈ cs, isNumeral c = true := by
  split at h
  next => cases h
  next =>
    obtain ⟨e, he, -⟩ := Option.map_eq_some_iff.mp h
    exact isNumeral_of_readExponent he

theorem isNumeral_of_readMagnitude {cs : List Char} {x : Float} (h : readMagnitude cs = some x) :
    cs ≠ [] ∧ ∀ c ∈ cs, isNumeral c = true := by
  constructor
  · rintro rfl
    cases h
  rw [readMagnitude] at h
  split at h
  next hname => exact hname.elim (isNumeral_of_name · rfl) (isNumeral_of_name · rfl)
  split at h
  next hname => exact isNumeral_of_name hname rfl
  simp only [List.span_eq_takeWhile_dropWhile] at h
  apply isNumeral_of_dropWhile
  split at h
  next hpoint =>
    rw [hpoint]
    exact List.forall_mem_cons.mpr ⟨by decide, isNumeral_of_dropWhile (isNumeral_of_tail h)⟩
  next => exact isNumeral_of_tail h

theorem isNumeral_of_readFloat {cs : List Char} {x : Float} (h : readFloat cs = some x) :
    cs ≠ [] ∧ ∀ c ∈ cs, isNumeral c = true := by
  rw [readFloat.eq_def] at h
  split at h
  next =>
    obtain ⟨y, hy, -⟩ := Option.map_eq_some_iff.mp h
    exact ⟨by simp, List.forall_mem_cons.mpr ⟨by decide, (isNumeral_of_readMagnitude hy).2⟩⟩
  next => exact ⟨by simp, List.forall_mem_cons.mpr ⟨by decide, (isNumeral_of_readMagnitude h).2⟩⟩
  next => exact isNumeral_of_readMagnitude h

theorem isBlank_of_isNumeral {c : Char} (h : isNumeral c = true) : Text.isBlank c = false := by
  have hother : ['+', '-', '.', 'e', 'i', 'n', 'f', 't', 'y', 'a'].all
      fun d => !Text.isBlank d := by decide
  rcases Bool.or_eq_true_iff.mp h with h | h
  · exact isBlank_of_isDigit h
  · rw [← Text.isBlank_toLower]
    exact (Bool.not_eq_true' _).mp (List.all_eq_true.mp hother _ (of_decide_eq_true h))

theorem not_blank_of_readFloat {cs : List Char} {x : Float} (h : readFloat cs = some x) :
    ∀ c ∈ cs, Text.isBlank c = false := by
  intro c hc
  exact isBlank_of_isNumeral ((isNumeral_of_readFloat h).2 c hc)

end FleetTrail.Number

namespace FleetTrail.Geo.Point

def Blanks (cs : List Char) : Prop := cs.all Text.isBlank = true

def Coordinate (x : Float) (cs : List Char) : Prop :=
  ∃ before number after, cs = before ++ number ++ after ∧ Blanks before ∧ Blanks after ∧
    Number.readFloat number = some x

def Coordinates (Separates : Char → Prop) (first second : Float) (cs : List Char) : Prop :=
  ∃ front separator back, cs = front ++ separator :: back ∧ Separates separator ∧
    Coordinate first front ∧ Coordinate second back

/-- The word `POINT` in any case, and blank-separated coordinates in brackets. -/
def Bare (lng lat : Float) (cs : List Char) : Prop :=
  ∃ tag gap inner, cs = tag ++ (gap ++ '(' :: (inner ++ [')'])) ∧
    Text.fold tag = "point".toList ∧ Blanks gap ∧
    Coordinates (fun c => Text.isBlank c = true) lng lat inner

/-- The name of a reference system: `SRID=` in any case and what follows it. -/
def IsReference (cs : List Char) : Prop :=
  ';' ∉ cs ∧ "srid=".toList <+: Text.fold (Text.trim cs)

/-- A point with or without a reference system in front; `Gap` says what may stand between the
semicolon behind the reference system and the point. -/
inductive Tagged (Gap : List Char → Prop) (lng lat : Float) : List Char → Prop where
  | bare {cs : List Char} (h : Bare lng lat cs) : Tagged Gap lng lat cs
  | referenced {reference gap cs : List Char} (hreference : IsReference reference) (hgap : Gap gap)
      (h : Bare lng lat cs) : Tagged Gap lng lat (reference ++ ';' :: (gap ++ cs))

def Pair (lng lat : Float) (cs : List Char) : Prop :=
  ∃ inner, cs = '(' :: (inner ++ [')']) ∧ Coordinates (· = ',') lng lat inner

def Located (lng lat : Float) (cs : List Char) : Prop :=
  Tagged Blanks lng lat cs ∨ Pair lng lat cs

/-- Hexadecimal digits of 21 bytes or more behind a byte order of 00 or 01, with or without `\x`
in front. -/
def Binary (cs : List Char) : Prop :=
  ∃ body, (cs = body ∨ cs = '\\' :: 'x' :: body) ∧ 42 ≤ body.length ∧ Even body.length ∧
    (['0', '0'] <+: body ∨ ['0', '1'] <+: body) ∧
    ∀ c ∈ body, (Number.hexDigit? c).isSome = true

theorem looksBinary_iff (cs : List Char) : looksBinary cs = true ↔ Binary cs := by
  have hbody (body : List Char) : (42 ≤ body.length && body.length % 2 == 0 &&
      (['0', '0'].isPrefixOf body || ['0', '1'].isPrefixOf body) &&
      body.all fun c => (Number.hexDigit? c).isSome) = true ↔
      42 ≤ body.length ∧ Even body.length ∧ (['0', '0'] <+: body ∨ ['0', '1'] <+: body) ∧
        ∀ c ∈ body, (Number.hexDigit? c).isSome = true := by
    simp only [Bool.and_eq_true, Bool.or_eq_true, decide_eq_true_eq, beq_iff_eq, Nat.even_iff,
      List.isPrefixOf_iff_prefix, List.all_eq_true, and_assoc]
  rw [looksBinary, hbody]
  split
  next hprefix =>
    obtain ⟨body, rfl⟩ := List.isPrefixOf_iff_prefix.mp hprefix
    constructor
    · intro h
      exact ⟨body, .inr rfl, h⟩
    · rintro ⟨other, rfl | hother, h⟩
      · exact absurd h.2.2.1 (by simp)
      · obtain rfl : body = other := by simpa using hother
        exact h
  next hprefix =>
    constructor
    · intro h
      exact ⟨cs, .inl rfl, h⟩
    · rintro ⟨body, rfl | rfl, h⟩
      · exact h
      · exact absurd rfl hprefix

theorem readFloat_trim_iff {cs : List Char} {x : Float} :
    Number.readFloat (Text.trim cs) = some x ↔ Coordinate x cs := by
  constructor
  · intro h
    obtain ⟨before, after, hbefore, hafter, hcs⟩ := Text.exists_trim cs
    exact ⟨before, Text.trim cs, after, hcs, hbefore, hafter, h⟩
  · rintro ⟨before, number, after, rfl, hbefore, hafter, h⟩
    rwa [Text.trim_solid (Number.not_blank_of_readFloat h) hbefore hafter]

theorem Coordinate.not_mem {cs : List Char} {x : Float} (h : Coordinate x cs) {c : Char}
    (hblank : Text.isBlank c = false) (hnumeral : Number.isNumeral c = false) : c ∉ cs := by
  obtain ⟨before, number, after, rfl, hbefore, hafter, hnumber⟩ := h
  simp only [List.mem_append, not_or]
  refine ⟨⟨fun hc => ?_, fun hc => ?_⟩, fun hc => ?_⟩
  · rw [List.all_eq_true.mp hbefore c hc] at hblank
    cases hblank
  · rw [(Number.isNumeral_of_readFloat hnumber).2 c hc] at hnumeral
    cases hnumeral
  · rw [List.all_eq_true.mp hafter c hc] at hblank
    cases hblank

theorem words_of_coordinate {cs : List Char} {x : Float} (h : Coordinate x cs) :
    ∃ number, Text.words cs = [number] ∧ Number.readFloat number = some x := by
  obtain ⟨before, number, after, rfl, hbefore, hafter, hnumber⟩ := h
  have hne := (Number.isNumeral_of_readFloat hnumber).1
  have hwords := Text.words_around hne (Number.not_blank_of_readFloat hnumber) hbefore hafter
  exact ⟨number, hwords, hnumber⟩

theorem coordinate_of_words {cs number : List Char} {x : Float} (h : Text.words cs = [number])
    (hnumber : Number.readFloat number = some x) : Coordinate x cs := by
  obtain ⟨before, rest, hcs, hbefore, -, hrest⟩ := Text.exists_of_words_cons h
  rw [← List.append_assoc] at hcs
  exact ⟨before, number, rest, hcs, hbefore, Text.all_isBlank_of_words hrest, hnumber⟩

theorem words_coordinates_iff {cs : List Char} {lng lat : Float} :
    (∃ first second, Text.words cs = [first, second] ∧ Number.readFloat first = some lng ∧
      Number.readFloat second = some lat) ↔
    Coordinates (fun c => Text.isBlank c = true) lng lat cs := by
  constructor
  · rintro ⟨first, second, hwords, hlng, hlat⟩
    obtain ⟨before, rest, rfl, hbefore, hhead, hrest⟩ := Text.exists_of_words_cons hwords
    cases rest with
    | nil => cases hrest
    | cons separator back =>
      have hseparator := hhead separator rfl
      have hback : Text.words back = [second] := by
        rw [← hrest]
        exact (Text.words_append_blank hseparator [] back).symm
      have hfront : Coordinate lng (before ++ first) :=
        ⟨before, first, [], (List.append_nil _).symm, hbefore, rfl, hlng⟩
      exact ⟨before ++ first, separator, back, (List.append_assoc ..).symm, hseparator, hfront,
        coordinate_of_words hback hlat⟩
  · rintro ⟨front, separator, back, rfl, hseparator, hfront, hback⟩
    obtain ⟨first, hfirst, hlng⟩ := words_of_coordinate hfront
    obtain ⟨second, hsecond, hlat⟩ := words_of_coordinate hback
    refine ⟨first, second, ?_, hlng, hlat⟩
    rw [Text.words_append_blank hseparator, hfirst, hsecond, List.singleton_append]

theorem insideBrackets_eq_some_iff {cs inner : List Char} :
    insideBrackets cs = some inner ↔ cs = '(' :: (inner ++ [')']) := by
  constructor
  · intro h
    rw [insideBrackets.eq_def] at h
    split at h
    next rest =>
      split at h
      next hlast =>
        obtain ⟨front, rfl⟩ := List.getLast?_eq_some_iff.mp hlast
        rw [List.dropLast_concat] at h
        rw [Option.some.inj h]
      next => cases h
    next => cases h
  · rintro rfl
    exact insideBrackets_append inner

section FirstSeparator

variable {c : Char} {front back : List Char} (h : c ∉ front)

include h in
private theorem ne_of_mem : ∀ d ∈ front, decide (d ≠ c) = true := by
  intro d hd
  exact decide_eq_true fun heq => h (heq ▸ hd)

include h in
theorem takeWhile_first : (front ++ c :: back).takeWhile (· ≠ c) = front := by
  rw [List.takeWhile_append_of_pos (ne_of_mem h), List.takeWhile_cons_of_neg (by simp),
    List.append_nil]

include h in
theorem dropWhile_first : (front ++ c :: back).dropWhile (· ≠ c) = c :: back := by
  rw [List.dropWhile_append_of_pos (ne_of_mem h), List.dropWhile_cons_of_neg (by simp)]

end FirstSeparator

theorem exists_first {c d : Char} {cs back : List Char} (h : cs.dropWhile (· ≠ c) = d :: back) :
    cs = cs.takeWhile (· ≠ c) ++ c :: back ∧ c ∉ cs.takeWhile (· ≠ c) := by
  have hd : d = c := by
    have hhead := List.head?_dropWhile_not (· ≠ c) cs
    rw [h] at hhead
    simpa using hhead
  constructor
  · rw [← hd, ← h, hd, List.takeWhile_append_dropWhile]
  · intro hc
    simpa using List.mem_takeWhile_imp hc

theorem readPair_eq_some_iff {cs : List Char} {lng lat : Float} :
    readPair cs = some (lng, lat) ↔ Pair lng lat cs := by
  simp only [readPair, Option.bind_eq_bind, Option.bind_eq_some_iff, insideBrackets_eq_some_iff]
  constructor
  · rintro ⟨inner, rfl, h⟩
    split at h
    next hdrop =>
      simp only [Option.bind_eq_some_iff, Option.pure_def, Option.some.injEq, Prod.mk.injEq,
        readFloat_trim_iff] at h
      obtain ⟨_, hfront, _, hback, rfl, rfl⟩ := h
      exact ⟨inner, rfl, _, ',', _, (exists_first hdrop).1, rfl, hfront, hback⟩
    next => cases h
  · rintro ⟨inner, rfl, front, _, back, rfl, rfl, hfront, hback⟩
    have hfree : ',' ∉ front := hfront.not_mem (by decide) (by decide)
    refine ⟨_, rfl, ?_⟩
    rw [dropWhile_first hfree, takeWhile_first hfree]
    simp only [readFloat_trim_iff.mpr hfront, readFloat_trim_iff.mpr hback]
    rfl

section Tagged

variable {cs : List Char} {lng lat : Float}

theorem bare_iff : Bare lng lat cs ↔ Text.fold (cs.take 5) = "point".toList ∧
    ∃ inner, Text.trimStart (cs.drop 5) = '(' :: (inner ++ [')']) ∧
      Coordinates (fun c => Text.isBlank c = true) lng lat inner := by
  constructor
  · rintro ⟨tag, gap, inner, rfl, htag, hgap, hcoordinates⟩
    have hlength : tag.length = 5 := by simpa [Text.fold] using congrArg List.length htag
    rw [List.take_left' hlength, List.drop_left' hlength, Text.trimStart_append hgap,
      Text.trimStart_cons (by decide)]
    exact ⟨htag, inner, rfl, hcoordinates⟩
  · rintro ⟨htag, inner, hinner, hcoordinates⟩
    refine ⟨cs.take 5, (cs.drop 5).takeWhile Text.isBlank, inner, ?_, htag, List.all_takeWhile,
      hcoordinates⟩
    rw [← hinner, Text.trimStart, List.takeWhile_append_dropWhile, List.take_append_drop]

theorem readTagged_eq_some_iff_bare :
    readTagged cs = some (lng, lat) ↔ Bare lng lat (dropReference cs) := by
  rw [readTagged, bare_iff]
  by_cases htag : Text.fold ((dropReference cs).take 5) = "point".toList
  · simp only [htag, not_true_eq_false, ne_eq, if_false, true_and, Option.bind_eq_bind,
      Option.bind_eq_some_iff, insideBrackets_eq_some_iff, ← words_coordinates_iff]
    apply exists_congr
    intro inner
    apply and_congr_right
    intro _
    rcases Text.words inner with _ | ⟨first, _ | ⟨second, _ | ⟨third, rest⟩⟩⟩
    · simp
    · simp
    · simp [Option.bind_eq_some_iff]
    · simp
  · simp only [htag, ne_eq, not_false_eq_true, if_true, false_and]
    constructor
    · intro h
      cases h
    · exact False.elim

theorem Bare.exists_cons (h : Bare lng lat cs) : ∃ c rest, cs = c :: rest ∧ c.toLower = 'p' := by
  have htag := (bare_iff.mp h).1
  cases cs with
  | nil => cases htag
  | cons c rest => exact ⟨c, rest, rfl, List.head_eq_of_cons_eq htag⟩

theorem Bare.trim_behind {gap : List Char} (h : Bare lng lat cs) (hgap : Blanks gap) :
    Text.trim (gap ++ cs) = cs := by
  obtain ⟨c, rest, hhead, hc⟩ := h.exists_cons
  have hblank : Text.isBlank c = false := by
    rw [← Text.isBlank_toLower, hc]
    decide
  have hstart : Text.trimStart cs = cs := hhead ▸ Text.trimStart_cons hblank rest
  rw [Text.trim, Text.trimStart_append hgap, hstart]
  obtain ⟨tag, between, inner, rfl, -⟩ := h
  have hend := Text.trimEnd_concat (c := ')') (by decide) (tag ++ (between ++ '(' :: inner))
  simpa using hend

theorem isReference_iff {reference : List Char} (h : ';' ∉ reference) : IsReference reference ↔
    "srid=".toList.isPrefixOf (Text.fold (Text.trim reference)) = true := by
  rw [List.isPrefixOf_iff_prefix, IsReference, and_iff_right h]

theorem dropReference_referenced {reference rest : List Char} (h : IsReference reference) :
    dropReference (reference ++ ';' :: rest) = Text.trim rest := by
  rw [dropReference, dropWhile_first h.1, takeWhile_first h.1]
  exact if_pos ((isReference_iff h.1).mp h)

theorem dropReference_cases (cs : List Char) : dropReference cs = cs ∨
    ∃ reference rest, IsReference reference ∧ cs = reference ++ ';' :: rest ∧
      dropReference cs = Text.trim rest := by
  cases hdrop : cs.dropWhile (· ≠ ';') with
  | nil =>
    left
    rw [dropReference, hdrop]
  | cons _ rest =>
    obtain ⟨hcs, hfree⟩ := exists_first hdrop
    by_cases hreference : IsReference (cs.takeWhile (· ≠ ';'))
    · right
      refine ⟨_, rest, hreference, hcs, ?_⟩
      rw [← dropReference_referenced hreference, ← hcs]
    · left
      rw [dropReference, hdrop]
      exact if_neg (mt (isReference_iff hfree).mpr hreference)

theorem IsReference.exists_cons {reference : List Char} (h : IsReference reference) :
    ∃ c rest, reference = c :: rest ∧ (Text.isBlank c = true ∨ c.toLower = 's') := by
  obtain ⟨before, after, hbefore, -, hsplit⟩ := Text.exists_trim reference
  cases before with
  | cons c before =>
    have hc := List.all_eq_true.mp hbefore c List.mem_cons_self
    exact ⟨c, _, hsplit, .inl hc⟩
  | nil =>
    obtain ⟨tail, htail⟩ := h.2
    cases htrim : Text.trim reference with
    | nil => rw [htrim] at htail; cases htail
    | cons c rest =>
      rw [htrim] at htail hsplit
      exact ⟨c, _, hsplit, .inr (List.head_eq_of_cons_eq htail).symm⟩

theorem Bare.dropReference_eq (h : Bare lng lat cs) : dropReference cs = cs := by
  rcases dropReference_cases cs with hsame | ⟨reference, rest, hreference, rfl, -⟩
  · exact hsame
  · exfalso
    obtain ⟨c, tail, hcs, hc⟩ := h.exists_cons
    obtain ⟨d, others, rfl, hd⟩ := hreference.exists_cons
    obtain rfl : d = c := List.head_eq_of_cons_eq hcs
    rw [← Text.isBlank_toLower, hc] at hd
    revert hd
    decide

theorem readTagged_eq_some_iff (htrim : Text.trimEnd cs = cs) :
    readTagged cs = some (lng, lat) ↔ Tagged Blanks lng lat cs := by
  rw [readTagged_eq_some_iff_bare]
  constructor
  · intro h
    rcases dropReference_cases cs with hsame | ⟨reference, rest, hreference, rfl, hdrop⟩
    · exact .bare (hsame ▸ h)
    · have hsplit : rest.takeWhile Text.isBlank ++ Text.trimStart rest = rest :=
        List.takeWhile_append_dropWhile
      have hend : Text.trim rest = Text.trimStart rest := by
        apply Text.trimEnd_behind (reference ++ ';' :: rest.takeWhile Text.isBlank)
        simpa [hsplit] using htrim
      rw [hdrop, hend] at h
      rw [← hsplit]
      exact .referenced hreference List.all_takeWhile h
  · intro h
    cases h with
    | bare h => exact h.dropReference_eq.symm ▸ h
    | referenced hreference hgap h =>
      rwa [dropReference_referenced hreference, h.trim_behind hgap]

/-- With nothing allowed in front of it, a bare point is all that follows the first semicolon. -/
theorem Tagged.bare_behind (h : Tagged (· = []) lng lat cs) :
    Bare lng lat cs ∨ ∃ point, cs.dropWhile (· ≠ ';') = ';' :: point ∧ Bare lng lat point := by
  cases h with
  | bare h => exact .inl h
  | referenced hreference hgap h =>
    right
    rw [dropWhile_first hreference.1, hgap]
    exact ⟨_, rfl, h⟩

end Tagged

section Forms

variable {cs : List Char} {lng lat lng' lat' : Float}

theorem Tagged.exists_head {Gap : List Char → Prop} (h : Tagged Gap lng lat cs) :
    ∃ c, cs.head? = some c ∧ (Text.isBlank c = true ∨ c.toLower = 's' ∨ c.toLower = 'p') := by
  cases h with
  | bare h =>
    obtain ⟨c, rest, rfl, hc⟩ := h.exists_cons
    exact ⟨c, rfl, .inr (.inr hc)⟩
  | referenced hreference =>
    obtain ⟨c, rest, rfl, hc⟩ := hreference.exists_cons
    exact ⟨c, rfl, hc.imp_right .inl⟩

theorem Tagged.head_ne {Gap : List Char → Prop} (h : Tagged Gap lng lat cs) :
    ∀ c ∈ ['(', '0', '\\'], cs.head? ≠ some c := by
  have hother : ['(', '0', '\\'].all fun c =>
      !(Text.isBlank c || (c.toLower == 's' || c.toLower == 'p')) := by decide
  obtain ⟨d, hhead, hd⟩ := h.exists_head
  intro c hc heq
  obtain rfl : d = c := Option.some.inj (hhead.symm.trans heq)
  have hd : (Text.isBlank d || (d.toLower == 's' || d.toLower == 'p')) = true := by simpa using hd
  have hnone := List.all_eq_true.mp hother d hc
  rw [hd] at hnone
  cases hnone

theorem Pair.head (h : Pair lng lat cs) : cs.head? = some '(' := by
  obtain ⟨inner, rfl, -⟩ := h
  rfl

theorem Binary.head (h : Binary cs) : cs.head? = some '0' ∨ cs.head? = some '\\' := by
  obtain ⟨body, rfl | rfl, -, -, ⟨rest, hrest⟩ | ⟨rest, hrest⟩, -⟩ := h
  · exact .inl (hrest ▸ rfl)
  · exact .inl (hrest ▸ rfl)
  · exact .inr rfl
  · exact .inr rfl

theorem Tagged.not_pair {Gap : List Char → Prop} (h : Tagged Gap lng lat cs) :
    ¬ Pair lng' lat' cs :=
  fun hpair => h.head_ne '(' (by simp) hpair.head

theorem Tagged.not_binary {Gap : List Char → Prop} (h : Tagged Gap lng lat cs) : ¬ Binary cs :=
  fun hbinary => hbinary.head.elim (h.head_ne '0' (by simp)) (h.head_ne '\\' (by simp))

theorem Pair.not_binary (h : Pair lng lat cs) : ¬ Binary cs := by
  intro hbinary
  rcases hbinary.head with hhead | hhead
  · exact absurd (h.head.symm.trans hhead) (by decide)
  · exact absurd (h.head.symm.trans hhead) (by decide)

theorem Located.not_binary (h : Located lng lat cs) : ¬ Binary cs :=
  h.elim Tagged.not_binary Pair.not_binary

theorem read_eq_some_iff (htrim : Text.trimEnd cs = cs) :
    (readTagged cs <|> readPair cs) = some (lng, lat) ↔ Located lng lat cs := by
  rw [Option.orElse_eq_orElse, Option.orElse_eq_or, Option.or_eq_some_iff,
    readTagged_eq_some_iff htrim, readPair_eq_some_iff, Located]
  apply or_congr_right
  apply and_iff_right_of_imp
  intro hpair
  rw [Option.eq_none_iff_forall_ne_some]
  rintro ⟨first, second⟩ hread
  exact ((readTagged_eq_some_iff htrim).mp hread).not_pair hpair

end Forms

abbrev trimmed (raw : String) : List Char := Text.trim raw.toList

def answer (lng lat : Float) : Except PointError Point :=
  if OnGlobe ⟨lat, lng⟩ then .ok ⟨lat, lng⟩ else .error (.outOfRange lat lng)

section Reading

variable {raw : String} {lng lat : Float}

theorem ofText_binary (h : Binary (trimmed raw)) : ofText raw = .error .binary := by
  rw [ofText]
  exact if_pos ((looksBinary_iff _).mpr h)

theorem ofText_located (h : Located lng lat (trimmed raw)) :
    ofText raw = answer lng lat := by
  have hbinary := mt (looksBinary_iff _).mp h.not_binary
  have hread := (read_eq_some_iff (Text.trimEnd_trim _)).mpr h
  have hrange : inRange lat lng = true ↔ OnGlobe ⟨lat, lng⟩ := inRange_iff ⟨lat, lng⟩
  simp [ofText, hbinary, hread, hrange, answer]

theorem ofText_other (hbinary : ¬ Binary (trimmed raw))
    (hother : ∀ lng lat, ¬ Located lng lat (trimmed raw)) :
    ofText raw = .error (.malformed (String.ofList (trimmed raw))) := by
  have hread : (readTagged (trimmed raw) <|> readPair (trimmed raw)) = none := by
    rw [Option.eq_none_iff_forall_ne_some]
    rintro ⟨lng, lat⟩ hread
    exact hother lng lat ((read_eq_some_iff (Text.trimEnd_trim _)).mp hread)
  simp only [ofText, mt (looksBinary_iff _).mp hbinary, hread]
  rfl

/-- Every text has one of the forms, or it is malformed. -/
theorem ofText_cases (raw : String) :
    (Binary (trimmed raw) ∧ ofText raw = .error .binary) ∨
    (∃ lng lat, Located lng lat (trimmed raw) ∧ ofText raw = answer lng lat) ∨
    (¬ Binary (trimmed raw) ∧ (∀ lng lat, ¬ Located lng lat (trimmed raw)) ∧
      ofText raw = .error (.malformed (String.ofList (trimmed raw)))) := by
  by_cases hbinary : Binary (trimmed raw)
  · exact .inl ⟨hbinary, ofText_binary hbinary⟩
  by_cases hlocated : ∃ lng lat, Located lng lat (trimmed raw)
  · obtain ⟨lng, lat, h⟩ := hlocated
    exact .inr (.inl ⟨lng, lat, h, ofText_located h⟩)
  · simp only [not_exists] at hlocated
    exact .inr (.inr ⟨hbinary, hlocated, ofText_other hbinary hlocated⟩)

theorem answer_eq_ok_iff {p : Point} :
    answer lng lat = .ok p ↔ (⟨lat, lng⟩ : Point) = p ∧ p.OnGlobe := by
  rw [answer]
  constructor
  · intro h
    split at h
    next hglobe => cases h; exact ⟨rfl, hglobe⟩
    next => cases h
  · rintro ⟨rfl, hglobe⟩
    exact if_pos hglobe

theorem answer_eq_error_iff {e : PointError} :
    answer lng lat = .error e ↔ .outOfRange lat lng = e ∧ ¬ OnGlobe ⟨lat, lng⟩ := by
  rw [answer]
  constructor
  · intro h
    split at h
    next => cases h
    next hglobe => cases h; exact ⟨rfl, hglobe⟩
  · rintro ⟨rfl, hglobe⟩
    exact if_neg hglobe

theorem ofText_eq_binary_iff : ofText raw = .error .binary ↔ Binary (trimmed raw) := by
  constructor
  · intro h
    rcases ofText_cases raw with ⟨hbinary, -⟩ | ⟨lng, lat, -, hread⟩ | ⟨-, -, hread⟩
    · exact hbinary
    · cases (answer_eq_error_iff.mp (hread.symm.trans h)).1
    · cases hread.symm.trans h
  · exact ofText_binary

theorem ofText_eq_ok_iff {p : Point} : ofText raw = .ok p ↔
    Located p.lng p.lat (trimmed raw) ∧ p.OnGlobe := by
  constructor
  · intro h
    rcases ofText_cases raw with ⟨-, hread⟩ | ⟨lng, lat, hlocated, hread⟩ | ⟨-, -, hread⟩
    · cases hread.symm.trans h
    · obtain ⟨rfl, hglobe⟩ := answer_eq_ok_iff.mp (hread.symm.trans h)
      exact ⟨hlocated, hglobe⟩
    · cases hread.symm.trans h
  · rintro ⟨hlocated, hglobe⟩
    rw [ofText_located hlocated]
    exact answer_eq_ok_iff.mpr ⟨rfl, hglobe⟩

theorem ofText_eq_outOfRange_iff : ofText raw = .error (.outOfRange lat lng) ↔
    Located lng lat (trimmed raw) ∧ ¬ OnGlobe ⟨lat, lng⟩ := by
  constructor
  · intro h
    rcases ofText_cases raw with ⟨-, hread⟩ | ⟨lng', lat', hlocated, hread⟩ | ⟨-, -, hread⟩
    · cases hread.symm.trans h
    · obtain ⟨heq, hglobe⟩ := answer_eq_error_iff.mp (hread.symm.trans h)
      cases heq
      exact ⟨hlocated, hglobe⟩
    · cases hread.symm.trans h
  · rintro ⟨hlocated, hglobe⟩
    rw [ofText_located hlocated]
    exact answer_eq_error_iff.mpr ⟨rfl, hglobe⟩

theorem ofText_eq_malformed_iff {text : String} : ofText raw = .error (.malformed text) ↔
    text = String.ofList (trimmed raw) ∧ ¬ Binary (trimmed raw) ∧
      ∀ lng lat, ¬ Located lng lat (trimmed raw) := by
  constructor
  · intro h
    rcases ofText_cases raw with ⟨-, hread⟩ | ⟨lng, lat, -, hread⟩ | ⟨hbinary, hother, hread⟩
    · cases hread.symm.trans h
    · cases (answer_eq_error_iff.mp (hread.symm.trans h)).1
    · cases hread.symm.trans h
      exact ⟨rfl, hbinary, hother⟩
  · rintro ⟨rfl, hbinary, hother⟩
    exact ofText_other hbinary hother

end Reading

/-- The three ways to settle a trimmed text. Each leaves the texts it does not know to the
others. -/
def readers : List (List Char → Option (Except PointError Point)) :=
  [fun cs => if looksBinary cs then some (.error .binary) else none,
    fun cs => (readTagged cs).map fun (lng, lat) => answer lng lat,
    fun cs => (readPair cs).map fun (lng, lat) => answer lng lat]

theorem ofText_of_reader {raw : String} {read : List Char → Option (Except PointError Point)}
    (hread : read ∈ readers) {result : Except PointError Point}
    (h : read (trimmed raw) = some result) : ofText raw = result := by
  simp only [readers, List.mem_cons, List.not_mem_nil, or_false] at hread
  rcases hread with rfl | rfl | rfl
  · dsimp only at h
    split at h
    next hbinary =>
      cases h
      exact ofText_binary ((looksBinary_iff _).mp hbinary)
    next => cases h
  · obtain ⟨⟨lng, lat⟩, hread, rfl⟩ := Option.map_eq_some_iff.mp h
    exact ofText_located (.inl ((readTagged_eq_some_iff (Text.trimEnd_trim _)).mp hread))
  · obtain ⟨⟨lng, lat⟩, hread, rfl⟩ := Option.map_eq_some_iff.mp h
    exact ofText_located (.inr (readPair_eq_some_iff.mp hread))

theorem ofText_of_no_reader {raw : String}
    (h : ∀ read ∈ readers, read (trimmed raw) = none) :
    ofText raw = .error (.malformed (String.ofList (trimmed raw))) := by
  simp only [readers, List.forall_mem_cons, Option.map_eq_none_iff] at h
  obtain ⟨hbinary, htagged, hpair, -⟩ := h
  apply ofText_other
  · intro hform
    rw [(looksBinary_iff _).mpr hform] at hbinary
    cases hbinary
  · intro lng lat hform
    have hread := (read_eq_some_iff (Text.trimEnd_trim _)).mpr hform
    rw [htagged, hpair] at hread
    cases hread

/-- The readers may be asked in any order. -/
theorem ofText_reordered (raw : String)
    {order : List (List Char → Option (Except PointError Point))} (horder : order.Perm readers) :
    ofText raw = (order.findSome? fun read => read (trimmed raw)).getD
      (.error (.malformed (String.ofList (trimmed raw)))) := by
  cases hfound : order.findSome? fun read => read (trimmed raw) with
  | some result =>
    obtain ⟨read, hread, h⟩ := List.exists_of_findSome?_eq_some hfound
    exact ofText_of_reader (horder.mem_iff.mp hread) h
  | none =>
    rw [List.findSome?_eq_none_iff] at hfound
    exact ofText_of_no_reader fun read hread => hfound read (horder.mem_iff.mpr hread)

/-- Which texts are binary forms, points, points off the globe and malformed; no text has two of
the three forms, so that the order of the checks does not count. -/
theorem texts_classified (raw : String) :
    (ofText raw = .error .binary ↔ Binary (trimmed raw)) ∧
    (∀ p : Point, ofText raw = .ok p ↔
      (Tagged Blanks p.lng p.lat (trimmed raw) ∨ Pair p.lng p.lat (trimmed raw)) ∧ p.OnGlobe) ∧
    (∀ lat lng, ofText raw = .error (.outOfRange lat lng) ↔
      (Tagged Blanks lng lat (trimmed raw) ∨ Pair lng lat (trimmed raw)) ∧
        ¬ OnGlobe ⟨lat, lng⟩) ∧
    (∀ text, ofText raw = .error (.malformed text) ↔
      text = String.ofList (trimmed raw) ∧ ¬ Binary (trimmed raw) ∧
        ∀ lng lat, ¬ (Tagged Blanks lng lat (trimmed raw) ∨ Pair lng lat (trimmed raw))) ∧
    (∀ lng lat, Tagged Blanks lng lat (trimmed raw) →
      ¬ Binary (trimmed raw) ∧ ∀ lng' lat', ¬ Pair lng' lat' (trimmed raw)) ∧
    (∀ lng lat, Pair lng lat (trimmed raw) → ¬ Binary (trimmed raw)) ∧
    ∀ order : List (List Char → Option (Except PointError Point)), order.Perm readers →
      ofText raw = (order.findSome? fun read => read (trimmed raw)).getD
        (.error (.malformed (String.ofList (trimmed raw)))) := by
  refine ⟨ofText_eq_binary_iff, fun p => ofText_eq_ok_iff, fun lat lng => ofText_eq_outOfRange_iff,
    fun text => ofText_eq_malformed_iff, ?_, ?_, ?_⟩
  · intro lng lat htagged
    exact ⟨htagged.not_binary, fun lng' lat' => htagged.not_pair⟩
  · intro lng lat hpair
    exact hpair.not_binary
  · intro order horder
    exact ofText_reordered raw horder

/-- A blank between a reference system and its point is skipped: with no blanks there this text
has none of the forms, and still it is read as a point. -/
theorem blank_behind_reference_skipped :
    (∀ lng lat, ¬ Tagged (· = []) lng lat (trimmed "SRID=4326; POINT(1 2)") ∧
      ¬ Pair lng lat (trimmed "SRID=4326; POINT(1 2)")) ∧
    ¬ Binary (trimmed "SRID=4326; POINT(1 2)") ∧
    ofText "SRID=4326; POINT(1 2)" = .ok ⟨2.0, 1.0⟩ := by
  have htagged : Tagged Blanks 1.0 2.0 (trimmed "SRID=4326; POINT(1 2)") := by
    rw [← readTagged_eq_some_iff (Text.trimEnd_trim _)]
    decide +kernel
  refine ⟨fun lng lat => ⟨fun h => ?_, htagged.not_pair⟩, htagged.not_binary, ?_⟩
  · rcases h.bare_behind with hbare | ⟨point, hpoint, hbare⟩
    · exact absurd (bare_iff.mp hbare).1 (by decide)
    · have hbehind : (trimmed "SRID=4326; POINT(1 2)").dropWhile (· ≠ ';') =
          ';' :: " POINT(1 2)".toList := by decide
      obtain rfl := List.tail_eq_of_cons_eq (hpoint.symm.trans hbehind)
      exact absurd (bare_iff.mp hbare).1 (by decide)
  · exact ofText_eq_ok_iff.mpr ⟨.inl htagged, by decide +kernel⟩

end FleetTrail.Geo.Point
