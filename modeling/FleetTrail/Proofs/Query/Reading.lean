import FleetTrail.Proofs.Query.Completion
import FleetTrail.Proofs.Sql.Reader

/-!
# How the calls are read

Each part that a call emits is read as a condition, wherever its numbers start, and the condition
is true at the rows that meet the criterion of the call. The values are looked up under the numbers
that stand in the text, so a part keeps its meaning among other parts.
-/

namespace FleetTrail.Query

open Sql

/-- A criterion on rows, under what is taken as given. -/
abbrev Criterion := Given → Row → Prop

/-- Wherever its numbers start, the part is read as a condition that is true at the rows of the
criterion, when its values are bound under its numbers. -/
def Part.Means (p : Part) (criterion : Criterion) : Prop :=
  ∀ n text, p.text n = .ok text → ∃ c, Reads (tokens text) c ∧
    ∀ given args row, (∀ i v, p.values[i]? = some v → bound args (n + i) = some v) →
      (c.truth given args row = .yes ↔ criterion given row)

def Names (name : String) (c : Column) : Prop := column? name.toList = some c

def Equals (c : Column) (v : Value) : Criterion := fun _ row =>
  ∃ a, row c.source c.field = some a ∧ same a v

def OneOf (c : Column) (array : Value) : Criterion := fun given row =>
  ∃ v ∈ elements array, Equals c v given row

def Matches (c : Column) (pattern : Value) : Criterion := fun given row =>
  ∃ a, row c.source c.field = some a ∧ given.ilike a pattern

def AtLeast (c : Column) (v : Value) : Criterion := fun _ row =>
  ∃ a, row c.source c.field = some a ∧ ordered v a

def AtMost (c : Column) (v : Value) : Criterion := fun _ row =>
  ∃ a, row c.source c.field = some a ∧ ordered a v

def Near (c : Column) (x y metres : Value) : Criterion := fun given row =>
  ∃ a, row c.source c.field = some a ∧ given.near a x y metres

section One

variable {name : String} {c : Column}

theorem text_of_marker (front back : String) (hfront : '$' ∉ front.toList)
    (hback : '$' ∉ back.toList) {n : Nat} {v : Value} {text : List Char}
    (h : (Part.numbered (front ++ marker ++ back) [v]).text n = .ok text) :
    text = front.toList ++ (placeholder n ++ back.toList) := by
  rw [Part.text, String.toList_append, String.toList_append, List.append_assoc] at h
  obtain ⟨rest, hrest, rfl⟩ := numberMarkers_marker hfront h
  rw [numberMarkers_of_no_dollar hback] at hrest
  cases hrest
  rfl

theorem means_of_marker {front back : String} (hfront : '$' ∉ front.toList)
    (hback : '$' ∉ back.toList) {v : Value} {criterion : Criterion} (ts : Nat → List Token)
    (condition : Nat → Condition)
    (htokens : ∀ n, tokens (front.toList ++ (placeholder n ++ back.toList)) = ts n)
    (hreads : ∀ n, Reads (ts n) (condition n))
    (htruth : ∀ n given args row, bound args n = some v →
      ((condition n).truth given args row = .yes ↔ criterion given row)) :
    (Part.numbered (front ++ marker ++ back) [v]).Means criterion := by
  intro n text htext
  refine ⟨condition n, ?_, fun given args row hbound => ?_⟩
  · rw [text_of_marker front back hfront hback htext, htokens]
    exact hreads n
  · exact htruth n given args row (hbound 0 v rfl)

private theorem dollar_not_mem_behind (h : Names name c) {suffix : String}
    (hsuffix : '$' ∉ suffix.toList) : '$' ∉ (name ++ suffix).toList := by
  rw [String.toList_append]
  exact fun hmem => (List.mem_append.mp hmem).elim (dollar_not_mem_column h) hsuffix

private theorem tokens_column_blank (h : Names name c) (rest : List Char) :
    tokens (name.toList ++ ' ' :: rest) = .column c :: tokens rest := by
  rw [tokens_blank, tokens_column h]
  rfl

theorem tokens_placeholder_closing (n : Nat) (rest : List Char) :
    tokens (placeholder n ++ ')' :: rest) = .param n :: .closing :: tokens rest := by
  rw [tokens_separator rfl, tokens_placeholder]
  rfl

/-- The text of an operator between two operands is one word. -/
def Operates (operator : String) (w : Word) : Prop :=
  '$' ∉ operator.toList ∧ ∀ a rest : List Char,
    tokens (a ++ (operator.toList ++ rest)) = tokens a ++ .word w :: tokens rest

theorem operates_equals : Operates " = " .equals :=
  ⟨by decide, fun a rest => tokens_blank a ("= ".toList ++ rest)⟩

theorem operates_atLeast : Operates " >= " .atLeast :=
  ⟨by decide, fun a rest => tokens_blank a (">= ".toList ++ rest)⟩

theorem operates_atMost : Operates " <= " .atMost :=
  ⟨by decide, fun a rest => tokens_blank a ("<= ".toList ++ rest)⟩

theorem operates_ilike : Operates " ILIKE " .ilike :=
  ⟨by decide, fun a rest => tokens_blank a ("ILIKE ".toList ++ rest)⟩

private theorem tokens_operation (h : Names name c) {operator : String} {w : Word}
    (hoperator : Operates operator w) (n : Nat) :
    tokens (name.toList ++ (operator.toList ++ placeholder n)) =
      [.column c, .word w, .param n] := by
  rw [hoperator.2, tokens_column h, tokens_placeholder]
  rfl

private theorem compare_truth {relation : Relation} {n : Nat} {v : Value} {given : Given}
    {args : List Value} {row : Row} (hbound : bound args n = some v) :
    (Condition.compare (.column c) relation (.param n)).truth given args row = .yes ↔
      ∃ a, row c.source c.field = some a ∧ relation.holds a v := by
  rw [Condition.truth, strict_eq_yes]
  simp only [Operand.value, hbound]
  simp

private theorem compare_means (h : Names name c) {operator : String} {w : Word}
    (hoperator : Operates operator w) (relation : Relation)
    (hreads : ∀ n, Reads [.column c, .word w, .param n] (.compare (.column c) relation (.param n)))
    (v : Value) :
    (Part.numbered (name ++ operator ++ marker) [v]).Means fun _ row =>
      ∃ a, row c.source c.field = some a ∧ relation.holds a v := by
  have hfragment : name ++ operator ++ marker = name ++ operator ++ marker ++ "" := by
    rw [String.append_empty]
  rw [hfragment]
  refine means_of_marker (dollar_not_mem_behind h hoperator.1) (by decide) _ _ (fun n => ?_) hreads
    fun n given args row hbound => ?_
  · have hempty : "".toList = [] := rfl
    rw [hempty, List.append_nil, String.toList_append, List.append_assoc]
    exact tokens_operation h hoperator n
  · exact compare_truth hbound

theorem equals_means (h : Names name c) (v : Value) :
    (Part.numbered (equalsFragment name) [v]).Means (Equals c v) :=
  compare_means h operates_equals .equals (fun _ => ⟨.tokens _ 0, rfl, fun _ _ => rfl⟩) v

theorem atLeast_means (h : Names name c) (v : Value) :
    (Part.numbered (name ++ " >= " ++ marker) [v]).Means (AtLeast c v) :=
  compare_means h operates_atLeast .atLeast (fun _ => ⟨.tokens _ 0, rfl, fun _ _ => rfl⟩) v

theorem atMost_means (h : Names name c) (v : Value) :
    (Part.numbered (name ++ " <= " ++ marker) [v]).Means (AtMost c v) :=
  compare_means h operates_atMost .atMost (fun _ => ⟨.tokens _ 0, rfl, fun _ _ => rfl⟩) v

theorem anyOf_truth {given : Given} {args : List Value} {row : Row} {n : Nat} {v : Value}
    (hbound : bound args n = some v) :
    (Condition.anyOf (.column c) (.param n)).truth given args row = .yes ↔ OneOf c v given row := by
  simp only [Condition.truth, Operand.value, hbound, Truth.any_eq_yes, List.mem_map,
    strict_eq_yes, OneOf, Equals]
  simp

theorem reads_anyOf (c : Column) (n : Nat) :
    Reads [.column c, .word .equals, .word .any, .opening, .param n, .closing]
      (.anyOf (.column c) (.param n)) := ⟨.tokens _ 0, rfl, fun _ _ => rfl⟩

theorem within_means (h : Names name c) (v : Value) :
    (Part.numbered (withinFragment name) [v]).Means (OneOf c v) := by
  refine means_of_marker (dollar_not_mem_behind h (by decide)) (by decide) _ _ (fun n => ?_)
    (reads_anyOf c) fun n given args row hbound => anyOf_truth hbound
  have htokens : tokens (name.toList ++ ' ' :: ("= ANY(".toList ++ (placeholder n ++ ")".toList))) =
      .column c :: .word .equals :: .word .any :: .opening ::
        tokens (placeholder n ++ ")".toList) := tokens_column_blank h _
  rw [String.toList_append, List.append_assoc]
  exact htokens.trans (by rw [show ")".toList = ')' :: [] from rfl, tokens_placeholder_closing]; rfl)

/-- The exclusion of an array is the opposite of membership, also at NULL. -/
theorem notWithin_means (h : Names name c) (v : Value) :
    (Part.numbered (notWithinFragment name) [v]).Means fun given row => ¬OneOf c v given row := by
  have hfront : '$' ∉ ("(" ++ name ++ " IS NULL OR " ++ name ++ " <> ALL(").toList := by
    simp only [String.toList_append, List.mem_append, not_or]
    exact ⟨⟨⟨⟨by decide, dollar_not_mem_column h⟩, by decide⟩, dollar_not_mem_column h⟩, by decide⟩
  have hreads (n : Nat) : Reads
      (.opening :: [Token.word .disj].intercalate
        [[.column c, .word .isOperator, .word .null],
          [.column c, .word .differs, .word .all, .opening, .param n, .closing]] ++ [.closing])
      (.or (.isNull (.column c)) (.noneOf (.column c) (.param n))) :=
    reads_group ⟨.tokens _ 0, rfl, fun _ _ => rfl⟩
      (.cons ⟨.tokens _ 0, rfl, fun _ _ => rfl⟩ .nil)
  refine means_of_marker hfront (by decide) _ _ (fun n => ?_) hreads
    fun n given args row hbound => ?_
  · simp only [String.toList_append, List.append_assoc]
    have hsecond : tokens (name.toList ++ ' ' :: ("<> ALL(".toList ++
        (placeholder n ++ "))".toList))) = .column c :: .word .differs :: .word .all :: .opening ::
          tokens (placeholder n ++ "))".toList) := tokens_column_blank h _
    have hback : tokens (placeholder n ++ ')' :: ")".toList) =
        [.param n, .closing, .closing] := tokens_placeholder_closing n _
    have hfirst : tokens (name.toList ++ ' ' :: ("IS NULL OR ".toList ++ (name.toList ++ ' ' ::
        ("<> ALL(".toList ++ (placeholder n ++ "))".toList))))) =
          .column c :: .word .isOperator :: .word .null :: .word .disj :: _ :=
      (tokens_column_blank h _).trans (congrArg (Token.column c :: .word .isOperator ::
        .word .null :: .word .disj :: ·) (hsecond.trans (congrArg (Token.column c ::
          .word .differs :: .word .all :: .opening :: ·) hback)))
    exact congrArg (Token.opening :: ·) hfirst
  · simp only [Condition.truth, Operand.value, hbound, Truth.or_eq_yes, Truth.ofBool_eq_yes,
      Truth.all_eq_yes, List.forall_mem_map, strict_eq_yes, OneOf, Equals]
    cases row c.source c.field with
    | none => simp
    | some a => simp

private theorem reads_near (c : Column) (x y metres : Nat) :
    Reads [.word .withinDistance, .opening, .column c, .comma, .word .withSystem, .opening,
        .word .point, .opening, .param x, .comma, .param y, .closing, .comma, .word .wgs84, .closing,
        .word .geography, .comma, .param metres, .closing]
      (.near (.column c) (.param x) (.param y) (.param metres)) :=
  ⟨.tokens _ 0, rfl, fun _ _ => rfl⟩

private theorem tokens_radius (h : Names name c) (x y metres : Nat) :
    tokens ("ST_DWithin(".toList ++ (name.toList ++ ", ST_SetSRID(ST_MakePoint(".toList) ++
        (placeholder x ++ (", ".toList ++ (placeholder y ++ ("), 4326)::geography, ".toList ++
          (placeholder metres ++ ")".toList)))))) =
      [.word .withinDistance, .opening, .column c, .comma, .word .withSystem, .opening,
        .word .point, .opening, .param x, .comma, .param y, .closing, .comma, .word .wgs84, .closing,
        .word .geography, .comma, .param metres, .closing] := by
  have hcomma (cs rest : List Char) (t : Token) (ht : tokens cs = [t]) :
      tokens (cs ++ ',' :: rest) = t :: .comma :: tokens rest := by
    rw [tokens_separator rfl, ht]
    rfl
  have hname (rest : List Char) :
      tokens (name.toList ++ (", ST_SetSRID(ST_MakePoint(".toList ++ rest)) =
        .column c :: .comma :: .word .withSystem :: .opening :: .word .point :: .opening ::
          tokens rest := hcomma name.toList _ _ (tokens_column h)
  have hx (rest : List Char) :
      tokens (placeholder x ++ (", ".toList ++ rest)) = .param x :: .comma :: tokens rest :=
    hcomma (placeholder x) _ _ (tokens_placeholder x)
  have hy (rest : List Char) :
      tokens (placeholder y ++ ("), 4326)::geography, ".toList ++ rest)) =
        .param y :: .closing :: .comma :: .word .wgs84 :: .closing :: .word .geography :: .comma ::
          tokens rest := tokens_placeholder_closing y _
  have hmetres : tokens (placeholder metres ++ ")".toList) = [.param metres, .closing] :=
    tokens_placeholder_closing metres []
  have hfront (rest : List Char) : tokens ("ST_DWithin(".toList ++ rest) =
      .word .withinDistance :: .opening :: tokens rest := rfl
  rw [List.append_assoc, List.append_assoc, hfront, hname, hx, hy, hmetres]

theorem radius_means (h : Names name c) (lng lat metres : Value) :
    (Part.numbered (radiusFragment name) [lng, lat, metres]).Means (Near c lng lat metres) := by
  intro n text htext
  unfold radiusFragment at htext
  simp only [Part.text, String.toList_append, List.append_assoc] at htext
  have hfront : '$' ∉ "ST_DWithin(".toList ++
      (name.toList ++ ", ST_SetSRID(ST_MakePoint(".toList) := by
    simp only [List.mem_append, not_or]
    exact ⟨by decide, dollar_not_mem_column h, by decide⟩
  rw [← List.append_assoc name.toList, ← List.append_assoc "ST_DWithin(".toList] at htext
  obtain ⟨rest₁, hrest₁, rfl⟩ := numberMarkers_marker hfront htext
  obtain ⟨rest₂, hrest₂, rfl⟩ := numberMarkers_marker (by decide) hrest₁
  obtain ⟨rest₃, hrest₃, rfl⟩ := numberMarkers_marker (by decide) hrest₂
  rw [numberMarkers_of_no_dollar (by decide)] at hrest₃
  cases hrest₃
  refine ⟨.near (.column c) (.param n) (.param (n + 1)) (.param (n + 2)), ?_,
    fun given args row hbound => ?_⟩
  · rw [tokens_radius h]
    exact reads_near c n (n + 1) (n + 2)
  · have hx := hbound 0 lng rfl
    have hy := hbound 1 lat rfl
    have hm := hbound 2 metres rfl
    simp only [Nat.add_zero] at hx
    simp only [Condition.truth, Operand.value, hx, hy, hm, Near]
    cases row c.source c.field with
    | none => simp
    | some a => simp

end One

section Shared

variable {names : List String} {columns : List Column}

private def alternatives (operator : String) (names : List String) : List String :=
  names.map fun name => name ++ operator ++ marker

private theorem shareMarker_alternative {name : String} {c : Column} (h : Names name c)
    {operator : String} {w : Word} (hoperator : Operates operator w) (n : Nat) :
    shareMarker n (name ++ operator ++ marker).toList =
      name.toList ++ (operator.toList ++ placeholder n) := by
  have hfront : '$' ∉ (name ++ operator).toList := dollar_not_mem_behind h hoperator.1
  have hmarker : shareMarker n marker.toList = placeholder n := List.append_nil _
  rw [String.toList_append, shareMarker_append (marked_of_no_dollar hfront),
    shareMarker_of_no_dollar hfront, hmarker, String.toList_append, List.append_assoc]

private theorem tokens_alternatives (h : List.Forall₂ Names names columns) {operator : String}
    {w : Word} (hoperator : Operates operator w) (n : Nat) :
    ((alternatives operator names).map fun text => tokens (shareMarker n text.toList)) =
      columns.map fun c => [.column c, .word w, .param n] := by
  induction h with
  | nil => rfl
  | @cons name c names columns hname hnames ih =>
    have hfirst : tokens (shareMarker n (name ++ operator ++ marker).toList) =
        [.column c, .word w, .param n] := by
      rw [shareMarker_alternative hname hoperator, tokens_operation hname hoperator]
    exact congrArg₂ List.cons hfirst ih

private theorem marked_alternatives (h : List.Forall₂ Names names columns) {operator : String}
    {w : Word} (hoperator : Operates operator w) :
    ∀ text ∈ (alternatives operator names).map String.toList, Marked text := by
  induction h with
  | nil => exact fun _ hmem => nomatch hmem
  | @cons name c names columns hname hnames ih =>
    refine List.forall_mem_cons.mpr ⟨?_, ih⟩
    rw [String.toList_append]
    exact Marked.prepend (dollar_not_mem_behind hname hoperator.1) (by decide)

private theorem tokens_anyOf (h : List.Forall₂ Names names columns) {operator : String}
    {w : Word} (hoperator : Operates operator w) (n : Nat) :
    tokens (shareMarker n (anyOf (alternatives operator names)).toList) =
      .opening :: [Token.word .disj].intercalate
        (columns.map fun c => [.column c, .word w, .param n]) ++ [.closing] := by
  have hjoin : shareMarker n (List.intercalate " OR ".toList
      ((alternatives operator names).map String.toList)) =
        (' ' :: "OR".toList ++ [' ']).intercalate
          (((alternatives operator names).map String.toList).map (shareMarker n)) :=
    shareMarker_intercalate (by decide) n (marked_alternatives h hoperator)
  have hmarked : Marked (List.intercalate " OR ".toList
      ((alternatives operator names).map String.toList)) :=
    Marked.intercalate (by decide) (by decide) (by decide) (marked_alternatives h hoperator)
  have hend : shareMarker n ")".toList = [')'] := rfl
  have htokens := tokens_alternatives h hoperator n
  rw [anyOf, String.toList_append, String.toList_append, String.toList_intercalate,
    List.append_assoc, shareMarker_append (by decide), shareMarker_append hmarked, hjoin, hend]
  show .opening :: tokens (_ ++ ')' :: []) = _
  have hword : Token.ofText "OR".toList = .word .disj := rfl
  have hempty : tokens [] = [] := rfl
  rw [tokens_separator rfl, tokens_intercalate (by decide) (by decide) hword, List.map_map,
    List.map_map, hempty, List.append_nil, ← htokens]
  rfl

private theorem anyOf_means (h : List.Forall₂ Names names columns) (hne : columns ≠ [])
    {operator : String} {w : Word} (hoperator : Operates operator w) {v : Value}
    (condition : Column → Nat → Condition) (criterion : Column → Criterion)
    (hreads : ∀ c n, Reads [.column c, .word w, .param n] (condition c n))
    (htruth : ∀ c n given args row, bound args n = some v →
      ((condition c n).truth given args row = .yes ↔ criterion c given row)) :
    (Part.shared (anyOf (alternatives operator names)) v).Means fun given row =>
      ∃ c ∈ columns, criterion c given row := by
  intro n text htext
  have hshape := Part.text_shared htext
  obtain ⟨first, rest, rfl⟩ := List.exists_cons_of_ne_nil hne
  refine ⟨Condition.disj (condition first n) (rest.map (condition · n)), ?_,
    fun given args row hbound => ?_⟩
  · rw [hshape, tokens_anyOf h hoperator]
    refine reads_group (hreads first n) ?_
    rw [List.forall₂_map_left_iff, List.forall₂_map_right_iff, List.forall₂_same]
    exact fun c _ => hreads c n
  · have hv := hbound 0 v rfl
    rw [truth_disj, ← List.map_cons (f := (condition · n))]
    simp only [List.mem_map, exists_exists_and_eq_and, htruth _ n given args row hv]

theorem equalsAny_means (h : List.Forall₂ Names names columns) (hne : columns ≠ []) (v : Value) :
    (Part.shared (anyOf (names.map equalsFragment)) v).Means fun given row =>
      ∃ c ∈ columns, Equals c v given row := by
  exact anyOf_means h hne operates_equals (fun c n => .compare (.column c) .equals (.param n))
    (fun c => Equals c v) (fun _ _ => ⟨.tokens _ 0, rfl, fun _ _ => rfl⟩)
    fun c n given args row hbound => compare_truth hbound

private theorem ilike_truth {c : Column} {n : Nat} {given : Given} {args : List Value} {row : Row}
    {pattern : Value} (hbound : bound args n = some pattern) :
    (Condition.ilike (.column c) (.param n)).truth given args row = .yes ↔
      Matches c pattern given row := by
  rw [Condition.truth, strict_eq_yes]
  simp only [Operand.value, hbound]
  simp [Matches]

theorem like_means (h : List.Forall₂ Names names columns) (hne : columns ≠ []) (pattern : Value) :
    (Part.shared (likeFragment names) pattern).Means fun given row =>
      ∃ c ∈ columns, Matches c pattern given row := by
  have hreads (c : Column) (n : Nat) : Reads [.column c, .word .ilike, .param n]
      (.ilike (.column c) (.param n)) := ⟨.tokens _ 0, rfl, fun _ _ => rfl⟩
  cases h with
  | nil => exact absurd rfl hne
  | @cons name c names columns hname hnames =>
    cases hnames with
    | nil =>
      -- one column stands without brackets
      intro n text htext
      have hshape : text = shareMarker n (name ++ " ILIKE " ++ marker).toList :=
        Part.text_shared htext
      refine ⟨.ilike (.column c) (.param n), ?_, fun given args row hbound => ?_⟩
      · rw [hshape, shareMarker_alternative hname operates_ilike,
          tokens_operation hname operates_ilike]
        exact hreads c n
      · have hv : bound args n = some pattern := hbound 0 pattern rfl
        exact (ilike_truth hv).trans (by simp)
    | @cons name' c' names columns hname' hnames =>
      exact anyOf_means (.cons hname (.cons hname' hnames)) hne operates_ilike
        (fun c n => .ilike (.column c) (.param n)) (fun c => Matches c pattern) hreads
        fun c n given args row hbound => ilike_truth hbound

end Shared

/-- Each part of the call has a meaning, and together they are the criterion. -/
def Call.Means (call : Call) (criterion : Criterion) : Prop :=
  ∃ criteria, List.Forall₂ Part.Means call.parts criteria ∧ ∀ given row,
    (∀ part ∈ criteria, part given row) ↔ criterion given row

section Calls

variable {name : String} {c : Column} {names : List String} {columns : List Column}

private theorem optional_means {α : Type} {call : Call} {value : Option α} {part : α → Part}
    (hparts : call.parts = (value.map part).toList) {criterion : α → Criterion}
    (h : ∀ v, (part v).Means (criterion v)) :
    call.Means fun given row => ∀ v ∈ value, criterion v given row := by
  rw [Call.Means, hparts]
  cases value with
  | none => exact ⟨[], .nil, fun given row => by simp⟩
  | some v => exact ⟨[criterion v], .cons (h v) .nil, fun given row => by simp⟩

theorem Call.guard_means {fragment : String} {criterion : Criterion}
    (h : (Part.fixed fragment).Means criterion) : (Call.guard fragment).Means criterion :=
  ⟨[criterion], .cons h .nil, fun given row => by simp⟩

theorem Call.offerIds_means {fragment : String} {criterion : List Int64 → Criterion}
    (h : ∀ ns, (Part.numbered fragment [.ints ns]).Means (criterion ns))
    (ids : Option (List Int64)) :
    (Call.offerIds fragment ids).Means fun given row => ∀ ns ∈ ids, criterion ns given row :=
  optional_means rfl h

theorem Call.eq_means (h : Names name c) (value : Option Value) :
    (Call.eq name value).Means fun given row => ∀ v ∈ value, Equals c v given row :=
  optional_means rfl (equals_means h)

theorem Call.eqAny_means (h : List.Forall₂ Names names columns) (hne : columns ≠ [])
    (value : Option Value) :
    (Call.eqAny names value).Means fun given row =>
      ∀ v ∈ value, ∃ c ∈ columns, Equals c v given row :=
  optional_means rfl (equalsAny_means h hne)

theorem Call.contains_means (h : List.Forall₂ Names names columns) (hne : columns ≠ [])
    (term : Option String) :
    (Call.contains names term).Means fun given row =>
      ∀ pattern ∈ likePattern term, ∃ c ∈ columns, Matches c (.text pattern) given row :=
  optional_means rfl fun pattern => like_means h hne (.text pattern)

theorem Call.search_means (h : List.Forall₂ Names names columns) (hne : columns ≠ [])
    (term : Option String) :
    (Call.search names term).Means fun given row =>
      ∀ pattern ∈ likePattern term, ∃ c ∈ columns, Matches c (.text pattern) given row :=
  optional_means rfl fun pattern => like_means h hne (.text pattern)

theorem Call.range_means (h : Names name c) (least most : Option Value) :
    (Call.range name least most).Means fun given row =>
      (∀ v ∈ least, AtLeast c v given row) ∧ ∀ v ∈ most, AtMost c v given row := by
  cases least with
  | none =>
    cases most with
    | none => exact ⟨[], .nil, fun given row => by simp⟩
    | some w => exact ⟨[AtMost c w], .cons (atMost_means h w) .nil, fun given row => by simp⟩
  | some v =>
    cases most with
    | none => exact ⟨[AtLeast c v], .cons (atLeast_means h v) .nil, fun given row => by simp⟩
    | some w =>
      exact ⟨[AtLeast c v, AtMost c w], .cons (atLeast_means h v) (.cons (atMost_means h w) .nil),
        fun given row => by simp⟩

theorem Call.within_means (h : Names name c) (values : Option Value) :
    (Call.within name values).Means fun given row => ∀ v ∈ values, OneOf c v given row :=
  optional_means rfl (Query.within_means h)

theorem Call.notWithin_means (h : Names name c) (values : Option Value) :
    (Call.notWithin name values).Means fun given row => ∀ v ∈ values, ¬OneOf c v given row :=
  optional_means rfl (Query.notWithin_means h)

theorem Call.withinRadius_means (h : Names name c) (lat lng km : Option Float) :
    (Call.withinRadius name lat lng km).Means fun given row =>
      ∀ y ∈ lat, ∀ x ∈ lng, ∀ r ∈ km,
        Near c (.float x) (.float y) (.float (r * 1000.0)) given row := by
  cases lat with
  | none => exact ⟨[], .nil, fun given row => by simp⟩
  | some y =>
    cases lng with
    | none => exact ⟨[], .nil, fun given row => by simp⟩
    | some x =>
      cases km with
      | none => exact ⟨[], .nil, fun given row => by simp⟩
      | some r =>
        exact ⟨[Near c (.float x) (.float y) (.float (r * 1000.0))],
          .cons (radius_means h _ _ _) .nil, fun given row => by simp⟩

end Calls

end FleetTrail.Query
