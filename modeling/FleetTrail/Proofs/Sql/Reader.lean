import FleetTrail.Number.Whole
import FleetTrail.Proofs.Number.Digits
import FleetTrail.Proofs.Sql.Condition
import FleetTrail.Query.Marker
import Mathlib.Data.List.Forall2

/-!
# Reading a WHERE clause

A clause is cut into tokens at blanks and brackets, and the tokens are read from left to right with
a stack of open brackets: AND binds tighter than OR, and a bracket that does not belong to a
comparison groups a condition. Text of any other form has no reading. Both passes go from left to
right, so a text that is put together from pieces is read piece by piece.
-/

namespace FleetTrail.Sql

open Query

inductive Word where
  | whereCondition
  | conj
  | disj
  | equals
  | atLeast
  | atMost
  | differs
  | isOperator
  | null
  | falsity
  | any
  | all
  | among
  | select
  | fromTable
  | ilike
  | coalesce
  | withinDistance
  | withSystem
  | point
  | wgs84
  | geography
  deriving DecidableEq, Repr

def Word.table : List (String × Word) :=
  [("WHERE", .whereCondition), ("AND", .conj), ("OR", .disj), ("=", .equals), (">=", .atLeast),
    ("<=", .atMost), ("<>", .differs), ("IS", .isOperator), ("NULL", .null), ("false", .falsity),
    ("ANY", .any), ("ALL", .all), ("IN", .among), ("SELECT", .select), ("FROM", .fromTable),
    ("ILIKE", .ilike), ("COALESCE", .coalesce), ("ST_DWithin", .withinDistance),
    ("ST_SetSRID", .withSystem), ("ST_MakePoint", .point), ("4326", .wgs84),
    ("::geography", .geography)]

inductive Token where
  | word (w : Word)
  | param (n : Nat)
  | column (c : Column)
  /-- A table or its label. -/
  | name (s : String)
  | opening
  | closing
  | comma
  | unknown
  deriving DecidableEq, Repr

def isNameChar (c : Char) : Bool := c.isLower || c == '_'

def isName (cs : List Char) : Bool := !cs.isEmpty && cs.all isNameChar

def column? (cs : List Char) : Option Column :=
  let source := cs.takeWhile (· ≠ '.')
  match cs.dropWhile (· ≠ '.') with
  | '.' :: field =>
    if isName source && isName field then some ⟨String.ofList source, String.ofList field⟩
    else none
  | _ => none

def param? : List Char → Option Nat
  | '$' :: cs =>
    if !cs.isEmpty && cs.all Number.isDigit then some (Number.digitsValue cs) else none
  | _ => none

def Word.ofText? (cs : List Char) : Option Word :=
  (Word.table.find? fun entry => entry.1.toList = cs).map Prod.snd

def Token.ofText (cs : List Char) : Token :=
  match param? cs, column? cs, Word.ofText? cs with
  | some n, _, _ => .param n
  | none, some c, _ => .column c
  | none, none, some w => .word w
  | none, none, none => if isName cs then .name (String.ofList cs) else .unknown

/-- The tokens that a separator stands for. -/
def separator? : Char → Option (List Token)
  | ' ' => some []
  | '(' => some [.opening]
  | ')' => some [.closing]
  | ',' => some [.comma]
  | _ => none

/-- The token of the text since the last separator, if there is any text. -/
def pending (cs : List Char) : List Token := if cs.isEmpty then [] else [.ofText cs]

/-- The tokens of a text, when `before` has been seen since the last separator. -/
def scan (before : List Char) : List Char → List Token
  | [] => pending before
  | c :: rest =>
    match separator? c with
    | some tokens => pending before ++ tokens ++ scan [] rest
    | none => scan (before ++ [c]) rest

def tokens (text : List Char) : List Token := scan [] text

/-- The condition of a comparison that stands between connectives and brackets. -/
def atom? : List Token → Option Condition
  | [.column c, .word .equals, .param n] => some (.compare (.column c) .equals (.param n))
  | [.column c, .word .equals, .word .falsity] => some (.compare (.column c) .equals .falsity)
  | [.word .coalesce, .opening, .column c, .comma, .word .falsity, .closing, .word .equals,
      .word .falsity] => some (.compare (.coalesce (.column c) .falsity) .equals .falsity)
  | [.column c, .word .atLeast, .param n] => some (.compare (.column c) .atLeast (.param n))
  | [.column c, .word .atMost, .param n] => some (.compare (.column c) .atMost (.param n))
  | [.column c, .word .isOperator, .word .null] => some (.isNull (.column c))
  | [.column c, .word .equals, .word .any, .opening, .param n, .closing] =>
    some (.anyOf (.column c) (.param n))
  | [.column c, .word .differs, .word .all, .opening, .param n, .closing] =>
    some (.noneOf (.column c) (.param n))
  | [.column c, .word .ilike, .param n] => some (.ilike (.column c) (.param n))
  | [.word .withinDistance, .opening, .column c, .comma, .word .withSystem, .opening, .word .point,
      .opening, .param x, .comma, .param y, .closing, .comma, .word .wgs84, .closing,
      .word .geography, .comma, .param metres, .closing] =>
    some (.near (.column c) (.param x) (.param y) (.param metres))
  | [.column c, .word .among, .opening, .word .select, .column selected, .word .fromTable,
      .name table, .name label, .word .whereCondition, .column d, .word .equals, .word .any,
      .opening, .param n, .closing, .closing] =>
    some (.among (.column c) selected table label (.anyOf (.column d) (.param n)))
  | _ => none

/-- What has been read of the comparison at hand: its tokens with the number of brackets that are
open in it, or a bracketed condition in its place. -/
inductive Piece where
  | empty
  | tokens (ts : List Token) (depth : Nat)
  | group (c : Condition)

/-- A condition up to the comparison at hand. -/
structure Frame where
  /-- What stands in front of the last OR. -/
  disjuncts : Option Condition
  /-- What stands between the last OR and the last AND. -/
  conjuncts : Option Condition
  piece : Piece

def Frame.start : Frame := ⟨none, none, .empty⟩

def Piece.condition? : Piece → Option Condition
  | .tokens ts 0 => atom? ts
  | .group c => some c
  | _ => none

def joined (join : Condition → Condition → Condition) : Option Condition → Condition → Condition
  | none, c => c
  | some before, c => join before c

def Frame.conjunction? (f : Frame) : Option Condition :=
  f.piece.condition?.map (joined .and f.conjuncts)

def Frame.disjunction? (f : Frame) : Option Condition :=
  f.conjunction?.map (joined .or f.disjuncts)

/-- One token further, with the conditions around the innermost open bracket. -/
def step : Frame × List Frame → Token → Option (Frame × List Frame)
  | (f, outer), t =>
    match f.piece, t with
    | .empty, .opening => some (.start, f :: outer)
    | .empty, t => some ({ f with piece := .tokens [t] 0 }, outer)
    | .tokens ts depth, .opening =>
      some ({ f with piece := .tokens (ts ++ [.opening]) (depth + 1) }, outer)
    | .tokens ts (depth + 1), .closing =>
      some ({ f with piece := .tokens (ts ++ [.closing]) depth }, outer)
    | .tokens ts (depth + 1), t =>
      some ({ f with piece := .tokens (ts ++ [t]) (depth + 1) }, outer)
    | _, .word .conj =>
      f.conjunction?.map fun c => (⟨f.disjuncts, some c, .empty⟩, outer)
    | _, .word .disj =>
      f.disjunction?.map fun c => (⟨some c, none, .empty⟩, outer)
    | _, .closing =>
      match outer with
      | [] => none
      | g :: outer => f.disjunction?.map fun c => ({ g with piece := .group c }, outer)
    | .tokens ts 0, t => some ({ f with piece := .tokens (ts ++ [t]) 0 }, outer)
    | .group _, _ => none

/-- The condition of a WHERE clause, if the text is one. -/
def read (text : String) : Option Condition :=
  match tokens text.toList with
  | .word .whereCondition :: ts =>
    match ts.foldlM step (Frame.start, []) with
    | some (f, []) => f.disjunction?
    | _ => none
  | _ => none

theorem scan_append_separator {c : Char} {separated : List Token}
    (h : separator? c = some separated) (before a b : List Char) :
    scan before (a ++ c :: b) = scan before a ++ separated ++ scan [] b := by
  induction a generalizing before with
  | nil => simp only [List.nil_append, scan, h]
  | cons d a ih =>
    simp only [List.cons_append, scan]
    split
    · rw [ih]
      simp only [List.append_assoc]
    · exact ih _

theorem tokens_separator {c : Char} {separated : List Token} (h : separator? c = some separated)
    (a b : List Char) : tokens (a ++ c :: b) = tokens a ++ separated ++ tokens b :=
  scan_append_separator h [] a b

theorem tokens_blank (a b : List Char) : tokens (a ++ ' ' :: b) = tokens a ++ tokens b := by
  rw [tokens_separator rfl, List.append_nil]

private theorem scan_solid {cs : List Char} (h : ∀ c ∈ cs, separator? c = none)
    (before : List Char) : scan before cs = pending (before ++ cs) := by
  induction cs generalizing before with
  | nil => rw [List.append_nil, scan]
  | cons c rest ih =>
    obtain ⟨hc, hrest⟩ := List.forall_mem_cons.mp h
    simp only [scan, hc]
    rw [ih hrest, List.append_assoc]
    rfl

theorem tokens_solid {cs : List Char} (hne : cs ≠ []) (h : ∀ c ∈ cs, separator? c = none) :
    tokens cs = [.ofText cs] := by
  rw [tokens, scan_solid h, List.nil_append, pending, if_neg (by simpa using hne)]

private theorem column?_chars {cs : List Char} {column : Column} (h : column? cs = some column) :
    cs ≠ [] ∧ ∀ c ∈ cs, isNameChar c = true ∨ c = '.' := by
  have hsplit : cs.takeWhile (· ≠ '.') ++ cs.dropWhile (· ≠ '.') = cs :=
    List.takeWhile_append_dropWhile
  rw [column?] at h
  generalize cs.takeWhile (· ≠ '.') = source at h hsplit
  generalize cs.dropWhile (· ≠ '.') = rest at h hsplit
  subst hsplit
  split at h
  · next field =>
    split at h
    · next hnames =>
      simp only [isName, Bool.and_eq_true, List.all_eq_true] at hnames
      refine ⟨by simp, fun c hc => ?_⟩
      rcases List.mem_append.mp hc with hsource | hfield
      · exact .inl (hnames.1.2 c hsource)
      · rcases List.mem_cons.mp hfield with rfl | hfield
        · exact .inr rfl
        · exact .inl (hnames.2.2 c hfield)
    · cases h
  · cases h

private theorem not_separator {p : Char → Bool} (hp : [' ', '(', ')', ','].any p = false)
    {c : Char} (h : p c = true) : separator? c = none := by
  have hne : ∀ d ∈ [' ', '(', ')', ','], c ≠ d := by
    rintro d hd rfl
    exact List.any_eq_false.mp hp c hd h
  have hblank : c ≠ ' ' := hne ' ' (by decide)
  have hopening : c ≠ '(' := hne '(' (by decide)
  have hclosing : c ≠ ')' := hne ')' (by decide)
  have hcomma : c ≠ ',' := hne ',' (by decide)
  unfold separator?
  split
  · exact absurd rfl hblank
  · exact absurd rfl hopening
  · exact absurd rfl hclosing
  · exact absurd rfl hcomma
  · rfl

private theorem column_char {c : Char} (h : isNameChar c = true ∨ c = '.') :
    separator? c = none ∧ c ≠ '$' := by
  rcases h with hname | rfl
  · refine ⟨not_separator (by decide) hname, ?_⟩
    rintro rfl
    exact absurd hname (by decide)
  · exact ⟨rfl, by decide⟩

theorem dollar_not_mem_column {cs : List Char} {column : Column}
    (h : column? cs = some column) : '$' ∉ cs := fun hmem =>
  (column_char ((column?_chars h).2 '$' hmem)).2 rfl

theorem tokens_column {cs : List Char} {column : Column} (h : column? cs = some column) :
    tokens cs = [.column column] := by
  obtain ⟨hne, hchars⟩ := column?_chars h
  have hparam : param? cs = none := by
    cases cs with
    | nil => rfl
    | cons c rest =>
      have hc : c ≠ '$' := (column_char (hchars c List.mem_cons_self)).2
      unfold param?
      split
      · next heq => exact absurd (List.cons.inj heq).1 hc
      · rfl
  rw [tokens_solid hne fun c hc => (column_char (hchars c hc)).1, Token.ofText, hparam, h]

theorem tokens_placeholder (n : Nat) : tokens (placeholder n) = [.param n] := by
  have hsolid : ∀ c ∈ placeholder n, separator? c = none := by
    intro c hc
    rcases List.mem_cons.mp hc with rfl | hdigit
    · rfl
    · exact not_separator (by decide) (Number.isDigit_of_mem_digits hdigit)
  have hparam : param? (placeholder n) = some n := by
    have hdigits : (!(Number.digits n).isEmpty && (Number.digits n).all Number.isDigit) = true := by
      rw [Bool.and_eq_true, List.all_eq_true]
      exact ⟨by simpa using Number.digits_ne_nil n, fun c => Number.isDigit_of_mem_digits⟩
    rw [placeholder, param?, if_pos hdigits, Number.digitsValue_digits]
  have hne : placeholder n ≠ [] := List.cons_ne_nil _ _
  rw [tokens_solid hne hsolid, Token.ofText, hparam]

theorem tokens_intercalate {word : List Char} {w : Word} (hword : word ≠ [])
    (hsolid : (word.all fun c => (separator? c).isNone) = true)
    (htoken : Token.ofText word = .word w) (texts : List (List Char)) :
    tokens ((' ' :: word ++ [' ']).intercalate texts) =
      [Token.word w].intercalate (texts.map tokens) := by
  have hword' : tokens word = [.word w] := by
    rw [tokens_solid hword fun c hc => Option.isNone_iff_eq_none.mp (List.all_eq_true.mp hsolid c hc),
      htoken]
  induction texts with
  | nil => rfl
  | cons first rest ih =>
    cases rest with
    | nil => rw [List.intercalate_singleton, List.map_singleton, List.intercalate_singleton]
    | cons second rest =>
      have hjoined : ' ' :: word ++ [' '] ++ (' ' :: word ++ [' ']).intercalate (second :: rest) =
          ' ' :: (word ++ ' ' :: (' ' :: word ++ [' ']).intercalate (second :: rest)) := by
        simp only [List.cons_append, List.append_assoc, List.nil_append]
      rw [List.intercalate_cons_cons, List.append_assoc, hjoined, tokens_blank, tokens_blank,
        hword', ih]
      simp only [List.map_cons, List.intercalate_cons_cons, List.append_assoc]

/-- The tokens state a condition that connectives may stand beside. -/
def Reads (ts : List Token) (c : Condition) : Prop :=
  ∃ piece : Piece, piece.condition? = some c ∧ ∀ (f : Frame) (outer : List Frame),
    ts.foldlM step ({ f with piece := .empty }, outer) = some ({ f with piece := piece }, outer)

private theorem piece_cases {piece : Piece} {c : Condition} (h : piece.condition? = some c) :
    (∃ ts, piece = .tokens ts 0) ∨ piece = .group c := by
  cases piece with
  | empty => cases h
  | tokens ts depth =>
    cases depth with
    | zero => exact .inl ⟨ts, rfl⟩
    | succ depth => cases h
  | group d => exact .inr (congrArg Piece.group (Option.some.inj h))

private theorem step_conj {before : Option Condition} {piece : Piece} {c : Condition}
    (h : piece.condition? = some c) (outer : List Frame) :
    step (⟨none, before, piece⟩, outer) (.word .conj) =
      some (⟨none, some (joined .and before c), .empty⟩, outer) := by
  have hjoined : (⟨none, before, piece⟩ : Frame).conjunction? = some (joined .and before c) := by
    simp only [Frame.conjunction?, h, Option.map_some]
  rcases piece_cases h with ⟨ts, rfl⟩ | rfl <;> simp only [step, hjoined, Option.map_some]

private theorem step_disj {before : Option Condition} {piece : Piece} {c : Condition}
    (h : piece.condition? = some c) (outer : List Frame) :
    step (⟨before, none, piece⟩, outer) (.word .disj) =
      some (⟨some (joined .or before c), none, .empty⟩, outer) := by
  have hjoined : (⟨before, none, piece⟩ : Frame).disjunction? = some (joined .or before c) := by
    simp only [Frame.disjunction?, Frame.conjunction?, h, Option.map_some, joined]
  rcases piece_cases h with ⟨ts, rfl⟩ | rfl <;> simp only [step, hjoined, Option.map_some]

private theorem step_closing {before : Option Condition} {piece : Piece} {c : Condition}
    (h : piece.condition? = some c) (f : Frame) (outer : List Frame) :
    step (⟨before, none, piece⟩, f :: outer) .closing =
      some ({ f with piece := .group (joined .or before c) }, outer) := by
  have hjoined : (⟨before, none, piece⟩ : Frame).disjunction? = some (joined .or before c) := by
    simp only [Frame.disjunction?, Frame.conjunction?, h, Option.map_some, joined]
  rcases piece_cases h with ⟨ts, rfl⟩ | rfl <;> simp only [step, hjoined, Option.map_some]

/-- A connective that only adds to what stands before it joins conditions from left to right. -/
private theorem chain_run {w : Word} {join : Condition → Condition → Condition}
    (frame : Option Condition → Frame) (outer : List Frame)
    (hstep : ∀ before piece c, piece.condition? = some c →
      step ({ frame before with piece := piece }, outer) (.word w) =
        some ({ frame (some (joined join before c)) with piece := .empty }, outer))
    {ts : List Token} {c : Condition} (h : Reads ts c) {tss : List (List Token)}
    {cs : List Condition} (hs : List.Forall₂ Reads tss cs) (before : Option Condition) :
    ∃ before' piece last,
      ([Token.word w].intercalate (ts :: tss)).foldlM step
        ({ frame before with piece := .empty }, outer) =
          some ({ frame before' with piece := piece }, outer) ∧
      piece.condition? = some last ∧
      joined join before' last = cs.foldl join (joined join before c) := by
  induction hs generalizing ts c before with
  | nil =>
    obtain ⟨piece, hpiece, hrun⟩ := h
    refine ⟨before, piece, c, ?_, hpiece, rfl⟩
    rw [List.intercalate_singleton]
    exact hrun (frame before) outer
  | @cons ts' c' tss cs hhead hrest ih =>
    obtain ⟨piece, hpiece, hrun⟩ := h
    obtain ⟨before', piece', last, hrun', hlast, hjoined⟩ :=
      ih hhead (some (joined join before c))
    refine ⟨before', piece', last, ?_, hlast, hjoined⟩
    rw [List.intercalate_cons_cons, List.foldlM_append, List.foldlM_append,
      hrun (frame before) outer]
    show (step ({ frame before with piece := piece }, outer) (.word w) >>= fun s => some s) >>= _ =
      _
    rw [hstep before piece c hpiece]
    exact hrun'

theorem reads_group {ts : List Token} {c : Condition} (h : Reads ts c)
    {tss : List (List Token)} {cs : List Condition} (hs : List.Forall₂ Reads tss cs) :
    Reads (.opening :: [Token.word .disj].intercalate (ts :: tss) ++ [.closing])
      (Condition.disj c cs) := by
  refine ⟨.group (Condition.disj c cs), rfl, fun f outer => ?_⟩
  let surrounding : List Frame := { f with piece := .empty } :: outer
  obtain ⟨before, piece, last, hrun, hlast, hjoined⟩ :=
    chain_run (fun before => ⟨before, none, .empty⟩) surrounding
      (fun _ _ _ hpiece => step_disj hpiece surrounding) h hs none
  rw [List.cons_append, List.foldlM_cons]
  show List.foldlM step (Frame.start, surrounding)
    ([Token.word .disj].intercalate (ts :: tss) ++ [.closing]) = _
  have hstart : Frame.start = ⟨none, none, .empty⟩ := rfl
  rw [List.foldlM_append, hstart, hrun]
  show (step (⟨before, none, piece⟩, surrounding) .closing >>= fun s => some s) = _
  rw [step_closing hlast, hjoined]
  rfl

/-- A clause of conditions joined by AND is read as their conjunction. -/
theorem read_where {ts : List Token} {c : Condition} (h : Reads ts c)
    {tss : List (List Token)} {cs : List Condition} (hs : List.Forall₂ Reads tss cs)
    {text : String}
    (htext : tokens text.toList =
      .word .whereCondition :: [Token.word .conj].intercalate (ts :: tss)) :
    read text = some (Condition.conj c cs) := by
  obtain ⟨before, piece, last, hrun, hlast, hjoined⟩ :=
    chain_run (fun before => ⟨none, before, .empty⟩) []
      (fun _ _ _ hpiece => step_conj hpiece []) h hs none
  have hstart : Frame.start = ⟨none, none, .empty⟩ := rfl
  simp only [read, htext, hstart, hrun]
  simp only [Frame.disjunction?, Frame.conjunction?, hlast, Option.map_some, hjoined]
  rfl

end FleetTrail.Sql
