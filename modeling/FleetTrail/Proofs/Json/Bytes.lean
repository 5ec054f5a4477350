import FleetTrail.Proofs.Json.Reader
import FleetTrail.Proofs.Text.Utf8

/-!
# Values in bytes

The value that bytes denote is unique. Its records name their fields in ascending order, and where
a text repeats a name, the last of its fields is the one that counts.
-/

namespace FleetTrail.Json

/-- Bytes in UTF-8 that hold one value with blanks around it, and nothing else. -/
def Denotes (bytes : ByteArray) (v : Value) : Prop :=
  ∃ (s : String) (after : List Char), bytes = s.toUTF8 ∧
    Reads nestingLimit (.value v) (skip s.toList) after ∧ skip after = []

theorem frontOfBytes?_eq_some_iff {bytes : ByteArray} {v : Value} :
    Value.frontOfBytes? bytes = some (v, true) ↔ Denotes bytes v := by
  constructor
  · intro h
    obtain ⟨⟨u, rest⟩, hfront, hall⟩ := Option.bind_eq_some_iff.mp h
    simp only [Option.pure_def, Option.some.injEq, Prod.mk.injEq, Bool.and_eq_true,
      List.isEmpty_iff] at hall
    obtain ⟨rfl, hall, rfl⟩ := hall
    obtain ⟨after, hreads, hafter⟩ := front?_eq_some_iff.mp hfront
    have hbytes := Text.utf8Chars_eq_iff.mp (Prod.ext rfl hall)
    refine ⟨String.ofList (Text.utf8Chars bytes).1, after, ?_, ?_, hafter⟩
    · rw [String.toUTF8_eq_toByteArray, String.toByteArray_ofList]
      exact hbytes
    · rw [String.toList_ofList]
      exact hreads
  · intro h
    obtain ⟨s, after, rfl, hreads, hafter⟩ := h
    have hchars : Text.utf8Chars s.toUTF8 = (s.toList, true) := by
      rw [Text.utf8Chars_eq_iff, String.utf8Encode_toList, String.toUTF8_eq_toByteArray]
    have hfront := front?_eq_some_iff.mpr ⟨after, hreads, hafter⟩
    rw [Value.frontOfBytes?, hchars]
    simp [hfront]

theorem denotes_of_front? {s : String} {v : Value} (h : Value.front? s.toList = some (v, [])) :
    Denotes s.toUTF8 v := by
  obtain ⟨after, hreads, hafter⟩ := front?_eq_some_iff.mp h
  exact ⟨s, after, rfl, hreads, hafter⟩

theorem Denotes.unique {bytes : ByteArray} {u v : Value} (hu : Denotes bytes u)
    (hv : Denotes bytes v) : u = v := by
  rw [← frontOfBytes?_eq_some_iff] at hu hv
  have hsame := hu.symm.trans hv
  cases hsame
  rfl

private theorem lookup_putFields (done fs : List (String × Value)) (name : String) :
    (putFields done fs).lookup name = (fs.reverse.lookup name).or (done.lookup name) := by
  induction fs generalizing done with
  | nil => simp [putFields]
  | cons f fs ih =>
    obtain ⟨key, v⟩ := f
    change (putFields (putField key v done) fs).lookup name = _
    rw [ih, List.reverse_cons, List.lookup_append, lookup_putField]
    by_cases h : name = key
    · simp [h]
    · simp [List.lookup_cons, beq_eq_false_iff_ne.2 h, h]

/-- Of the fields that a record is put together from, the last with a name is found under it. -/
theorem field?_ofFields (fs : List (String × Value)) (name : String) :
    (Value.ofFields fs).field? name = fs.reverse.lookup name := by
  have hfields := lookup_putFields [] fs name
  rwa [List.lookup_nil, Option.or_none] at hfields

inductive Ordered : Value → Prop
  | null : Ordered .null
  | bool (b : Bool) : Ordered (.bool b)
  | int (n : Int) : Ordered (.int n)
  | float (x : Float) : Ordered (.float x)
  | text (s : String) : Ordered (.text s)
  | list {vs : List Value} (h : ∀ v ∈ vs, Ordered v) : Ordered (.list vs)
  | record {fs : List (String × Value)} (hnames : fs.Pairwise (·.1 < ·.1))
      (h : ∀ f ∈ fs, Ordered f.2) : Ordered (.record fs)

private theorem mem_putField {name : String} {v : Value} {fs : List (String × Value)}
    {f : String × Value} (h : f ∈ putField name v fs) : f = (name, v) ∨ f ∈ fs := by
  induction fs with
  | nil => simpa [putField] using h
  | cons g rest ih =>
    simp only [putField] at h
    split at h
    · simpa using h
    · split at h
      · obtain rfl | h := List.mem_cons.mp h
        · exact .inl rfl
        · exact .inr (List.mem_cons_of_mem g h)
      · obtain rfl | h := List.mem_cons.mp h
        · exact .inr List.mem_cons_self
        · exact (ih h).imp_right (List.mem_cons_of_mem g)

private theorem putField_ordered {name : String} {v : Value} {fs : List (String × Value)}
    (h : fs.Pairwise (·.1 < ·.1)) : (putField name v fs).Pairwise (·.1 < ·.1) := by
  induction h with
  | nil => simp [putField]
  | @cons g rest hfirst hrest ih =>
    simp only [putField]
    split
    next hlt =>
      apply List.Pairwise.cons
      · intro f hf
        obtain rfl | hf := List.mem_cons.mp hf
        · exact hlt
        · exact String.lt_trans hlt (hfirst f hf)
      · exact .cons hfirst hrest
    next hlt =>
      split
      next heq =>
        subst heq
        exact .cons hfirst hrest
      next hne =>
        apply List.Pairwise.cons
        · intro f hf
          obtain rfl | hf := mem_putField hf
          · exact Decidable.not_not.mp fun hnot => hne (String.le_antisymm hnot hlt)
          · exact hfirst f hf
        · exact ih

/-- What a phrase is made of keeps its records in order. -/
private def Phrase.Ordered : Phrase → Prop
  | .value v | .embedding v => Json.Ordered v
  | .items vs => ∀ v ∈ vs, Json.Ordered v
  | .fields fs => ∀ f ∈ fs, Json.Ordered f.2

private theorem ordered_of_isNumber {v : Value} (h : v.isNumber = true) : Ordered v := by
  cases v with
  | int n => exact .int n
  | float x => exact .float x
  | null | bool | text | list | record => cases h

private theorem ordered_ofFields {fs : List (String × Value)} (h : ∀ f ∈ fs, Ordered f.2) :
    Ordered (.ofFields fs) := by
  have hput (done : List (String × Value)) (hdone : Ordered (.record done)) :
      Ordered (.record (putFields done fs)) := by
    induction fs generalizing done with
    | nil => exact hdone
    | cons f fs ih =>
      apply ih (fun g hg => h g (List.mem_cons_of_mem f hg))
      obtain - | - | - | - | - | - | ⟨hnames, hvalues⟩ := hdone
      apply Ordered.record (putField_ordered hnames)
      intro g hg
      obtain rfl | hg := mem_putField hg
      · exact h f List.mem_cons_self
      · exact hvalues g hg
  exact hput [] (.record .nil nofun)

private theorem Reads.ordered {depth : Nat} {p : Phrase} {cs rest : List Char}
    (h : Reads depth p cs rest) : p.Ordered := by
  induction h with
  | null => exact .null
  | truth => exact .bool true
  | falsity => exact .bool false
  | number h => exact ordered_of_isNumber (number_takes h).1
  | text => exact .text _
  | noItems => exact .list nofun
  | list _ ih => exact .list ih
  | lastItem _ _ ih => simpa [Phrase.Ordered] using ih
  | item _ _ _ ihv ih => simpa [Phrase.Ordered] using And.intro ihv ih
  | noFields => exact .record .nil nofun
  | record _ _ ih => exact ordered_ofFields ih
  | lastField _ _ _ ih => simpa [Phrase.Ordered] using ih
  | field _ _ _ _ ihv ih =>
    intro f hf
    obtain rfl | hf := List.mem_cons.mp hf
    · exact ihv
    · exact ih f hf
  | embedded _ _ ih => exact ih
  | embedding _ _ _ _ ih => exact ih

theorem Denotes.ordered {bytes : ByteArray} {v : Value} (h : Denotes bytes v) : Ordered v := by
  obtain ⟨_, _, _, hreads, _⟩ := h
  exact hreads.ordered

end FleetTrail.Json
