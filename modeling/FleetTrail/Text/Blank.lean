/-!
# Blank characters

The characters with the Unicode property White_Space, and the cuts of a text along them.
Everything here works on the list of characters of a text.
-/

namespace FleetTrail.Text

/-- A character with the Unicode property White_Space. Zero-width spaces, the byte-order mark
and the information separators do not have it. -/
def isBlank (c : Char) : Bool :=
  let n := c.toNat
  (9 ≤ n && n ≤ 13) || n == 0x20 || n == 0x85 || n == 0xA0 || n == 0x1680 ||
    (0x2000 ≤ n && n ≤ 0x200A) || n == 0x2028 || n == 0x2029 || n == 0x202F ||
    n == 0x205F || n == 0x3000

/-- A text without the blanks in front. -/
def trimStart (cs : List Char) : List Char := cs.dropWhile isBlank

/-- A text without the blanks at its end. -/
def trimEnd (cs : List Char) : List Char := (cs.reverse.dropWhile isBlank).reverse

def trim (cs : List Char) : List Char := trimEnd (trimStart cs)

def pushWord (word : List Char) (words : List (List Char)) : List (List Char) :=
  if word.isEmpty then words else word :: words

/-- The maximal blank-free stretches of a text, from left to right. -/
def words (cs : List Char) : List (List Char) :=
  let (word, rest) := cs.foldr
    (fun c (word, rest) =>
      if isBlank c then ([], pushWord word rest) else (c :: word, rest)) ([], [])
  pushWord word rest

/-- Letters A to Z become a to z; every other character stays. -/
def fold (cs : List Char) : List Char := cs.map Char.toLower

/-- A text whose every character is blank; the empty text is one. -/
def allBlank (s : String) : Bool := s.toList.all isBlank

private theorem dropWhile_eq_nil_iff_all {α : Type} (p : α → Bool) (as : List α) :
    as.dropWhile p = [] ↔ as.all p = true := by
  induction as with
  | nil => simp
  | cons a rest ih => by_cases h : p a <;> simp [h, ih]

/-- Nothing is left of a text exactly when it is all blank. -/
theorem trim_eq_nil_iff (cs : List Char) : trim cs = [] ↔ cs.all isBlank = true := by
  simp only [trim, trimEnd, List.reverse_eq_nil_iff, dropWhile_eq_nil_iff_all, List.all_reverse]
  induction cs with
  | nil => rfl
  | cons c rest ih => by_cases h : isBlank c <;> simp_all [trimStart]

end FleetTrail.Text
