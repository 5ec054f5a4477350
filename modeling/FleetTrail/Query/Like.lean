import FleetTrail.Text.Blank

/-!
# Substring patterns

The LIKE pattern that finds a term anywhere in a text. The characters with a meaning of their
own in a pattern are escaped, so the term is searched literally.
-/

namespace FleetTrail.Query

/-- A character of a term as it stands in a pattern. -/
def escapeLike (c : Char) : List Char :=
  if c = '%' ∨ c = '_' ∨ c = '\\' then ['\\', c] else [c]

/-- The pattern that finds the trimmed term; `none` when no term is left. -/
def likePattern (term : Option String) : Option String := do
  let cs := Text.trim (← term).toList
  if cs.isEmpty then none
  else some (String.ofList ('%' :: cs.flatMap escapeLike ++ ['%']))

end FleetTrail.Query
