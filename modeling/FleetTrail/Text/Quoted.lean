import FleetTrail.Text.Shapeless

/-!
# Quoted text

A text between double quotes in which every character can be told: quotes, backslashes and the
common control characters have short escapes, and what has no shape of its own is written by
its number.
-/

namespace FleetTrail.Text

private def byNumber (c : Char) : List Char :=
  '\\' :: 'u' :: '\x7b' :: Nat.toDigits 16 c.toNat ++ ['\x7d']

def quotedChar (c : Char) : List Char :=
  if c = '"' ∨ c = '\\' then ['\\', c]
  else if c = '\n' then ['\\', 'n']
  else if c = '\r' then ['\\', 'r']
  else if c = '\t' then ['\\', 't']
  else if c = '\x00' then ['\\', '0']
  else if c.toNat < 0x20 ∨ c.toNat = 0x7F then byNumber c
  else if c.toNat < 0x7F then [c]
  else if shapeless c then byNumber c
  else [c]

def quoted (s : String) : String :=
  String.ofList ('"' :: s.toList.flatMap quotedChar ++ ['"'])

/-- An optional value in messages: `None`, or the value's own text in `Some(…)`. -/
def optionText {α : Type} (render : α → String) : Option α → String
  | none => "None"
  | some a => "Some(" ++ render a ++ ")"

end FleetTrail.Text
