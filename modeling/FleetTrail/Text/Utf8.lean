/-!
# Characters in bytes

The characters that bytes in UTF-8 hold, up to the first byte that is out of place.
-/

namespace FleetTrail.Text

/-- The characters from place `i` on, and whether they use up the bytes; `done` holds those read
before, last first. -/
def utf8CharsFrom (bytes : ByteArray) (done : List Char) (i : Nat) : List Char × Bool :=
  if i < bytes.size then
    match bytes.utf8DecodeChar? i with
    | some c =>
      have := c.utf8Size_pos
      utf8CharsFrom bytes (c :: done) (i + c.utf8Size)
    | none => (done.reverse, false)
  else (done.reverse, true)
termination_by bytes.size - i

/-- The characters at the front of bytes in UTF-8, and whether they use up the bytes. -/
def utf8Chars (bytes : ByteArray) : List Char × Bool := utf8CharsFrom bytes [] 0

end FleetTrail.Text
