import FleetTrail.Json.Number
import FleetTrail.Text.Utf8

/-!
# Reading JSON text

The grammar of RFC 8259 with three limits: lists and records nest at most 127 deep, an escaped
surrogate must be one half of a pair, and numbers stay in the range of doubles. The last field
of a name counts. A record that opens with the name kept for embedded text has no other field,
and stands for the value whose text that field holds.
-/

namespace FleetTrail.Json

open FleetTrail.Number (hexDigit?)

def skip (cs : List Char) : List Char :=
  cs.dropWhile fun c => c == ' ' || c == '\n' || c == '\t' || c == '\r'

def hexUnit : List Char → Option (Nat × List Char)
  | a :: b :: c :: d :: rest => do
    let a ← hexDigit? a
    let b ← hexDigit? b
    let c ← hexDigit? c
    let d ← hexDigit? d
    return (((a * 16 + b) * 16 + c) * 16 + d, rest)
  | _ => none

/-- The character that an escape denotes, from behind its `\u` on. -/
def escapedUnit (cs : List Char) : Option (Char × List Char) := do
  let (high, rest) ← hexUnit cs
  if 0xD800 ≤ high ∧ high ≤ 0xDBFF then
    match rest with
    | '\\' :: 'u' :: rest =>
      let (low, rest) ← hexUnit rest
      if 0xDC00 ≤ low ∧ low ≤ 0xDFFF then
        return (Char.ofNat (0x10000 + (high - 0xD800) * 0x400 + (low - 0xDC00)), rest)
      else none
    | _ => none
  else if 0xDC00 ≤ high ∧ high ≤ 0xDFFF then none
  else return (Char.ofNat high, rest)

/-- The character that an escape denotes, from behind its backslash on. -/
def escaped : List Char → Option (Char × List Char)
  | '"' :: rest => some ('"', rest)
  | '\\' :: rest => some ('\\', rest)
  | '/' :: rest => some ('/', rest)
  | 'b' :: rest => some ('\x08', rest)
  | 'f' :: rest => some ('\x0c', rest)
  | 'n' :: rest => some ('\n', rest)
  | 'r' :: rest => some ('\r', rest)
  | 't' :: rest => some ('\t', rest)
  | 'u' :: rest => escapedUnit rest
  | _ => none

/-- The rest of a string behind its opening quote; `done` holds what was read, last first. -/
def textTail : Nat → List Char → List Char → Option (String × List Char)
  | 0, _, _ => none
  | _ + 1, _, [] => none
  | fuel + 1, done, c :: rest =>
    if c = '"' then some (String.ofList done.reverse, rest)
    else if c = '\\' then
      match escaped rest with
      | some (c, rest) => textTail fuel (c :: done) rest
      | none => none
    else if c.toNat < 0x20 then none
    else textTail fuel (c :: done) rest

/-- How many lists and records may be open at once in one text. -/
def nestingLimit : Nat := 127

def word (expected : List Char) (v : Value) (cs : List Char) :
    Option (Value × List Char) :=
  if expected.isPrefixOf cs then some (v, cs.drop expected.length) else none

mutual

/-- A value at the front of a text. `depth` counts the lists and records that may still be
opened; `fuel` bounds the number of steps, of which each takes a character. -/
def value : Nat → Nat → List Char → Option (Value × List Char)
  | 0, _, _ => none
  | fuel + 1, depth, cs =>
    match cs with
    | 'n' :: _ => word "null".toList .null cs
    | 't' :: _ => word "true".toList (.bool true) cs
    | 'f' :: _ => word "false".toList (.bool false) cs
    | '"' :: rest => (textTail (rest.length + 1) [] rest).map fun r => (.text r.1, r.2)
    | '[' :: rest =>
      match depth with
      | 0 => none
      | depth + 1 =>
        match skip rest with
        | ']' :: rest => some (.list [], rest)
        | rest => items fuel depth [] rest
    | '\x7b' :: rest =>
      match depth with
      | 0 => none
      | depth + 1 =>
        match skip rest with
        | '\x7d' :: rest => some (.record [], rest)
        | rest => fields fuel depth [] rest
    | cs => number cs

/-- The items of a list from the next one on; `done` holds those read, last first. -/
def items : Nat → Nat → List Value → List Char → Option (Value × List Char)
  | 0, _, _, _ => none
  | fuel + 1, depth, done, cs =>
    match value fuel depth cs with
    | none => none
    | some (v, rest) =>
      match skip rest with
      | ',' :: rest => items fuel depth (v :: done) (skip rest)
      | ']' :: rest => some (.list (v :: done).reverse, rest)
      | _ => none

/-- The fields of a record from the next one on; `done` holds those read. -/
def fields : Nat → Nat → List (String × Value) → List Char → Option (Value × List Char)
  | 0, _, _, _ => none
  | fuel + 1, depth, done, cs =>
    match cs with
    | '"' :: rest =>
      match textTail (rest.length + 1) [] rest with
      | none => none
      | some (name, rest) =>
        match skip rest with
        | ':' :: rest =>
          if done.isEmpty && name == embeddingName then embedded fuel (skip rest)
          else
            match value fuel depth (skip rest) with
            | none => none
            | some (v, rest) =>
              match skip rest with
              | ',' :: rest => fields fuel depth (putField name v done) (skip rest)
              | '\x7d' :: rest => some (.record (putField name v done), rest)
              | _ => none
        | _ => none
    | _ => none

/-- The rest of a record from its embedded text on. The text counts its nesting anew. -/
def embedded : Nat → List Char → Option (Value × List Char)
  | 0, _ => none
  | fuel + 1, cs =>
    match cs with
    | '"' :: rest =>
      match textTail (rest.length + 1) [] rest with
      | none => none
      | some (text, rest) =>
        match skip rest with
        | '\x7d' :: rest =>
          match value fuel nestingLimit (skip text.toList) with
          | none => none
          | some (v, after) => if (skip after).isEmpty then some (v, rest) else none
        | _ => none
    | _ => none

end

/-- Reads the value at the front of a text, with the blanks around it, and gives the rest. -/
def Value.front? (cs : List Char) : Option (Value × List Char) :=
  let cs := skip cs
  (value (2 * cs.length + 2) nestingLimit cs).map fun r => (r.1, skip r.2)

/-- Reads a text that is one JSON value, with blanks around it. -/
def Value.ofText? (s : String) : Option Value := do
  let (v, rest) ← Value.front? s.toList
  if rest.isEmpty then some v else none

/-- Reads the value at the front of bytes in UTF-8, and tells whether nothing follows it. -/
def Value.frontOfBytes? (bytes : ByteArray) : Option (Value × Bool) := do
  let (cs, all) := Text.utf8Chars bytes
  let (v, rest) ← Value.front? cs
  return (v, all && rest.isEmpty)

end FleetTrail.Json
