import FleetTrail.Number.Whole
import FleetTrail.Json.Value

/-!
# Numbers in JSON text

A whole number that fits into 64 bits is kept as it is. Any other number is the leading digits
that fit into an unsigned 64-bit word, taken as a double and then multiplied or divided by a
power of ten in double arithmetic; the digits after those only count for their place. A number
that leaves the range of doubles is refused.
-/

namespace FleetTrail.Json

open FleetTrail.Number (digit? isDigit digitsValue)

private def wordLimit : Nat := UInt64.size - 1

/-- Continues `acc` by digits as long as the number fits into an unsigned 64-bit word. Gives the
number, how many digits it took, and the rest of the text. -/
def leading : Nat → Nat → List Char → Nat × Nat × List Char
  | acc, taken, [] => (acc, taken, [])
  | acc, taken, c :: rest =>
    match digit? c with
    | none => (acc, taken, c :: rest)
    | some d =>
      if wordLimit < acc * 10 + d then (acc, taken, c :: rest)
      else leading (acc * 10 + d) (taken + 1) rest

private def powerOfTen (n : Nat) : Float := Float.ofScientific 1 false n

/-- `significand * 10 ^ exponent` in double arithmetic. A division by more than 10 ^ 308 takes
two steps, and after them nothing is left. -/
def scaled (significand : Nat) (exponent : Int) : Option Float :=
  let x := Float.ofNat significand
  let n := exponent.natAbs
  if 0 ≤ exponent then
    if n ≤ 308 then
      let y := x * powerOfTen n
      if y.isInf then none else some y
    else if significand = 0 then some x
    else none
  else if n ≤ 308 then some (x / powerOfTen n)
  else if n ≤ 616 then some (x / powerOfTen 308 / powerOfTen (n - 308))
  else some 0.0

private def exponentLimit : Nat := Nat.pow 2 31 - 1

/-- The text behind an exponent mark. -/
private def withExponent (significand : Nat) (exponent : Int) (cs : List Char) :
    Option (Float × List Char) :=
  let (negative, cs) := match cs with
    | '-' :: rest => (true, rest)
    | '+' :: rest => (false, rest)
    | cs => (false, cs)
  let ds := cs.takeWhile isDigit
  let rest := cs.dropWhile isDigit
  let n := digitsValue ds
  if ds.isEmpty then none
  else if exponentLimit < n then
    if significand ≠ 0 ∧ !negative then none else some (0.0, rest)
  else
    (scaled significand (if negative then exponent - n else exponent + n)).map (·, rest)

/-- The text behind the digits of a number, which is a double from here on. -/
private def afterDigits (significand : Nat) (exponent : Int) (cs : List Char) :
    Option (Float × List Char) :=
  match cs with
  | 'e' :: rest | 'E' :: rest => withExponent significand exponent rest
  | rest => (scaled significand exponent).map (·, rest)

/-- The text behind a point. -/
private def withFraction (significand : Nat) (exponent : Int) (cs : List Char) :
    Option (Float × List Char) :=
  if (cs.takeWhile isDigit).isEmpty then none
  else
    let (significand, taken, rest) := leading significand 0 cs
    afterDigits significand (exponent - taken) (rest.dropWhile isDigit)

/-- A number without a sign, from its first digit on. -/
private def magnitude (negative : Bool) (cs : List Char) : Option (Value × List Char) :=
  let (significand, _, rest) := leading 0 0 cs
  let dropped := rest.takeWhile isDigit
  let rest := rest.dropWhile isDigit
  let signed (x : Float) : Value := .float (if negative then -x else x)
  match rest with
  | '.' :: rest =>
    (withFraction significand dropped.length rest).map fun r => (signed r.1, r.2)
  | rest =>
    if dropped.isEmpty ∧ rest.head? ≠ some 'e' ∧ rest.head? ≠ some 'E' then
      if !negative then some (.int significand, rest)
      else if 0 < significand ∧ significand ≤ Nat.pow 2 63 then some (.int (-significand), rest)
      else some (signed (Float.ofNat significand), rest)
    else
      (afterDigits significand dropped.length rest).map fun r => (signed r.1, r.2)

/-- Takes a number off the front of a text. A zero in front stands alone. -/
def number (cs : List Char) : Option (Value × List Char) :=
  let (negative, cs) := match cs with
    | '-' :: rest => (true, rest)
    | cs => (false, cs)
  match cs with
  | '0' :: c :: rest => if isDigit c then none else magnitude negative ('0' :: c :: rest)
  | c :: rest => if isDigit c then magnitude negative (c :: rest) else none
  | [] => none

def Value.isNumber : Value → Bool
  | .int _ | .float _ => true
  | _ => false

private theorem leading_le (acc taken : Nat) (cs : List Char) :
    (leading acc taken cs).2.2.length ≤ cs.length := by
  induction cs generalizing acc taken with
  | nil => exact Nat.le_refl _
  | cons c rest ih =>
    rw [leading]
    split
    · exact Nat.le_refl _
    · split
      · exact Nat.le_refl _
      · exact Nat.le_succ_of_le (ih _ _)

private theorem dropWhile_le (p : Char → Bool) (cs : List Char) :
    (cs.dropWhile p).length ≤ cs.length := (List.dropWhile_suffix p).length_le

private theorem withExponent_le {significand : Nat} {exponent : Int} {cs : List Char}
    {r : Float × List Char} (h : withExponent significand exponent cs = some r) :
    r.2.length ≤ cs.length := by
  unfold withExponent at h
  split at h
  next negative behind hsign =>
    have hbehind : behind.length ≤ cs.length := by
      split at hsign <;> cases hsign <;> simp
    have hrest := Nat.le_trans (dropWhile_le isDigit behind) hbehind
    dsimp only at h
    split at h
    · cases h
    · split at h
      · split at h
        · cases h
        · cases h
          exact hrest
      · obtain ⟨_, -, rfl⟩ := Option.map_eq_some_iff.mp h
        exact hrest

private theorem afterDigits_le {significand : Nat} {exponent : Int} {cs : List Char}
    {r : Float × List Char} (h : afterDigits significand exponent cs = some r) :
    r.2.length ≤ cs.length := by
  unfold afterDigits at h
  split at h
  · exact Nat.le_succ_of_le (withExponent_le h)
  · exact Nat.le_succ_of_le (withExponent_le h)
  · obtain ⟨_, -, rfl⟩ := Option.map_eq_some_iff.mp h
    exact Nat.le_refl _

private theorem withFraction_le {significand : Nat} {exponent : Int} {cs : List Char}
    {r : Float × List Char} (h : withFraction significand exponent cs = some r) :
    r.2.length ≤ cs.length := by
  unfold withFraction at h
  split at h
  · cases h
  · have hleading := leading_le significand 0 cs
    exact Nat.le_trans (afterDigits_le h) (Nat.le_trans (dropWhile_le isDigit _) hleading)

private theorem leading_digit {c : Char} (hc : isDigit c = true) (cs : List Char) :
    (leading 0 0 (c :: cs)).2.2.length ≤ cs.length := by
  obtain ⟨d, hd⟩ := Option.isSome_iff_exists.mp hc
  have hsmall : ¬wordLimit < 0 * 10 + d := by
    unfold digit? at hd
    split at hd
    next hrange =>
      cases hd
      have hnine : c.toNat ≤ '9'.toNat := hrange.2
      have hlimit : '9'.toNat ≤ wordLimit := by decide +kernel
      omega
    next => cases hd
  rw [leading, hd]
  simp only [if_neg hsmall]
  exact leading_le _ _ cs

private theorem magnitude_takes {negative : Bool} {c : Char} {cs : List Char}
    {r : Value × List Char} (hc : isDigit c = true) (h : magnitude negative (c :: cs) = some r) :
    r.1.isNumber = true ∧ r.2.length ≤ cs.length := by
  have hleading := leading_digit hc cs
  unfold magnitude at h
  split at h
  next significand taken rest hrest =>
    rw [hrest] at hleading
    have hbehind := Nat.le_trans (dropWhile_le isDigit rest) hleading
    dsimp only at h
    split at h
    next fraction hpoint =>
      rw [hpoint] at hbehind
      obtain ⟨_, hfraction, rfl⟩ := Option.map_eq_some_iff.mp h
      exact ⟨rfl, Nat.le_trans (withFraction_le hfraction) (Nat.le_of_succ_le hbehind)⟩
    next =>
      split at h
      · split at h
        · cases h
          exact ⟨rfl, hbehind⟩
        · split at h
          all_goals
            cases h
            exact ⟨rfl, hbehind⟩
      · obtain ⟨_, hafter, rfl⟩ := Option.map_eq_some_iff.mp h
        exact ⟨rfl, Nat.le_trans (afterDigits_le hafter) hbehind⟩

/-- A number starts with its sign or with a digit, and takes at least that. -/
theorem number_takes {cs : List Char} {v : Value} {rest : List Char}
    (h : number cs = some (v, rest)) : v.isNumber = true ∧
      ∃ c front, cs = c :: front ∧ (c = '-' ∨ isDigit c = true) ∧ rest.length ≤ front.length := by
  unfold number at h
  split at h
  next negative cs' hsign =>
    have hdigits : v.isNumber = true ∧ ∃ c front, cs' = c :: front ∧ isDigit c = true ∧
        rest.length ≤ front.length := by
      split at h
      next c front =>
        split at h
        · cases h
        · obtain ⟨hv, hrest⟩ := magnitude_takes rfl h
          exact ⟨hv, '0', _, rfl, rfl, hrest⟩
      next c front _ =>
        split at h
        next hc =>
          obtain ⟨hv, hrest⟩ := magnitude_takes hc h
          exact ⟨hv, c, front, rfl, hc, hrest⟩
        next => cases h
      next => cases h
    obtain ⟨hv, c, front, rfl, hc, hrest⟩ := hdigits
    refine ⟨hv, ?_⟩
    split at hsign
    · cases hsign
      exact ⟨'-', _, rfl, .inl rfl, Nat.le_succ_of_le hrest⟩
    · cases hsign
      exact ⟨c, front, rfl, .inr hc, hrest⟩

end FleetTrail.Json
