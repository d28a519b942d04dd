import GameFleet.Json.Value
import GameFleet.Text.Numeral

/-!
# Written JSON numbers

- `Numeral`: a number as it stands in a text: sign, digits, fraction and exponent.
- `Numeral.read?`: the numeral a text starts with.
- `Numeral.value?`: its value. Without fraction and exponent it is whole as long as 64 bits hold
  it; negative zero and everything else is floating-point. Digits beyond 64 bits only count as
  places. A value beyond the greatest floating-point number is none.
-/

namespace GameFleet.Json

/-- A number as it is written. -/
structure Numeral where
  /-- Whether a minus sign leads. -/
  negative : Bool
  /-- The digits before the point. -/
  digits : List Char
  /-- The digits behind the point; there is no point when they are empty. -/
  fraction : List Char
  /-- The sign and digits of the exponent. -/
  exponent : Option (Bool × List Char)
  deriving Repr, DecidableEq

namespace Numeral

/-- The digits a text starts with, and what follows them. -/
def digitRun (cs : List Char) : List Char × List Char :=
  (cs.takeWhile Char.isDigit, cs.dropWhile Char.isDigit)

/-- The digits of a whole part: a single zero, or digits that start with none. -/
def wholePart? (cs : List Char) : Option (List Char × List Char) :=
  match digitRun cs with
  | ([], _) => none
  | (['0'], rest) => some (['0'], rest)
  | ('0' :: _, _) => none
  | run => some run

/-- A fraction: at least one digit behind a point. -/
def fractionPart? : List Char → Option (List Char × List Char)
  | '.' :: rest =>
    match digitRun rest with
    | ([], _) => none
    | run => some run
  | cs => some ([], cs)

/-- The digits of an exponent: at least one. -/
def exponentDigits? (negative : Bool) (cs : List Char) :
    Option (Option (Bool × List Char) × List Char) :=
  match digitRun cs with
  | ([], _) => none
  | (ds, rest) => some (some (negative, ds), rest)

/-- An exponent: a letter, perhaps a sign, and digits. -/
def exponentPart? : List Char → Option (Option (Bool × List Char) × List Char)
  | c :: rest =>
    if c = 'e' ∨ c = 'E' then
      match rest with
      | '+' :: rest => exponentDigits? false rest
      | '-' :: rest => exponentDigits? true rest
      | _ => exponentDigits? false rest
    else some (none, c :: rest)
  | [] => some (none, [])

/-- The numeral a text starts with, and what follows it. -/
def read? (cs : List Char) : Option (Numeral × List Char) := do
  let (negative, cs) := match cs with
    | '-' :: rest => (true, rest)
    | _ => (false, cs)
  let (digits, cs) ← wholePart? cs
  let (fraction, cs) ← fractionPart? cs
  let (exponent, cs) ← exponentPart? cs
  return (⟨negative, digits, fraction, exponent⟩, cs)

/-- The digits taken into a significand of 64 bits, from the left, and how many did not fit: once
one does not fit, none behind it is taken. -/
def significand (before : Nat) : List Char → Nat × Nat
  | [] => (before, 0)
  | c :: cs =>
    let n := before * 10 + Text.digitValue c
    if n ≤ Text.maxWord64 then significand n cs else (before, cs.length + 1)

/-- The significand and power of ten of whole digits and a fraction. Whole digits that do not fit
raise the power; fraction digits that fit lower it. -/
def scaled (digits fraction : List Char) : Nat × Int :=
  let (whole, lost) := significand 0 digits
  let (all, left) := significand whole fraction
  (all, (lost : Int) - ((fraction.length - left : Nat) : Int))

/-- The greatest power of ten that is divided or multiplied by at once. -/
def maxPower : Nat := 308

/-- A power of ten, rounded. -/
def powerOfTen (n : Nat) : Double := Double.ofNat (Nat.pow 10 n)

/-- `x / 10 ^ n`, in steps of the greatest power. -/
def shrink (x : Double) (n : Nat) : Double :=
  if n ≤ maxPower then x.div (powerOfTen n)
  else shrink (x.div (powerOfTen maxPower)) (n - maxPower)
termination_by n
decreasing_by simp only [maxPower] at *; omega

/-- `significand · 10 ^ exponent`, rounded at each step; none beyond the greatest number. -/
def magnitude? (significand : Nat) (exponent : Int) : Option Double :=
  let x := Double.ofNat significand
  if significand = 0 then some x
  else if 0 ≤ exponent then
    if exponent.natAbs ≤ maxPower then
      let y := x.mul (powerOfTen exponent.natAbs)
      if y.isFinite then some y else none
    else none
  else if 1000 < exponent.natAbs then some (Double.zero false)
  else some (shrink x exponent.natAbs)

/-- A magnitude with the sign of the numeral. -/
def signed (negative : Bool) (x : Double) : Double := if negative then x.neg else x

/-- The floating-point value of a numeral. -/
def real? (n : Numeral) : Option Double := do
  let (s, e) := scaled n.digits n.fraction
  let shift : Int := match n.exponent with
    | none => 0
    | some (negative, ds) =>
      let i : Int := Text.digitsValueFrom 0 ds
      if negative then -i else i
  let x ← magnitude? s (e + shift)
  return signed n.negative x

/-- The value of a numeral. -/
def value? (n : Numeral) : Option Number :=
  if n.fraction.isEmpty ∧ n.exponent.isNone then
    let i := Text.digitsValueFrom 0 n.digits
    if n.negative then
      if 0 < i ∧ i ≤ Text.leastInt64 then some (.whole (-(i : Int))) else (n.real?).map .real
    else if i ≤ Text.maxWord64 then some (.whole i)
    else (n.real?).map .real
  else (n.real?).map .real

end Numeral

end GameFleet.Json
