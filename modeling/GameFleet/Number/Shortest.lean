import GameFleet.Number.Double
import GameFleet.Text.Numeral

/-!
# The shortest decimal text of a number

- `Decimal`: whole digits and a power of ten.
- `shortest`: the fewest digits that are nearer to the number than to any other; of those with as
  few digits the nearest to the number, and of two as near the even one.
- `Double.text`: the digits with a decimal point while the number is at least `10 ^ -5` and below
  `10 ^ 16`, and with an exponent otherwise.
-/

namespace GameFleet

/-- The value `digits · 10 ^ exponent`. -/
structure Decimal where
  /-- All the digits, as one whole number. -/
  digits : Nat
  /-- The power of ten they are counted in. -/
  exponent : Int
  deriving Repr, DecidableEq

namespace Decimal

/-- Numerator and denominator of `num / den / 10 ^ k`. -/
def counted (num den : Nat) (k : Int) : Nat × Nat :=
  if k < 0 then (num * Nat.pow 10 k.natAbs, den) else (num, den * Nat.pow 10 k.natAbs)

/-- How many decimal digits a number has. -/
def width (n : Nat) : Nat := (Text.decimal n).length

/-- The place of the first digit of `num / den`: one more than the floor of its logarithm. -/
def magnitude (num den : Nat) : Int :=
  if den ≤ num then (width (num / den) : Int)
  else
    let k : Int := (width den : Int) - (width num : Int)
    let (n, d) := counted num den (-k)
    if d ≤ n then 1 - k else -k

/-- The numbers that round to `m · 2 ^ e`, as two bounds in quarters of `2 ^ e`. The lower half of
the interval is narrower where the exponent changes. -/
def bounds (m : Nat) (e : Int) : Nat × Nat :=
  let lower := if m = Nat.pow 2 (Double.precision - 1) ∧ Double.minExponent < e then 1 else 2
  (4 * m - lower, 4 * m + 2)

/-- Whether `c · 10 ^ k` rounds to `m · 2 ^ e`. -/
def roundsTo (m : Nat) (e : Int) (c : Nat) (k : Int) : Bool :=
  let (lo, hi) := bounds m e
  let (bn, bd) := Double.ratio 1 (e - 2)
  let (cn, cd) := counted c 1 (-k)
  let x := cn * bd
  let low := lo * bn * cd
  let high := hi * bn * cd
  if m % 2 = 0 then low ≤ x && x ≤ high else low < x && x < high

/-- The nearest number of `n` digits that rounds to `m · 2 ^ e`. -/
def withDigits (m : Nat) (e : Int) (n : Nat) : Option Decimal :=
  let (num, den) := Double.ratio m e
  let k : Int := magnitude num den - n
  let (a, b) := counted num den k
  let floor := a / b
  let nearest := Double.roundHalfEven a b
  let other := if nearest = floor then floor + 1 else floor
  if roundsTo m e nearest k then some ⟨nearest, k⟩
  else if roundsTo m e other k then some ⟨other, k⟩
  else none

/-- The first number of digits, from `n` up, that suffices; `left` bounds the search. -/
def search (m : Nat) (e : Int) (n : Nat) : (left : Nat) → Decimal
  | 0 => (withDigits m e n).getD ⟨0, 0⟩
  | left + 1 => (withDigits m e n).getD (search m e (n + 1) left)

/-- The value without trailing zeros among its digits. -/
def stripped (d : Decimal) : Decimal :=
  if h : d.digits ≠ 0 ∧ d.digits % 10 = 0 then
    stripped ⟨d.digits / 10, d.exponent + 1⟩
  else d
termination_by d.digits
decreasing_by omega

/-- The fewest digits that round to `m · 2 ^ e`. Seventeen always suffice. -/
def shortest (m : Nat) (e : Int) : Decimal := (search m e 1 16).stripped

/-- A sign in front of an exponent, always written. -/
def signed (i : Int) : String := if i < 0 then Text.intText i else "+" ++ Text.intText i

/-- The digits with a point, or with an exponent for numbers far from one. -/
def text (d : Decimal) : String :=
  let ds := Text.decimal d.digits
  let point : Int := ds.length + d.exponent
  let zeros (n : Nat) := List.replicate n '0'
  if 0 ≤ d.exponent ∧ point ≤ 16 then
    String.ofList (ds ++ zeros d.exponent.toNat ++ ['.', '0'])
  else if 0 < point ∧ point ≤ 16 then
    String.ofList (ds.take point.toNat ++ '.' :: ds.drop point.toNat)
  else if -5 < point ∧ point ≤ 0 then
    String.ofList (['0', '.'] ++ zeros point.natAbs ++ ds)
  else
    match ds with
    | [c] => String.ofList [c] ++ "e" ++ signed (point - 1)
    | c :: rest => String.ofList (c :: '.' :: rest) ++ "e" ++ signed (point - 1)
    | [] => "0.0"

end Decimal

/-- A finite number as its shortest text; there is none for the others. -/
def Double.text? : Double → Option String
  | .nan => none
  | .infinite _ => none
  | .finite s m e =>
    let body := if m = 0 then "0.0" else (Decimal.shortest m e).text
    some (if s then "-" ++ body else body)

end GameFleet
