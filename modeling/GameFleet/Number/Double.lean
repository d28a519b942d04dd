/-!
# Floating-point numbers of 64 bits

A finite number is `mantissa · 2 ^ exponent` with a mantissa of at most 53 bits; below the least
exponent there is none. Every operation computes the exact result as a ratio of natural numbers and
rounds it once, to the nearest number, with ties to the even mantissa.

- `Double.ofRatio`: the rounding.
- `Double.mul`, `Double.div`, `Double.pow`: products, quotients, and powers by repeated squaring.
- `Double.toWord64`: the whole part, kept within 64 bits.
-/

namespace GameFleet

/-- A floating-point number of 64 bits. -/
inductive Double where
  /-- No number. -/
  | nan
  /-- Beyond every finite number. -/
  | infinite (negative : Bool)
  /-- The number `mantissa · 2 ^ exponent`. -/
  | finite (negative : Bool) (mantissa : Nat) (exponent : Int)
  deriving Repr, DecidableEq, Inhabited

namespace Double

/-- How many bits a mantissa has at most. -/
def precision : Nat := 53

/-- The least exponent. -/
def minExponent : Int := -1074

/-- The greatest exponent. -/
def maxExponent : Int := 971

/-- Zero with a sign. -/
def zero (negative : Bool) : Double := .finite negative 0 minExponent

/-- The whole number nearest to `num / den`; a half goes to the even neighbour. -/
def roundHalfEven (num den : Nat) : Nat :=
  let q := num / den
  let twice := 2 * (num % den)
  if twice < den then q
  else if den < twice then q + 1
  else if q % 2 = 0 then q else q + 1

/-- Numerator and denominator of `num / den / 2 ^ e`. -/
def scaled (num den : Nat) (e : Int) : Nat × Nat :=
  if e < 0 then (num * Nat.pow 2 e.natAbs, den) else (num, den * Nat.pow 2 e.natAbs)

/-- The exponent at which `num / den` has as many bits as a mantissa may have, and never less than
the least exponent. -/
def exponentFor (num den : Nat) : Int :=
  let guess : Int := (num.log2 : Int) - (den.log2 : Int) - (precision : Int)
  let (n, d) := scaled num den guess
  max minExponent (if Nat.pow 2 precision ≤ n / d then guess + 1 else guess)

/-- The number nearest to `num / den`. -/
def ofRatio (negative : Bool) (num den : Nat) : Double :=
  if num = 0 then zero negative
  else
    let e := exponentFor num den
    let (n, d) := scaled num den e
    let m := roundHalfEven n d
    let (m, e) := if m = Nat.pow 2 precision then (Nat.pow 2 (precision - 1), e + 1) else (m, e)
    if maxExponent < e then .infinite negative else .finite negative m e

/-- The number nearest to a natural number. -/
def ofNat (n : Nat) : Double := ofRatio false n 1

/-- The number nearest to an integer. -/
def ofInt (i : Int) : Double := ofRatio (i < 0) i.natAbs 1

/-- A finite magnitude as a ratio. -/
def ratio (m : Nat) (e : Int) : Nat × Nat :=
  if e < 0 then (m, Nat.pow 2 e.natAbs) else (m * Nat.pow 2 e.natAbs, 1)

/-- The number with the other sign. -/
def neg : Double → Double
  | nan => nan
  | infinite s => infinite !s
  | finite s m e => finite (!s) m e

/-- The rounded product. -/
def mul : Double → Double → Double
  | nan, _ => nan
  | _, nan => nan
  | infinite s, infinite t => infinite (s != t)
  | infinite s, finite t m _ => if m = 0 then nan else infinite (s != t)
  | finite s m _, infinite t => if m = 0 then nan else infinite (s != t)
  | finite s m e, finite t n f =>
    let (a, b) := ratio m e
    let (c, d) := ratio n f
    ofRatio (s != t) (a * c) (b * d)

/-- The rounded quotient. -/
def div : Double → Double → Double
  | nan, _ => nan
  | _, nan => nan
  | infinite _, infinite _ => nan
  | infinite s, finite t _ _ => infinite (s != t)
  | finite s _ _, infinite t => zero (s != t)
  | finite s m e, finite t n f =>
    if n = 0 then if m = 0 then nan else infinite (s != t)
    else
      let (a, b) := ratio m e
      let (c, d) := ratio n f
      ofRatio (s != t) (a * d) (b * c)

/-- The rounded product of `r` and the `n`-th power of `a`, squaring `a` once for each bit of `n`
that has another above it. -/
def powFrom (r a : Double) (n : Nat) : Double :=
  let r := if n % 2 = 1 then r.mul a else r
  if n / 2 = 0 then r else powFrom r (a.mul a) (n / 2)
termination_by n

/-- A power by repeated squaring, rounded at each product. -/
def pow (a : Double) (n : Nat) : Double := powFrom (ofNat 1) a n

/-- Whether a number is neither infinite nor missing. -/
def isFinite : Double → Bool
  | finite .. => true
  | _ => false

/-- The number, or zero when it is negative or none. -/
def atLeastZero : Double → Double
  | nan => zero false
  | infinite s => if s then zero false else infinite false
  | finite s m e => if s then zero false else finite s m e

/-- Whether the first number is below the second. -/
def lt : Double → Double → Bool
  | nan, _ => false
  | _, nan => false
  | infinite s, infinite t => s && !t
  | infinite s, finite .. => s
  | finite .., infinite t => !t
  | finite s m e, finite t n f =>
    let (a, b) := ratio m e
    let (c, d) := ratio n f
    let x : Int := if s then -((a * d : Nat) : Int) else ((a * d : Nat) : Int)
    let y : Int := if t then -((c * b : Nat) : Int) else ((c * b : Nat) : Int)
    x < y

/-- The lesser of two numbers. -/
def least (a b : Double) : Double := if b.lt a then b else a

/-- Equality of numbers: no number equals nothing, and the two zeros are equal. -/
def equal : Double → Double → Bool
  | nan, _ => false
  | _, nan => false
  | finite s m e, finite t n f => (m == 0 && n == 0) || (s == t && m == n && e == f)
  | a, b => a == b

/-- The greatest number of 64 bits. -/
def greatestWord : Nat := 0xFFFFFFFFFFFFFFFF

/-- The whole part, kept between zero and the greatest number of 64 bits. -/
def toWord64 : Double → Nat
  | nan => 0
  | infinite s => if s then 0 else greatestWord
  | finite s m e =>
    if s then 0
    else
      let (a, b) := ratio m e
      min (a / b) greatestWord

end Double

end GameFleet
