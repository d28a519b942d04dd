import GameFleet.Text.Lines

/-!
# Punycode

Any text can be written in ASCII letters, digits and hyphens: first its ASCII characters, then a
hyphen, then for each other character, by increasing number, how far it is from the one before, as
a number of variable length in base 36.

- `Punycode.Decoder`: a text that is being decoded, and the number that is being read.
- `Punycode.decode?`: the text that a whole code writes.
-/

namespace GameFleet.Punycode

/-- The value of a digit; letters come before the ten figures. -/
def digit? (c : Char) : Option Nat :=
  let n := c.toNat
  if 97 ≤ n ∧ n ≤ 122 then some (n - 97)
  else if 65 ≤ n ∧ n ≤ 90 then some (n - 65)
  else if 48 ≤ n ∧ n ≤ 57 then some (n - 22)
  else none

/-- A digit below this ends a number. -/
def threshold (place bias : Nat) : Nat := Nat.min 26 (Nat.max 1 (place - bias))

/-- The bias for a distance that is scaled down to at most 455. -/
def scaled (bias distance : Nat) : Nat :=
  if 455 < distance then scaled (bias + 36) (distance / 35)
  else bias + 36 * distance / (distance + 38)
termination_by distance
decreasing_by omega

/-- The bias after a distance, when the text has `length` characters. -/
def adapted (first : Bool) (distance length : Nat) : Nat :=
  let d := if first then distance / 700 else distance / 2
  scaled 0 (d + d / length)

/-- A text that is being decoded. -/
structure Decoder where
  /-- What is decoded so far. -/
  text : List Char
  /-- The number of the last character that was put in. -/
  code : Nat := 128
  /-- The place behind the last character that was put in, from which distances count. -/
  place : Nat := 0
  bias : Nat := 72
  first : Bool := true
  /-- What is read of the distance to the next character. -/
  distance : Nat := 0
  /-- What the next digit counts. -/
  weight : Nat := 1
  /-- The base times the count of the next digit; the base itself between numbers. -/
  digitPlace : Nat := 36

namespace Decoder

/-- The character that a whole distance leads to is put in. -/
def put? (d : Decoder) : Option Decoder :=
  let length := d.text.length + 1
  let total := d.place + d.distance
  let code := d.code + total / length
  let place := total % length
  if h : code.isValidChar then
    some { text := d.text.take place ++ Char.ofNatAux code h :: d.text.drop place
           code, place := place + 1, bias := adapted d.first d.distance length, first := false }
  else none

/-- One more digit is read. -/
def feed? (d : Decoder) (c : Char) : Option Decoder := do
  let n ← digit? c
  let t := threshold d.digitPlace d.bias
  let d := { d with distance := d.distance + n * d.weight }
  if n < t then d.put?
  else some { d with weight := d.weight * (36 - t), digitPlace := d.digitPlace + 36 }

/-- The text, when no number is broken off. -/
def finished? (d : Decoder) : Option (List Char) := if d.digitPlace = 36 then some d.text else none

end Decoder

/-- The ASCII characters that a code starts with, and its digits. -/
def parts (code : List Char) : List Char × List Char :=
  match Text.splitLast '-' code with
  | some ([], _) | none => ([], code)
  | some (plain, digits) => (plain, digits)

/-- The text that a code writes. -/
def decode? (code : List Char) : Option (List Char) := do
  let (plain, digits) := parts code
  if plain.all fun c => c.toNat < 128 then
    let d ← digits.foldlM Decoder.feed? { text := plain }
    d.finished?
  else none

end GameFleet.Punycode
