import GameFleet.Text.Lines
import GameFleet.Text.Numeral

/-!
# Addresses of hosts

- `IpAddress`: four bytes, or eight groups of 16 bits.
- `IpAddress.four?`, `IpAddress.six?`: the address at the start of a text. Numbers of four-byte
  addresses have no leading zeros; the last two groups of a long address may be written as a
  four-byte one; `::` stands for at least one group of zeros.
- `IpAddress.read?`: the address that a whole text writes.
- `IpAddress.text`: the form to show. The longest run of two or more zero groups becomes `::`.
-/

namespace GameFleet

/-- An address of a host. -/
inductive IpAddress where
  | four (a b c d : Nat)
  | six (groups : List Nat)
  deriving DecidableEq, Repr

namespace IpAddress

/-! ### Reading -/

/-- The value of a digit in a base. -/
def digit? (base : Nat) (c : Char) : Option Nat := do
  let d ← Text.hexDigit? c
  if d < base then some d else none

/-- A number in a base, and what follows. `most` bounds its digits and `bound` its value. -/
def number? (base bound : Nat) (most : Option Nat) (leadingZeros : Bool) (cs : List Char) :
    Option (Nat × List Char) :=
  let run := cs.takeWhile fun c => (digit? base c).isSome
  let n := run.foldl (fun n c => n * base + (digit? base c).getD 0) 0
  let tooLong : Bool := match most with
    | some m => m < run.length
    | none => false
  if run.isEmpty ∨ tooLong ∨ bound < n ∨ (!leadingZeros ∧ run.head? = some '0' ∧ 1 < run.length)
  then none
  else some (n, cs.drop run.length)

/-- A byte of a four-byte address. -/
def byte? (cs : List Char) : Option (Nat × List Char) := number? 10 255 (some 3) false cs

/-- What follows a character. -/
def mark? (c : Char) (cs : List Char) : Option (List Char) := Text.after? [c] cs

/-- A four-byte address, and what follows. -/
def four? (cs : List Char) : Option (IpAddress × List Char) := do
  let (a, cs) ← byte? cs
  let (b, cs) ← byte? (← mark? '.' cs)
  let (c, cs) ← byte? (← mark? '.' cs)
  let (d, cs) ← byte? (← mark? '.' cs)
  return (.four a b c d, cs)

/-- Something behind a separator; the first of a row has none in front. -/
def separated? {α : Type} (first : Bool) (read : List Char → Option (α × List Char))
    (cs : List Char) : Option (α × List Char) := do
  let cs ← if first then some cs else mark? ':' cs
  read cs

/-- Up to `left` groups of a long address, whether they end in a four-byte one, and what follows. -/
def groups (first : Bool) : (left : Nat) → List Char → List Nat × Bool × List Char
  | 0, cs => ([], false, cs)
  | left + 1, cs =>
    match if 0 < left then separated? first four? cs else none with
    | some (.four a b c d, rest) => ([a * 256 + b, c * 256 + d], true, rest)
    | _ =>
      match separated? first (number? 16 Text.maxWord16 (some 4) true) cs with
      | none => ([], false, cs)
      | some (g, rest) =>
        let (gs, embedded, rest) := groups false left rest
        (g :: gs, embedded, rest)

/-- A long address, and what follows. -/
def six? (cs : List Char) : Option (IpAddress × List Char) :=
  let (head, embedded, rest) := groups true 8 cs
  if head.length = 8 then some (.six head, rest)
  else if embedded then none
  else do
    let rest ← Text.after? [':', ':'] rest
    let (tail, _, rest) := groups true (7 - head.length) rest
    return (.six (head ++ List.replicate (8 - head.length - tail.length) 0 ++ tail), rest)

/-- The address that was read, when nothing follows it. -/
def whole? (read : Option (IpAddress × List Char)) : Option IpAddress := do
  let (ip, rest) ← read
  if rest.isEmpty then some ip else none

/-- The address that a whole text writes. -/
def read? (cs : List Char) : Option IpAddress := (whole? (four? cs)).or (whole? (six? cs))

/-! ### Showing -/

/-- A four-byte address as text. -/
def fourText (a b c d : Nat) : String :=
  Text.joined "." [Text.natText a, Text.natText b, Text.natText c, Text.natText d]

/-- Groups as hexadecimal numbers with colons between. -/
def groupsText (gs : List Nat) : String :=
  Text.joined ":" (gs.map fun g => String.ofList (Text.hexadecimal g))

/-- The start and length of the first longest run of zeros, given the run that is open and the
longest so far. -/
def longestZeros (index : Nat) (current longest : Nat × Nat) : List Nat → Nat × Nat
  | [] => longest
  | g :: gs =>
    if g = 0 then
      let current := if current.2 = 0 then (index, 1) else (current.1, current.2 + 1)
      longestZeros (index + 1) current (if longest.2 < current.2 then current else longest) gs
    else longestZeros (index + 1) (0, 0) longest gs

/-- A long address as text. One that stands for a four-byte address shows it. -/
def sixText (gs : List Nat) : String :=
  match gs with
  | [0, 0, 0, 0, 0, 0xffff, g, h] => "::ffff:" ++ fourText (g / 256) (g % 256) (h / 256) (h % 256)
  | _ =>
    let (start, length) := longestZeros 0 (0, 0) (0, 0) gs
    if 1 < length then groupsText (gs.take start) ++ "::" ++ groupsText (gs.drop (start + length))
    else groupsText gs

end IpAddress

end GameFleet
