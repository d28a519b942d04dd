import GameFleet.Text.Blank
import GameFleet.Text.Numeral
import GameFleet.Time.Timestamp

/-!
# Written moments

- `Timestamp.text`: a moment as date and time in universal time, with as many fraction digits as
  are exact: none, three, six or nine.
- `Timestamp.read?`: a moment in any spelling that is near enough. Blanks may stand in front of
  each number and around the marks between them, numbers may have one digit, a year may have a
  sign and then any number of digits, and the offset is `Z`, `UTC` or signed hours and minutes.
-/

namespace GameFleet.Timestamp

/-- Two digits. -/
def twoDigits (n : Nat) : List Char := Text.padded 2 n

/-- A year in four digits, and with a sign outside the years 0 to 9999. -/
def yearText (year : Int) : List Char :=
  if 0 ≤ year ∧ year ≤ 9999 then Text.padded 4 year.toNat
  else (if year < 0 then '-' else '+') :: Text.padded 4 year.natAbs

/-- The fraction of a second in the fewest groups of three digits. -/
def fractionText (nanos : Nat) : List Char :=
  if nanos = 0 then []
  else if nanos % 1000000 = 0 then '.' :: Text.padded 3 (nanos / 1000000)
  else if nanos % 1000 = 0 then '.' :: Text.padded 6 (nanos / 1000)
  else '.' :: Text.padded 9 nanos

/-- A moment without its offset. -/
def bareChars (t : Timestamp) : List Char :=
  let d := t.date
  let s := t.secondOfDay.toNat
  let (second, nanos) :=
    if t.isLeap then (s % 60 + 1, t.nanos - Span.second) else (s % 60, t.nanos)
  yearText d.year ++ '-' :: twoDigits d.month ++ '-' :: twoDigits d.day
    ++ 'T' :: twoDigits (s / 3600) ++ ':' :: twoDigits (s / 60 % 60) ++ ':' :: twoDigits second
    ++ fractionText nanos

/-- A moment as text, ending in `Z`. -/
def text (t : Timestamp) : String := String.ofList (t.bareChars ++ ['Z'])

/-- A moment as text, with its offset in numbers. -/
def offsetText (t : Timestamp) : String :=
  String.ofList (t.bareChars ++ ['+', '0', '0', ':', '0', '0'])

/-! ### Reading -/

/-- The digits a text starts with, at most `most` of them, and what follows. -/
def digitRun (most : Nat) (cs : List Char) : List Char × List Char :=
  let run := (cs.take most).takeWhile Char.isDigit
  (run, cs.drop run.length)

/-- A number of one digit up to `most`, and what follows. -/
def number? (most : Nat) (cs : List Char) : Option (Nat × List Char) := do
  let (run, rest) := digitRun most cs
  let n ← Text.digitsValue? run
  return (n, rest)

/-- A number in range after blanks, and what follows. -/
def field? (most least greatest : Nat) (cs : List Char) : Option (Nat × List Char) := do
  let (n, rest) ← number? most (Text.trimStart cs)
  if least ≤ n ∧ n ≤ greatest then some (n, rest) else none

/-- A year after blanks: with a sign of any length, without one of four digits at most. -/
def year? (cs : List Char) : Option (Int × List Char) :=
  match Text.trimStart cs with
  | '-' :: rest => (number? rest.length rest).map fun (n, r) => (-(n : Int), r)
  | '+' :: rest => (number? rest.length rest).map fun (n, r) => ((n : Int), r)
  | rest => (number? 4 rest).map fun (n, r) => ((n : Int), r)

/-- What follows a mark that blanks may come before. -/
def mark? (c : Char) (cs : List Char) : Option (List Char) :=
  match Text.trimStart cs with
  | d :: rest => if d = c then some rest else none
  | [] => none

/-- The nanoseconds of a fraction, if there is one: nine digits count. -/
def fraction? : List Char → Option (Nat × List Char)
  | '.' :: rest => do
    let (run, after) := digitRun 9 rest
    let n ← Text.digitsValue? run
    return (n * Nat.pow 10 (9 - run.length), after.dropWhile Char.isDigit)
  | cs => some (0, cs)

/-- Two digits and what follows. -/
def pair? : List Char → Option (Nat × List Char)
  | a :: b :: rest =>
    if a.isDigit ∧ b.isDigit then some (Text.digitsValueFrom 0 [a, b], rest) else none
  | _ => none

/-- An offset in seconds: hours and minutes after a sign. -/
def signedOffset? (cs : List Char) : Option (Int × List Char) := do
  let (negative, cs) ← match cs with
    | '+' :: rest => some (false, rest)
    | '-' :: rest => some (true, rest)
    | '\u2212' :: rest => some (true, rest)
    | _ => none
  let (hours, cs) ← pair? cs
  let (minutes, cs) ← pair? (cs.dropWhile fun c => c == ':' || Text.isBlank c)
  if minutes < 60 then
    let s : Int := hours * 3600 + minutes * 60
    some (if negative then -s else s, cs)
  else none

/-- An offset in seconds: a name of universal time, or hours and minutes. -/
def offset? (cs : List Char) : Option (Int × List Char) :=
  if (cs.take 3).map Char.toLower = ['u', 't', 'c'] then some (0, cs.drop 3)
  else
    match cs with
    | 'Z' :: rest => some (0, rest)
    | 'z' :: rest => some (0, rest)
    | _ => signedOffset? cs

/-- The first and the last year that a moment may lie in. -/
def firstYear : Int := -262143
def lastYear : Int := 262142

/-- The first and the last day that a moment may lie in. -/
def firstDay : Int := Date.dayNumber ⟨firstYear, 1, 1⟩
def lastDay : Int := Date.dayNumber ⟨lastYear, 12, 31⟩

/-- Whether a moment lies in the years that can be written. -/
def inRange (t : Timestamp) : Bool :=
  let d := t.seconds / day
  firstDay ≤ d && d ≤ lastDay

/-- The moment of a date and a time of day at an offset. Second 60 is a leap second. -/
def atOffset? (date : Date) (hour minute second nanos : Nat) (offset : Int) :
    Option Timestamp :=
  if date.isValid ∧ firstYear ≤ date.year ∧ date.year ≤ lastYear ∧ offset.natAbs < 86400 then
    let leap := second = 60
    let s : Int := hour * 3600 + minute * 60 + (if leap then 59 else second)
    let t : Timestamp :=
      ⟨date.dayNumber * day + s - offset, if leap then nanos + Span.second else nanos⟩
    if t.inRange then some t else none
  else none

/-- A moment in any near enough spelling. -/
def read? (text : String) : Option Timestamp := do
  let (year, cs) ← year? text.toList
  let cs ← mark? '-' cs
  let (month, cs) ← field? 2 1 12 cs
  let cs ← mark? '-' cs
  let (dayOfMonth, cs) ← field? 2 1 31 cs
  let cs ← match cs with
    | c :: rest => if c = 't' ∨ c = 'T' ∨ c = ' ' then some rest else none
    | [] => none
  let (hour, cs) ← field? 2 0 23 cs
  let cs ← mark? ':' cs
  let (minute, cs) ← field? 2 0 59 cs
  let cs ← mark? ':' cs
  let (second, cs) ← field? 2 0 60 cs
  let (nanos, cs) ← fraction? cs
  let (offset, cs) ← offset? (Text.trimStart cs)
  if (Text.trimStart cs).isEmpty then
    atOffset? ⟨year, month, dayOfMonth⟩ hour minute second nanos offset
  else none

end GameFleet.Timestamp
