import GameFleet.Text.Blank
import GameFleet.Text.Lines
import GameFleet.Text.Numeral

/-!
# Status transcripts (specification §4.5)

A game server's console answers `status` with free text. Lines that name an address give where
players and spectators connect, a line may sum up the players, and tables list them: a header, then
a row for each player, bots included.

- `Report`: what a transcript tells, the `StatusReport`: `server` is `server_ip` with `server_port`,
  and `relay`, where spectators connect, is `tv_ip` with `tv_port`.
- `Scan`: the reading of a transcript line by line. A line inside a table is a row or ends the
  table, and then nothing else is read from it.
- `Report.read`: the report of a transcript, `parse` of the `StatusProbeParser`. Rows of tables
  count before a line that sums up.
-/

namespace GameFleet.Console

/-- An address: the host's number and, if it could be read, the port. -/
structure Address where
  host : List Char
  port : Option Nat
  deriving DecidableEq, Repr

/-- What a status transcript tells. -/
structure Report where
  /-- Where players connect. -/
  server : Option Address
  /-- Where spectators connect. -/
  relay : Option Address
  players : Nat
  deriving DecidableEq, Repr

namespace Report

def serverKey : List Char := ['u', 'd', 'p', '/', 'i', 'p']
def relayKey : List Char := ['s', 'o', 'u', 'r', 'c', 'e', 't', 'v']
def playersKey : List Char := ['p', 'l', 'a', 'y', 'e', 'r', 's']
def tableHeader : List Char := ['#', ' ', 'u', 's', 'e', 'r', 'i', 'd']
def tableEnd : List Char := ['#', 'e', 'n', 'd']

/-- The value of a line `key : value`, with any blanks around the colon. -/
def field? (key line : List Char) : Option (List Char) := do
  let rest ← Text.after? key line
  let rest ← Text.after? [':'] (Text.trimStart rest)
  return Text.trim rest

/-- Whether a character may stand in a host's number. -/
def isHostChar (c : Char) : Bool := (Text.hexDigit? c).isSome || c = '.'

/-- A text without the commas and semicolons it ends in. -/
def withoutMarks (cs : List Char) : List Char :=
  (cs.reverse.dropWhile fun c => c = ',' || c = ';').reverse

/-- The address in the first word of a value. A port that is no number of 16 bits is left out; a
host that is not written in digits and points is no address. -/
def address? (value : List Char) : Option Address := do
  let word ← (Text.words value).head?
  let token := withoutMarks word
  let (host, port) := match Text.splitLast ':' token with
    | some (host, port) => (host, Text.natural? Text.maxWord16 port)
    | none => (token, none)
  if host.isEmpty ∨ !host.all isHostChar then none else some ⟨host, port⟩

/-- The first run of digits, as a number of 32 bits. -/
def firstNumber? (value : List Char) : Option Nat :=
  Text.natural? Text.maxWord32
    ((value.dropWhile fun c => !c.isDigit).takeWhile Char.isDigit)

/-- Whether a trimmed line is a row of a table. -/
def isRow (line : List Char) : Bool :=
  line.head? = some '#' && line.map Char.toLower ≠ tableEnd

end Report

/-- How far a transcript has been read. -/
structure Scan where
  server : Option Address := none
  relay : Option Address := none
  /-- The players of the last line that summed them up. -/
  summary : Option Nat := none
  /-- The rows of all tables so far, once there is one. -/
  rows : Option Nat := none
  /-- Whether the last line was in a table. -/
  inTable : Bool := false
  deriving DecidableEq, Repr

namespace Scan

open Report

/-- A line outside tables. -/
def outside (s : Scan) (line : List Char) : Scan :=
  match field? serverKey line with
  | some value => { s with server := (address? value).or s.server }
  | none =>
    match field? relayKey line with
    | some value => { s with relay := (address? value).or s.relay }
    | none =>
      match field? playersKey line with
      | some value => { s with summary := firstNumber? value }
      | none =>
        if (Text.after? tableHeader line).isSome then
          { s with rows := some (s.rows.getD 0), inTable := true }
        else s

/-- A line inside a table. -/
def inside (s : Scan) (line : List Char) : Scan :=
  if isRow line then { s with rows := s.rows.map (· + 1) } else { s with inTable := false }

/-- One more line, blanks at its ends aside. -/
def step (s : Scan) (line : List Char) : Scan :=
  if s.inTable then s.inside (Text.trim line) else s.outside (Text.trim line)

/-- The report of what has been read. -/
def report (s : Scan) : Report :=
  ⟨s.server, s.relay, (s.rows.or s.summary).getD 0⟩

end Scan

/-- The report of a transcript. -/
def Report.read (transcript : List Char) : Report :=
  ((Text.lines transcript).foldl Scan.step {}).report

end GameFleet.Console
