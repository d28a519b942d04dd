import GameFleet.Store.Access
import GameFleet.Store.Migration

/-!
# A database without rows

A database that finds nothing and takes every row that is written, and keeps none. It may refuse
some statements.

- `Store.Vacant`: what it refuses, and what it was sent.
- `Vacant.perform`: a query against it.
-/

namespace GameFleet.Store

/-- A database without rows. -/
structure Vacant where
  /-- It refuses the statements that hold a text, and says a message. -/
  refused : Option (String × String) := none
  /-- The texts of the statements that it was sent, the last first. -/
  sent : List String := []

namespace Vacant

/-- The failure of a command that is refused. -/
def refusal? (d : Vacant) (c : Command) : Option Failure :=
  d.refused.bind fun (part, message) =>
    if Text.contains part.toList c.statement.text.toList then
      some (.rejected c.purpose ⟨"", message⟩)
    else none

/-- The answer to a command that is not refused. -/
def plain : (c : Command) → c.Answer
  | .begin => .ok ()
  | .commit => .ok ()
  | .rollback => .ok ()
  | .read .. => .ok []
  | .write _ => .ok 1

/-- The answer to a command that is refused. -/
def refuse (f : Failure) : (c : Command) → c.Answer
  | .begin => .error f
  | .commit => .error f
  | .rollback => .error f
  | .read .. => .error f
  | .write _ => .error f

/-- The answer to a command, which is noted. -/
def answer (d : Vacant) (c : Command) : c.Answer × Vacant :=
  let noted := { d with sent := c.statement.text :: d.sent }
  match d.refusal? c with
  | none => (plain c, noted)
  | some f => (refuse f c, noted)

/-- A query against the database. -/
def perform {α : Type} (d : Vacant) (q : Query α) : Outcome α × Vacant :=
  Program.answered answer d q.run

end Vacant

end GameFleet.Store
