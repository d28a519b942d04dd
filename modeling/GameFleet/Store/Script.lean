import GameFleet.Store.Access
import GameFleet.Store.Migration

/-!
# Scripted databases

A database that answers from a script and keeps a journal of the statements it was sent, to see
what a query does.

- `Store.Script`: the answers that are left, and the journal.
- `Script.perform`: a query against a script.
-/

namespace GameFleet.Store

/-- Rows that a script answers with. -/
inductive Rows where
  | instances (rows : List InstanceRow)
  | activities (rows : List Activity)
  | owners (rows : List OwnerRow)
  | bans (rows : List Ban)
  | guilds (rows : List GuildRow)
  | migrations (names : List String)

namespace Rows

/-- The rows of a kind; none when they are of another. -/
def ofSource : (s : Source) → Rows → List s.Row
  | .instances, .instances rows => rows
  | .activities, .activities rows => rows
  | .owners, .owners rows => rows
  | .bans, .bans rows => rows
  | .guilds, .guilds rows => rows
  | .migrations, .migrations names => names
  | _, _ => []

end Rows

/-- A refusal that a script answers with. -/
inductive Refusal where
  | custom (message : String)
  | rejected (reason : Rejection)

/-- The failure of a command that is refused. -/
def Refusal.failure (p : Purpose) : Refusal → Failure
  | custom m => .custom m
  | rejected r => .rejected p r

/-- A database that answers from a script. -/
structure Script where
  /-- Answers for reading. -/
  reads : List (Except Refusal Rows)
  /-- Answers for writing. -/
  writes : List (Except Refusal Nat)
  /-- What was sent, the last first: transactions, and statements alone. -/
  journal : List (List Statement) := []
  /-- What was sent in the transaction that is open, the last first. -/
  pending : Option (List Statement) := none

namespace Script

/-- The failure when the script has no answer left. -/
def exhausted : Purpose → Failure
  | .query => .unanswered .query "\x60query_results\x60 buffer is empty"
  | .execution => .unanswered .execution "\x60exec_results\x60 buffer is empty"

/-- The journal with a statement added. -/
def note (d : Script) (s : Statement) : Script :=
  match d.pending with
  | none => { d with journal := [s] :: d.journal }
  | some statements => { d with pending := some (s :: statements) }

/-- The journal with the open transaction ended by a statement. -/
def close (d : Script) (s : Statement) : Script :=
  match d.pending with
  | none => d
  | some statements => { d with pending := none, journal := (s :: statements) :: d.journal }

/-- The answer to a command. -/
def answer (d : Script) : (c : Command) → c.Answer × Script
  | .begin => (.ok (), { d with pending := some [.begin] })
  | .commit => (.ok (), d.close .commit)
  | .rollback => (.ok (), d.close .rollback)
  | .read source s =>
    let d := d.note s
    match d.reads with
    | [] => (.error (exhausted .query), d)
    | .error r :: rest => (.error (r.failure .query), { d with reads := rest })
    | .ok rows :: rest => (.ok (rows.ofSource source), { d with reads := rest })
  | .write s =>
    let d := d.note s
    match d.writes with
    | [] => (.error (exhausted .execution), d)
    | .error r :: rest => (.error (r.failure .execution), { d with writes := rest })
    | .ok n :: rest => (.ok n, { d with writes := rest })

/-- A query against a script. -/
def perform {α : Type} (d : Script) (q : Query α) : Outcome α × Script :=
  Program.answered answer d q.run

/-- What was sent, in order. An open transaction is rolled back. -/
def sent (d : Script) : List (List Statement) :=
  ((d.close .rollback).journal.map List.reverse).reverse

end Script

end GameFleet.Store
