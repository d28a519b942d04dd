import GameFleet.Request
import GameFleet.Store.Row
import GameFleet.Store.Schema

/-!
# What a database is asked

- `Store.Command`: a statement, with what kind of answer it has.
- `Store.Query`: a program that asks a database and ends in a value or a failure.
- `Query.transaction`: a query inside a transaction, which is rolled back when the query fails.
-/

namespace GameFleet.Store

/-- The kinds of rows that are read. -/
inductive Source where
  | instances
  | activities
  | owners
  | bans
  | guilds
  /-- The names of the migrations that were applied. -/
  | migrations
  deriving DecidableEq

/-- A row of each kind. -/
def Source.Row : Source → Type
  | instances => InstanceRow
  | activities => Activity
  | owners => OwnerRow
  | bans => Ban
  | guilds => GuildRow
  | migrations => String

/-- What a database is asked. -/
inductive Command where
  /-- A transaction is opened. -/
  | begin
  /-- The transaction is closed, and its changes stand. -/
  | commit
  /-- The transaction is closed, and its changes are undone. -/
  | rollback
  /-- Rows are read. -/
  | read (source : Source) (s : Statement)
  /-- Rows are written. -/
  | write (s : Statement)

namespace Command

/-- The statement that is sent. -/
def statement : Command → Statement
  | begin => .begin
  | commit => .commit
  | rollback => .rollback
  | read _ s => s
  | write s => s

/-- What the statement is sent for. -/
def purpose : Command → Purpose
  | write _ => .execution
  | _ => .query

/-- What comes back: nothing, rows, or how many rows were written. -/
def Answer : Command → Type
  | read source _ => Except Failure (List source.Row)
  | write _ => Except Failure Nat
  | begin => Except Failure Unit
  | commit => Except Failure Unit
  | rollback => Except Failure Unit

end Command

/-- A program that asks a database and ends in a value or a failure. -/
abbrev Query (α : Type) := ExceptT GameFleet.Failure (Program Command Command.Answer) α

namespace Query

variable {α : Type}

/-- A query's value, or the failure of the database. -/
def ofDatabase (p : Program Command Command.Answer (Except Failure α)) : Query α :=
  ExceptT.mk do return (← p).mapError .store

/-- Opens a transaction. -/
def begin : Query Unit := ofDatabase (Program.request Command.begin)

/-- Closes the transaction, and its changes stand. -/
def commit : Query Unit := ofDatabase (Program.request Command.commit)

/-- Closes the transaction and undoes its changes. -/
def rollback : Query Unit := ofDatabase (Program.request Command.rollback)

/-- Reads rows. -/
def read (source : Source) (s : Statement) : Query (List source.Row) :=
  ofDatabase (Program.request (Command.read source s))

/-- Writes rows; gives how many. -/
def write (s : Statement) : Query Nat := ofDatabase (Program.request (Command.write s))

/-- Writes rows, however many. -/
def execute (s : Statement) : Query Unit := do
  let _ ← write s

/-- Inserts a row; fails when none was inserted. -/
def insert (s : Statement) : Query Unit := do
  if (← write s) = 0 then throw (.store .notInserted)

/-- The query with its failures changed. -/
def refine (change : GameFleet.Failure → Except GameFleet.Failure α) (q : Query α) : Query α :=
  tryCatch q fun f => ExceptT.mk (pure (change f))

/-- A query inside a transaction, which is rolled back when the query fails. -/
def transaction (body : Query α) : Query α := do
  begin
  let a ← tryCatch body fun f => do
    rollback
    throw f
  commit
  return a

end Query

end GameFleet.Store
