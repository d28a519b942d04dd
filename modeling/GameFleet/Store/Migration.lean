import GameFleet.Store.Command

/-!
# Migrations (specification §2, persistence)

- `Store.Migration`: a named change of the tables, and how it is undone.
- `Migration.all`: the changes that make up the tables of the fleet, in order.
- `Migration.run`: the statements of one change, one after another until one fails.
- `Migrator.up`, `Migrator.down`: a table holds the names of the changes that were applied, and what
  is missing is applied, or what is there is undone. All of it is one transaction.
-/

namespace GameFleet.Store

/-- A direction to migrate in. -/
inductive Direction where
  | up
  | down
  deriving DecidableEq, Repr

/-- A named change of the tables. -/
structure Migration where
  name : String
  up : List Statement
  down : List Statement

namespace Migration

open Schema

/-- The changes that make up the tables of the fleet. -/
def all : List Migration := [
  { name := "m0001_create_owners", up := [owners.creation], down := [owners.removal] },
  { name := "m0002_create_instances"
    up := [
      instances.creation,
      instances.index "idx_instances_owner_id" ["owner_id"],
      instances.index "idx_instances_status_created_at" ["status", "created_at"],
      oneActivePerOwner]
    down := [instances.removal] },
  { name := "m0003_create_instance_activity", up := [activities.creation]
    down := [activities.removal] },
  { name := "m0004_create_fleet_events"
    up := [
      events.creation,
      events.index "idx_fleet_events_created_at" ["created_at"],
      events.index "idx_fleet_events_actor_id" ["actor_id"]]
    down := [events.removal] },
  { name := "m0005_create_guild_parameters", up := [guilds.creation], down := [guilds.removal] },
  { name := "m0006_create_owner_bans"
    up := [bans.creation, bans.index "idx_owner_bans_owner_id" ["owner_id"]]
    down := [bans.removal] }]

/-- The statements of a change in a direction. -/
def statements (m : Migration) : Direction → List Statement
  | .up => m.up
  | .down => m.down

/-- Runs the statements of a change. -/
def run (m : Migration) (d : Direction) : Query Unit := (m.statements d).forM Query.execute

end Migration

namespace Migrator

/-- The table of the changes that were applied. -/
def ledger : TableSchema where
  name := "seaql_migrations"
  columns := [
    { name := "version", type := .name, key := true },
    { name := "applied_at", type := .bigInteger }]

/-- Reads the names of the changes that were applied. -/
def reading : Statement where
  text := "SELECT \"version\", \"applied_at\" FROM \"seaql_migrations\" ORDER BY \"version\" ASC"

/-- Strikes the name of a change. -/
def striking (name : String) : Statement where
  text := "DELETE FROM \"seaql_migrations\" WHERE \"version\" = $1"
  params := [.text name]

/-- What is said of a change that was applied and is not known. -/
def unknown (name : String) : String :=
  "Migration file of version '" ++ name
    ++ "' is missing, this migration has been applied but its file is missing"

/-- The names of the changes that were applied; all of them have to be known. The table is created
first if need be, which is asked for four times. -/
def applied : Query (List String) := do
  (List.replicate 4 ledger.creation).forM Query.execute
  let names : List String ← Query.read .migrations reading
  let strange := names.eraseDups.filter fun n => Migration.all.all fun m => m.name ≠ n
  if strange.isEmpty then return names
  else throw (.store (.custom (Text.joined "\n" (strange.map unknown))))

/-- Applies a change and notes its name. -/
def apply (now : Timestamp) (m : Migration) : Query Unit := do
  m.run .up
  Query.insert (ledger.insertion [.text m.name, .whole now.seconds])

/-- Undoes a change and strikes its name. -/
def undo (m : Migration) : Query Unit := do
  m.run .down
  Query.execute (striking m.name)

/-- The first items, or all of them when there is no bound. -/
def atMost {α : Type} : Option Nat → List α → List α
  | none, items => items
  | some n, items => items.take n

/-- Applies the changes that were not applied, in order, at most some of them. -/
def up (now : Timestamp) (steps : Option Nat) : Query Unit := Query.transaction do
  let names ← applied
  let pending := Migration.all.filter fun m => !names.contains m.name
  (atMost steps pending).forM (apply now)

/-- Undoes the changes that were applied, the last first, at most some of them. -/
def down (steps : Option Nat) : Query Unit := Query.transaction do
  let names ← applied
  let there := Migration.all.reverse.filter fun m => names.contains m.name
  (atMost steps there).forM undo

end Migrator

end GameFleet.Store
