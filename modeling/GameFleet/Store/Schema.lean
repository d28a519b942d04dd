import GameFleet.Store.Statement

/-!
# Tables of the database (specification §2, persistence)

One description of each table gives the statements that create it, drop it, read it and write it.

- `Store.TableSchema`: the description of a table.
- `TableSchema.creation`, `TableSchema.removal`: statements that create and drop it.
- `TableSchema.insertion`, `TableSchema.deletion`: statements that write it.
- `TableSchema.joined`: the statement that reads two tables side by side.
- `Schema`: the tables of the fleet.
-/

namespace GameFleet.Store

/-- What a column holds. -/
inductive ColumnType where
  | name
  | prose
  | integer
  | bigInteger
  | uuid
  | json
  | moment
  deriving DecidableEq

namespace ColumnType

def text : ColumnType → String
  | name => "varchar"
  | prose => "text"
  | integer => "integer"
  | bigInteger => "bigint"
  | uuid => "uuid"
  | json => "jsonb"
  | moment => "timestamp with time zone"

end ColumnType

/-- A column of a table. -/
structure Column where
  name : String
  type : ColumnType
  /-- Whether its value may be absent. -/
  optional : Bool := false
  /-- Whether it names the row. -/
  key : Bool := false
  /-- What it holds when nothing else is given. -/
  fallback : Option String := none

namespace Column

/-- The column as it is declared. -/
def declaration (c : Column) : String :=
  quoted c.name ++ " " ++ c.type.text ++ (if c.optional then " NULL" else " NOT NULL")
    ++ (match c.fallback with
      | none => ""
      | some value => " DEFAULT " ++ value)
    ++ (if c.key then " PRIMARY KEY" else "")

end Column

/-- A column whose values name rows of another table; rows go with the row they name. -/
structure Reference where
  name : String
  column : String
  table : String
  target : String

/-- A description of a table. -/
structure TableSchema where
  name : String
  columns : List Column
  reference : Option Reference := none

namespace TableSchema

/-- The name of a column with that of its table. -/
def full (t : TableSchema) (column : String) : String := quoted t.name ++ "." ++ quoted column

/-- The name of the column that names the row. -/
def key (t : TableSchema) : String := ((t.columns.find? (·.key)).map (·.name)).getD ""

/-- The statement that creates the table unless it is there. -/
def creation (t : TableSchema) : Statement :=
  let constraint := t.reference.toList.map fun r =>
    "CONSTRAINT " ++ quoted r.name ++ " FOREIGN KEY (" ++ quoted r.column ++ ") REFERENCES "
      ++ quoted r.table ++ " (" ++ quoted r.target ++ ") ON DELETE CASCADE"
  { text := "CREATE TABLE IF NOT EXISTS " ++ quoted t.name ++ " ( "
      ++ listed (t.columns.map Column.declaration ++ constraint) ++ " )" }

/-- The statement that drops the table. -/
def removal (t : TableSchema) : Statement := { text := "DROP TABLE " ++ quoted t.name }

/-- The statement that creates an index unless it is there. -/
def index (t : TableSchema) (name : String) (columns : List String) : Statement :=
  { text := "CREATE INDEX IF NOT EXISTS " ++ quoted name ++ " ON " ++ quoted t.name ++ " ("
      ++ listed (columns.map quoted) ++ ")" }

/-- What a row replaces of the row that has its key: the columns named. -/
def replacement (t : TableSchema) (columns : List String) : String :=
  " ON CONFLICT (" ++ quoted t.key ++ ") DO UPDATE SET "
    ++ listed (columns.map fun c => quoted c ++ " = " ++ quoted "excluded" ++ "." ++ quoted c)

/-- The statement that inserts a row; of a row with its key, only some columns are replaced. -/
def insertion (t : TableSchema) (row : List Param) (replaced : List String := []) : Statement where
  text := "INSERT INTO " ++ quoted t.name ++ " (" ++ listed (t.columns.map fun c => quoted c.name)
    ++ ") VALUES (" ++ listed (places t.columns.length) ++ ")"
    ++ (if replaced.isEmpty then "" else t.replacement replaced)
    ++ " RETURNING " ++ quoted t.key
  params := row

/-- The statement that deletes the row with a key. -/
def deletion (t : TableSchema) (key : Param) : Statement where
  text := "DELETE FROM " ++ quoted t.name ++ " WHERE " ++ t.full t.key ++ " = " ++ place 1
  params := [key]

/-- The columns of a table, each under a name of its own. -/
def aliased (t : TableSchema) (letter : String) : List String :=
  t.columns.map fun c => t.full c.name ++ " AS " ++ quoted (letter ++ "_" ++ c.name)

/-- The statement that reads the rows of a table, each beside those of another table that agree
with it in a column. -/
def joined (t : TableSchema) (column : String) (other : TableSchema) (otherColumn : String) :
    Statement :=
  { text := "SELECT " ++ listed (t.aliased "A" ++ other.aliased "B") ++ " FROM " ++ quoted t.name
      ++ " LEFT JOIN " ++ quoted other.name ++ " ON " ++ t.full column ++ " = "
      ++ other.full otherColumn }

end TableSchema

/-! ### Reading -/

/-- Which rows of a table are read, and how. -/
structure Selection where
  table : TableSchema
  /-- Columns with values: rows that have one of them are read; all rows when there are none. -/
  having : List (String × Param) := []
  /-- The oldest rows come first. -/
  oldestFirst : Bool := false
  /-- Only one row is read. -/
  one : Bool := false
  /-- The rows are locked until the transaction ends. -/
  locked : Bool := false

namespace Selection

/-- The condition on rows. -/
def condition (s : Selection) : String :=
  if s.having.isEmpty then ""
  else " WHERE " ++ Text.joined " OR " (s.having.zipIdx.map fun ((column, _), i) =>
    s.table.full column ++ " = " ++ place (i + 1))

/-- The statement that reads the rows. -/
def statement (s : Selection) : Statement where
  text := "SELECT " ++ listed (s.table.columns.map fun c => s.table.full c.name)
    ++ " FROM " ++ quoted s.table.name ++ s.condition
    ++ (if s.oldestFirst then " ORDER BY " ++ s.table.full "created_at" ++ " ASC" else "")
    ++ (if s.one then " LIMIT " ++ place (s.having.length + 1) else "")
    ++ (if s.locked then " FOR UPDATE" else "")
  params := s.having.map (·.2) ++ if s.one then [.whole 1] else []

end Selection

/-! ### The tables of the fleet -/

namespace Schema

/-- The moment of the statement that writes the row. -/
def atWriting : Option String := some "CURRENT_TIMESTAMP"

def owners : TableSchema where
  name := "owners"
  columns := [
    { name := "id", type := .name, key := true },
    { name := "external_identity", type := .name, optional := true },
    { name := "credits", type := .bigInteger, fallback := some "0" },
    { name := "created_at", type := .moment, fallback := atWriting },
    { name := "updated_at", type := .moment, fallback := atWriting }]

def instances : TableSchema where
  name := "instances"
  columns := [
    { name := "id", type := .uuid, key := true },
    { name := "owner_id", type := .name },
    { name := "status", type := .name },
    { name := "region", type := .name },
    { name := "variant", type := .name },
    { name := "guild_id", type := .name, optional := true },
    { name := "game_host", type := .name, optional := true },
    { name := "game_port", type := .integer, optional := true },
    { name := "tv_host", type := .name, optional := true },
    { name := "tv_port", type := .integer, optional := true },
    { name := "rcon_host", type := .name, optional := true },
    { name := "rcon_port", type := .integer, optional := true },
    { name := "server_password", type := .name, optional := true },
    { name := "rcon_password", type := .name, optional := true },
    { name := "tv_password", type := .name, optional := true },
    { name := "created_at", type := .moment, fallback := atWriting },
    { name := "updated_at", type := .moment, fallback := atWriting }]

/-- The columns of an instance that change when it is written again. -/
def instanceReplaced : List String :=
  ["status", "game_host", "game_port", "tv_host", "tv_port", "rcon_host", "rcon_port",
    "server_password", "rcon_password", "tv_password", "updated_at"]

/-- An owner has at most one instance that is pending or ready. -/
def oneActivePerOwner : Statement :=
  { text := "CREATE UNIQUE INDEX IF NOT EXISTS idx_instances_one_active_per_owner "
      ++ "ON instances (owner_id) WHERE status IN ('pending', 'ready')" }

def activities : TableSchema where
  name := "instance_activity"
  columns := [
    { name := "instance_id", type := .uuid, key := true },
    { name := "empty_since", type := .moment, optional := true },
    { name := "last_checked_at", type := .moment }]
  reference := some ⟨"fk_instance_activity_instance", "instance_id", "instances", "id"⟩

/-- The columns of an activity row that change when it is written again. -/
def activityReplaced : List String := ["empty_since", "last_checked_at"]

def events : TableSchema where
  name := "fleet_events"
  columns := [
    { name := "id", type := .uuid, key := true },
    { name := "actor_id", type := .name },
    { name := "message", type := .prose },
    { name := "created_at", type := .moment, fallback := atWriting }]

def guilds : TableSchema where
  name := "guild_parameters"
  columns := [
    { name := "guild_id", type := .name, key := true },
    { name := "overrides", type := .json, fallback := some "'\x7b\x7d'::jsonb" },
    { name := "updated_at", type := .moment, fallback := atWriting }]

def bans : TableSchema where
  name := "owner_bans"
  columns := [
    { name := "external_identity", type := .name, key := true },
    { name := "owner_id", type := .name, optional := true },
    { name := "reason", type := .prose, optional := true },
    { name := "created_at", type := .moment, fallback := atWriting }]

/-- Instances, each beside its activity row. -/
def instancesWithActivity : Statement := instances.joined "id" activities "instance_id"

/-- Activity rows, each beside its instance. -/
def activitiesWithInstance : Statement := activities.joined "instance_id" instances "id"

end Schema

end GameFleet.Store
