import GameFleet.Json.Value
import GameFleet.Text.Lines
import GameFleet.Time.Rfc3339
import GameFleet.Uuid

/-!
# Statements

- `Store.Param`: a value that is sent beside a statement.
- `Store.Statement`: a statement with numbered places for its parameters.
- `Store.quoted`, `Store.listed`: names as they stand in statements.
-/

namespace GameFleet.Store

/-- A value that is sent beside a statement. -/
inductive Param where
  | null
  | text (s : String)
  | whole (i : Int)
  | uuid (u : Uuid)
  | moment (t : Timestamp)
  deriving DecidableEq, Inhabited

namespace Param

/-- A text that may be absent. -/
def text? : Option String → Param
  | none => null
  | some s => text s

/-- A number that may be absent. -/
def whole? : Option Int → Param
  | none => null
  | some i => whole i

/-- A moment that may be absent. -/
def moment? : Option Timestamp → Param
  | none => null
  | some t => moment t

/-- A parameter as it is shown. Moments are written with their offset. -/
def toJson : Param → Json.Value
  | null => .null
  | text s => .string s
  | whole i => .int i
  | uuid u => .string u.text
  | moment t => .string t.offsetText

end Param

/-- A statement and its parameters. -/
structure Statement where
  text : String
  params : List Param := []
  deriving DecidableEq, Inhabited

namespace Statement

def begin : Statement := { text := "BEGIN" }

def commit : Statement := { text := "COMMIT" }

def rollback : Statement := { text := "ROLLBACK" }

end Statement

/-- A name in quotation marks. -/
def quoted (name : String) : String := "\"" ++ name ++ "\""

/-- Pieces with commas between. -/
def listed (pieces : List String) : String := Text.joined ", " pieces

/-- The place of the parameter with a number, from 1. -/
def place (n : Nat) : String := "$" ++ Text.natText n

/-- The places of the first parameters. -/
def places (count : Nat) : List String := (List.range count).map fun i => place (i + 1)

end GameFleet.Store
