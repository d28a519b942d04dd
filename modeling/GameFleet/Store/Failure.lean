import GameFleet.Text.Numeral

/-!
# Failures of the database

- `Store.Failure`: why a database call failed.
- `Store.Failure.message`: its text.
-/

namespace GameFleet.Store

/-- What a statement was sent for. -/
inductive Purpose where
  /-- To get rows, or to open or close a transaction. -/
  | query
  /-- To change something. -/
  | execution
  deriving DecidableEq, Repr, Inhabited

/-- An error that the database answers with: its class and its text. -/
structure Rejection where
  code : String
  message : String
  deriving DecidableEq, Repr, Inhabited

/-- Why a database call failed. -/
inductive Failure where
  /-- The message says it all. -/
  | custom (message : String)
  /-- The database refused a statement. -/
  | rejected (purpose : Purpose) (reason : Rejection)
  /-- A statement could not be answered. -/
  | unanswered (purpose : Purpose) (message : String)
  /-- There is no connection. -/
  | connection (message : String)
  /-- A row was to be inserted and was not. -/
  | notInserted
  deriving DecidableEq, Repr, Inhabited

namespace Purpose

def title : Purpose → String
  | query => "Query Error: "
  | execution => "Execution Error: "

end Purpose

namespace Failure

/-- The class of error for a row that is there already. -/
def uniqueViolation : String := "23505"

/-- The class of error for a reference to a row that is not there. -/
def foreignKeyViolation : String := "23503"

def message : Failure → String
  | custom m => "Custom Error: " ++ m
  | rejected p r => p.title ++ "error returned from database: " ++ r.message
  | unanswered p m => p.title ++ m
  | connection m => "Connection Error: " ++ m
  | notInserted => "None of the records are inserted"

/-- Whether the database refused with an error of a class. -/
def hasCode (code : String) : Failure → Bool
  | rejected _ r => r.code == code
  | _ => false

end Failure

end GameFleet.Store
