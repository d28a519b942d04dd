import GameFleet.Store.Failure
import GameFleet.Text.Lines

/-!
# Failures (specification §7)

- `Failure`: why an operation of the fleet failed, a `FleetError`.
- `Failure.message`: its text for those who run the fleet.
- `Failure.publicMessage`: its text for whoever asked. Only what was written for them is told;
  failures inside the fleet all read the same.
-/

namespace GameFleet

/-- Why an operation of the fleet failed. -/
inductive Failure where
  /-- The request cannot be met; the message is written for whoever asked. -/
  | user (message : String)
  /-- There is no room for another instance; the message is written for whoever asked. -/
  | noCapacity (message : String)
  /-- The program is being stopped. -/
  | shuttingDown
  /-- Steps of a reclamation cycle failed. -/
  | reclamation (policy : String) (failures : List String)
  /-- The database failed. -/
  | store (e : Store.Failure)
  /-- Anything else failed; the message says what was being done. -/
  | internal (message : String)
  deriving DecidableEq, Repr, Inhabited

namespace Failure

/-- The name of a kind of failure. -/
def label : Failure → String
  | user _ => "user"
  | noCapacity _ => "insufficient_capacity"
  | shuttingDown => "shutdown_in_progress"
  | reclamation .. => "reclamation"
  | store _ => "store"
  | internal _ => "internal"

/-- The text of a failure for those who run the fleet. -/
def message : Failure → String
  | user m => m
  | noCapacity m => m
  | shuttingDown => "cannot run action, the application is already shutting down"
  | reclamation policy failures =>
    policy ++ ": " ++ Text.natText failures.length ++ " instance operation(s) failed: "
      ++ Text.joined "; " failures
  | store e => "store error: " ++ e.message
  | internal m => m

/-- What is told of a failure inside the fleet. -/
def genericMessage : String :=
  "Something went wrong while handling your request. Please try again later."

/-- What is told while the program is being stopped. -/
def shutdownMessage : String :=
  "The service is restarting and cannot take new requests right now. Please try again shortly."

/-- The text of a failure for whoever asked. -/
def publicMessage : Failure → String
  | user m => m
  | noCapacity m => m
  | shuttingDown => shutdownMessage
  | _ => genericMessage

/-- Whether the same request may succeed later. -/
def isTransient : Failure → Bool
  | shuttingDown => true
  | noCapacity _ => true
  | store _ => true
  | _ => false

/-- The status a request is answered with. -/
def httpStatus : Failure → Nat
  | user _ => 409
  | noCapacity _ => 503
  | shuttingDown => 503
  | _ => 500

end Failure

/-- What a fallible step gives. -/
abbrev Outcome (α : Type) := Except Failure α

end GameFleet
