import GameFleet.Reclaim.Cycle
import GameFleet.Termination

/-!
# Reclaiming instances of owners without credits (specification §4.4)

This is the `CreditExhaustionReaper`. The balance of each owner is read once in a cycle. Players are
warned while it is low; instances of owners without credits are removed, and the owners told.
Pending instances are left alone.

- `Credit.balanceOf`: an owner's balance, read at most once.
- `Credit.warn`, `Credit.evict`: the steps for an instance.
- `Credit.survey`: the survey. The steps that warn come before those that remove.
-/

namespace GameFleet.Credit

def warning (balance : Int) : String :=
  "You have only " ++ Text.intText balance
    ++ " credits left. The server will be terminated if you run out of credits."

def lastNotice : String := "Your server is being terminated due to lack of credits."

def reason : String := "owner ran out of credits"

def notice (id : InstanceId) : String :=
  "Your server " ++ id.text ++ " has been terminated because you ran out of credits."

/-- Warns the players of an instance. -/
def warn (s : FleetSettings) (i : Instance) (balance : Int) : Op Unit :=
  Op.say i (warning balance) s.probeTimeout

/-- Tells the players of an instance, as far as possible, removes it, and tells its owner. -/
def evict (s : FleetSettings) (i : Instance) : Op Unit := do
  Op.bestEffort (Op.say i lastNotice s.probeTimeout)
  if ← Termination.remove i.id reason then Op.tell i.owner (notice i.id)

/-- Balances that were read. -/
abbrev Balances := List (OwnerId × Int)

/-- An owner's balance and the balances read so far, or the failure to read it. -/
def balanceOf (known : Balances) (owner : OwnerId) : Op (Except Failure Int × Balances) :=
  match known.lookup owner with
  | some balance => return (.ok balance, known)
  | none => do
    match ← Op.attempt (Op.call (.balance owner)) with
    | .ok balance => return (.ok balance, (owner, balance) :: known)
    | .error f => return (.error f, known)

/-- What the survey has found: failures, instances to warn of with the balance, and instances to
remove. -/
structure Found where
  failures : List String := []
  warned : List (Instance × Int) := []
  evicted : List Instance := []

/-- Judges instances one after another. -/
def judge (s : FleetSettings) (known : Balances) : List Instance → Op Found
  | [] => return {}
  | i :: rest => do
    let (balance, known) ← balanceOf known i.owner
    let found ← judge s known rest
    match balance with
    | .error f =>
      return { found with failures := stepFailure i.id "read balance" f :: found.failures }
    | .ok balance =>
      match Verdict.credit balance s.lowBalance with
      | .evict => return { found with evicted := i :: found.evicted }
      | .warn => return { found with warned := (i, balance) :: found.warned }
      | .keep => return found

/-- The survey of a cycle. -/
def survey (s : FleetSettings) : Op Batch := do
  let rows : List Instance ← Op.call (.listInstances (some .ready))
  let found ← judge s [] rows
  return ⟨.credit, found.failures,
    found.warned.map (fun (i, balance) => .of i "warn" (warn s i balance))
      ++ found.evicted.map fun i => .of i "terminate" (evict s i)⟩

end GameFleet.Credit
