import GameFleet.Control.State
import GameFleet.Simulation.Rows

/-!
# The registry

What the collaborators keep of the fleet, whatever else they do: the rows, at most one open
transaction on them, and the identifiers that were given. Every call may wait for its answer, fail,
or succeed, and nothing is said about when it does which; what a call finds out that the rows do not
decide is anything at all.

- `Registry`: the rows, the open transaction, and a ledger of the calls that were answered.
- `Circumstances`: what befalls the calls of one step.
- `Registry.serve`: a call under some circumstances. A transaction waits until no other is open, and
  is rolled back when its commit fails. Where rows are locked, the removal of a row waits for a
  transaction that has locked it.
- `Registry.surroundings`: the surroundings that the registry makes for the program.
- `Registry.Answers`: what comes of a call, under any circumstances.
-/

namespace GameFleet

/-- A call that was answered. -/
structure Entry where
  thread : Nat
  call : Call
  outcome : Outcome call.Result
  /-- The rows when it was answered. -/
  before : List Instance
  /-- The rows afterwards. -/
  after : List Instance

/-- Whether the call did not fail. -/
def Entry.isOk (e : Entry) : Bool :=
  match e.outcome with
  | .ok _ => true
  | .error _ => false

/-- An open transaction. -/
structure Transaction where
  thread : Nat
  /-- The rows when it was opened. -/
  opened : List Instance
  /-- The rows that it wrote. -/
  written : List Instance := []
  /-- The instances whose rows it locked. -/
  locked : List InstanceId := []

/-- What the collaborators keep of the fleet. -/
structure Registry where
  rows : List Instance := []
  transaction : Option Transaction := none
  /-- The identifiers that were given. -/
  given : List Uuid := []
  /-- The calls that were answered, the last first. -/
  ledger : List Entry := []

/-- What befalls a call. -/
inductive Fate (α : Type) where
  /-- It is not answered yet. -/
  | waits
  /-- It fails; whether it took effect nevertheless. -/
  | fails (f : Failure) (taken : Bool)
  /-- It succeeds; with what, where the rows do not say. -/
  | succeeds (a : α)

/-- What befalls the calls of one step, and what else the step finds. -/
structure Circumstances where
  start : Timestamp
  settings : FleetSettings
  tick : Nat
  fate : (c : Call) → Fate c.Result
  /-- The identifier that is given next. -/
  id : Uuid

namespace Registry

/-- The open transaction of a thread. -/
def own? (b : Registry) (tid : Nat) : Option Transaction :=
  b.transaction.filter (·.thread = tid)

/-- The rows as a thread sees them in its transaction. -/
def view (b : Registry) (tid : Nat) : List Instance :=
  Rows.overlaid Instance.id b.rows (((b.own? tid).map Transaction.written).getD [])

/-- The rows of an owner, the oldest first. -/
def owned (owner : OwnerId) (rows : List Instance) : List Instance :=
  Rows.oldestFirst (rows.filter (·.owner = owner))

/-- What a call finds in the rows, if it looks at them. -/
def read (b : Registry) (tid : Nat) : (c : Call) → Option c.Result
  | .lockInstance id => some (Rows.find? Instance.id id (b.view tid))
  | .ownersInTransaction owner => some (owned owner (b.view tid))
  | .findInstance id => some (Rows.find? Instance.id id b.rows)
  | .listInstances status =>
    some (Rows.oldestFirst (b.rows.filter fun i => (status.map (· == i.status)).getD true))
  | .ownersInstances owner => some (owned owner b.rows)
  | _ => none

/-- The registry with the open transaction of a thread changed. -/
def change (b : Registry) (tid : Nat) (f : Transaction → Transaction) : Registry :=
  match b.own? tid with
  | none => b
  | some t => { b with transaction := some (f t) }

/-- A thread leaves its transaction, and what it wrote is lost. -/
def abandon (b : Registry) (tid : Nat) : Registry :=
  match b.own? tid with
  | none => b
  | some _ => { b with transaction := none }

/-- What a thread wrote in its transaction stands. -/
def commit (b : Registry) (tid : Nat) : Registry :=
  match b.own? tid with
  | none => b
  | some t =>
    { b with rows := Rows.overlaid Instance.id b.rows t.written, transaction := none }

/-- The registry once a call took effect. -/
def take (b : Registry) (tid : Nat) : Call → Registry
  | .begin => { b with transaction := some { thread := tid, opened := b.rows } }
  | .lockInstance id =>
    if (Rows.find? Instance.id id b.rows).isSome then
      b.change tid fun t => { t with locked := id :: t.locked }
    else b
  | .write row => b.change tid fun t => { t with written := t.written ++ [row] }
  | .commit => b.commit tid
  | .removeInstance id => { b with rows := Rows.drop Instance.id id b.rows }
  | _ => b

/-- Whether a call has to wait for an open transaction. -/
def defers (locking : Bool) (b : Registry) : Call → Bool
  | .begin => b.transaction.isSome
  | .removeInstance id => locking && (b.transaction.any fun t => t.locked.contains id)
  | _ => false

/-- The registry once a call failed. A removal may have been done nevertheless. -/
def fail (locking : Bool) (b : Registry) (tid : Nat) (taken : Bool) : Call → Registry
  | .commit => b.abandon tid
  | .removeInstance id =>
    if taken && !b.defers locking (.removeInstance id) then b.take tid (.removeInstance id) else b
  | _ => b

/-- A call of a thread goes into the ledger. -/
def enter (b : Registry) (tid : Nat) (c : Call) (o : Outcome c.Result) (before : List Instance) :
    Registry :=
  { b with ledger := ⟨tid, c, o, before, b.rows⟩ :: b.ledger }

/-- A call of a thread under some circumstances. -/
def serve (locking : Bool) (κ : Circumstances) (b : Registry) (tid : Nat) (c : Call) :
    Served (Outcome c.Result) Registry :=
  match κ.fate c with
  | .waits => .waiting b
  | .fails f taken =>
    .answered (.error f) ((b.fail locking tid taken c).enter tid c (.error f) b.rows)
  | .succeeds a =>
    if b.defers locking c then .waiting b
    else
      let o : Outcome c.Result := .ok ((b.read tid c).getD a)
      .answered o ((b.take tid c).enter tid c o b.rows)

/-- An identifier is given. -/
def give (b : Registry) (id : Uuid) : Registry := { b with given := id :: b.given }

/-- The surroundings that the registry makes for the program, under some circumstances. -/
def surroundings (locking : Bool) (κ : Circumstances) : Surroundings Registry where
  start := κ.start
  settings := κ.settings
  tick := κ.tick
  serve b tid _ c := b.serve locking κ tid c
  fresh b := (κ.id, b.give κ.id)
  abandon := abandon
  wakes _ _ := none

/-! ### What calls do -/

/-- A call of a thread may be answered so, and lead to this. -/
def Answers (locking : Bool) (b : Registry) (tid : Nat) (c : Call) (o : Outcome c.Result)
    (b' : Registry) : Prop :=
  ∃ κ, b.serve locking κ tid c = .answered o b'

variable {locking : Bool} {b b' : Registry} {tid : Nat} {c : Call} {o : Outcome c.Result}

/-- A call is answered, or it waits and changes nothing. -/
theorem serve_cases (locking : Bool) (κ : Circumstances) (b : Registry) (tid : Nat) (c : Call) :
    (∃ o b', b.serve locking κ tid c = .answered o b') ∨ b.serve locking κ tid c = .waiting b := by
  unfold serve
  split
  · exact .inr rfl
  · exact .inl ⟨_, _, rfl⟩
  · split
    · exact .inr rfl
    · exact .inl ⟨_, _, rfl⟩

/-- A call fails, or it takes effect. -/
theorem Answers.cases (h : b.Answers locking tid c o b') :
    (∃ f taken, o = .error f ∧ b' = (b.fail locking tid taken c).enter tid c o b.rows) ∨
    (∃ a, o = .ok ((b.read tid c).getD a) ∧ b.defers locking c = false ∧
      b' = (b.take tid c).enter tid c o b.rows) := by
  obtain ⟨κ, h⟩ := h
  unfold serve at h
  split at h
  · cases h
  · rename_i f taken _
    cases h
    exact .inl ⟨f, taken, rfl, rfl⟩
  · rename_i a _
    split at h
    · cases h
    · rename_i hd
      cases h
      exact .inr ⟨a, rfl, by simpa using hd, rfl⟩

end Registry

end GameFleet
