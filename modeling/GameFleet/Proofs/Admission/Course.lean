import GameFleet.Admission
import GameFleet.Proofs.Work.Trace
import GameFleet.Proofs.Registry.Effect

/-!
# The course of an admission

An admission makes its calls in a fixed order, and the first that fails or is answered so that the
owner cannot be admitted ends it. What it leaves in the fleet's rows is decided by the transactions
that were committed before that.

- `Called.refusal?`: the failure that a call ends an admission with, if it does.
- `Registry.upon`: the registry after the calls of one operation.
- `Admission.Course`: what an admission is told and makes of it; `Course.reserving` and
  `Course.deploying`: the calls that it makes.
- `Admission.Part`: what a part of an admission asked and was told, against the plan; `Part.append`,
  `Part.cutShort`: one part after another. What the parts are told is read off their programs by
  the rules for what a program gives.
-/

namespace GameFleet

/-- Whether a call may change the rows by itself. -/
def Called.Stores : Called → Prop
  | ⟨.commit, .ok _⟩ => True
  | ⟨.removeInstance _, _⟩ => True
  | _ => False

/-- The failure that a call ends an admission with, if it does. Logging ends nothing. -/
def Called.refusal? : Called → Option Failure
  | ⟨.log _, _⟩ => none
  | ⟨.identity _, .ok none⟩ => some (.user Admission.missingIdentity)
  | ⟨.ban _ _, .ok (some b)⟩ => some (.user (Admission.banned b))
  | ⟨.balance _, .ok (n : Int)⟩ =>
    if n ≤ 0 then some (.user Admission.insufficientCredits) else none
  | ⟨.ownersInTransaction _, .ok (rows : List Instance)⟩ =>
    if rows.any Instance.isActive then some (.user Admission.alreadyRunning) else none
  | ⟨.lockInstance _, .ok none⟩ => some (.user Admission.reclaimedDuringDeploy)
  | ⟨_, .error f⟩ => some f
  | ⟨_, .ok _⟩ => none

namespace Registry

/-- The registry after an answer to one thread. A removal that fails may have been done. -/
def told (b : Registry) (tid : Nat) : Program.Reply Request Request.Answer → Registry
  | ⟨.call c, .ok _⟩ => b.take tid c
  | ⟨.call c, .error _⟩ => b.fail false tid true c
  | ⟨.abandon, _⟩ => b.abandon tid
  | _ => b

/-- The registry after all that a thread was told. -/
def upon (b : Registry) (tid : Nat) (t : Trace) : Registry := t.foldl (fun b e => b.told tid e) b

theorem upon_append (b : Registry) (tid : Nat) (t t' : Trace) :
    b.upon tid (t ++ t') = (b.upon tid t).upon tid t' := List.foldl_append

theorem rows_told (b : Registry) (tid : Nat) {c : Call} {o : Outcome c.Result}
    (h : ¬Called.Stores ⟨c, o⟩) : (b.told tid ⟨.call c, o⟩).rows = b.rows := by
  cases o with
  | ok x =>
    obtain hrows | ⟨_, rfl, -⟩ | ⟨id, rfl, -⟩ := b.rows_take_cases tid c
    · exact hrows
    · exact absurd trivial h
    · exact absurd trivial h
  | error f =>
    cases c with
    | commit => exact abandon_eq.1
    | removeInstance id => exact absurd trivial h
    | _ => rfl

/-- Calls that do not change the rows leave them, however a thread goes on between them. -/
theorem rows_upon (b : Registry) (tid : Nat) {t : Trace} (h : ∀ e ∈ t.calls, ¬e.Stores) :
    (b.upon tid t).rows = b.rows := by
  induction t generalizing b with
  | nil => rfl
  | cons e t ih =>
    obtain ⟨q, a⟩ := e
    show ((b.told tid ⟨q, a⟩).upon tid t).rows = b.rows
    cases q with
    | call c =>
      rw [ih _ fun e he => h e (List.mem_cons_of_mem _ he)]
      exact rows_told b tid (h ⟨c, a⟩ List.mem_cons_self)
    | abandon =>
      rw [ih _ h]
      exact abandon_eq.1
    | _ => exact ih b h

end Registry

namespace Admission

/-- What an admission is told, and when it looks at the time. -/
structure Course where
  identity : String
  refusedAt : Timestamp
  id : Uuid
  createdAt : Timestamp
  overrides : List (String × String)
  deployment : Deployment
  loggedAt : Timestamp
  deriving Inhabited

namespace Course

variable (r : AdmissionRequest) (d : Course)

/-- The row that is reserved. -/
def pending : Instance :=
  .pending ⟨d.id⟩ r.owner r.region r.variant r.guild d.createdAt

/-- The row that replaces it. -/
def ready : Instance := (d.pending r).promoted d.deployment

/-- The course says what was answered. -/
def Agrees : Program.Reply Request Request.Answer → Prop
  | ⟨.freshId, id⟩ => d.id = id
  | ⟨.call (.identity _), .ok (some name)⟩ => d.identity = name
  | ⟨.call (.overrides _), .ok answer⟩ => d.overrides = answer
  | ⟨.call (.deploy _), .ok answer⟩ => d.deployment = answer
  | _ => True

/-- What is deployed. -/
def order : DeployOrder where
  id := ⟨d.id⟩
  region := r.region
  variant := r.variant
  owner := r.owner
  identity := d.identity
  guild := r.guild
  overrides := r.guild.elim [] fun _ => d.overrides

/-- The calls of the gates. -/
def passing (billing : Bool) : List Call :=
  [.identity r.owner, .ban r.owner d.identity] ++ if billing then [.balance r.owner] else []

/-- The calls of the transaction that reserves a place. -/
def placing : List Call :=
  [.begin, .ownersInTransaction r.owner, .write (d.pending r), .commit]

/-- The calls up to the reservation. -/
def reserving (billing : Bool) : List Call := d.passing r billing ++ d.placing r

/-- The calls for what is deployed, and of the deployment. -/
def supplying : List Call := (r.guild.map Call.overrides).toList ++ [.deploy (d.order r)]

/-- The calls of the transaction that replaces the row. -/
def promoting : List Call := [.begin, .lockInstance ⟨d.id⟩, .write (d.ready r), .commit]

/-- What is logged of an admission. -/
def event : Event := ⟨createdMessage (d.ready r), r.owner.text, d.loggedAt⟩

/-- The calls after the reservation. -/
def deploying : List Call := d.supplying r ++ (d.promoting r ++ [.log (d.event r)])

end Course

variable {α β : Type} {r : AdmissionRequest} {d : Course} {tid : Nat} {plan plan' : List Call}
  {written : List Instance} {a : α} {b : β} {t t' : Trace} {v : Outcome α} {f : Failure}
  {cs : List Called}

/-- The calls go as planned, and none of them refuses. -/
structure Passed (plan : List Call) (cs : List Called) : Prop where
  calls : cs.map Called.call = plan
  refusal : ∀ e ∈ cs, e.refusal? = none

/-- The calls that an admission makes once a call has refused: an owner without credits is logged,
and what was deployed for a row that has gone is destroyed. -/
def aftermath (r : AdmissionRequest) (d : Course) : Called → List Call
  | ⟨.balance _, .ok _⟩ =>
    [.log ⟨"Owner tried to create a server but has no credits.", r.owner.text, d.refusedAt⟩]
  | ⟨.lockInstance _, .ok _⟩ => [.destroy ⟨d.id⟩ r.region]
  | _ => []

/-- The calls go as planned up to one that refuses. -/
inductive Refused (r : AdmissionRequest) (d : Course) (plan : List Call) (f : Failure)
    (cs : List Called) : Prop where
  | intro (passed : List Called) (stop : Called) (later : List Call) (extra : List Called)
    (hplan : plan = passed.map Called.call ++ stop.call :: later)
    (hpassed : ∀ e ∈ passed, e.refusal? = none) (hstop : stop.refusal? = some f)
    (hextra : extra.map Called.call = aftermath r d stop) (hcs : cs = passed ++ stop :: extra)

theorem Passed.append {cs' : List Called} (h : Passed plan cs) (h' : Passed plan' cs') :
    Passed (plan ++ plan') (cs ++ cs') where
  calls := by rw [List.map_append, h.calls, h'.calls]
  refusal e he := (List.mem_append.mp he).elim (h.refusal e) (h'.refusal e)

theorem Refused.later (h : Refused r d plan f cs) (plan' : List Call) :
    Refused r d (plan ++ plan') f cs := by
  obtain ⟨passed, stop, later, extra, rfl, hpassed, hstop, hextra, hcs⟩ := h
  exact ⟨passed, stop, later ++ plan', extra, by simp, hpassed, hstop, hextra, hcs⟩

theorem Refused.earlier {cs' : List Called} (h : Passed plan cs) (h' : Refused r d plan' f cs') :
    Refused r d (plan ++ plan') f (cs ++ cs') := by
  obtain ⟨passed, stop, later, extra, rfl, hpassed, hstop, hextra, rfl⟩ := h'
  refine ⟨cs ++ passed, stop, later, extra, ?_, fun e he => ?_, hstop, hextra, ?_⟩
  · rw [List.map_append, h.calls, List.append_assoc]
  · exact (List.mem_append.mp he).elim (h.refusal e) (hpassed e)
  · rw [List.append_assoc]

/-- Every call is a planned one, or follows the one that refuses. -/
theorem Refused.call_cases (h : Refused r d plan f cs) {e : Called} (he : e ∈ cs) :
    e.call ∈ plan ∨ ∃ stop, e.call ∈ aftermath r d stop := by
  obtain ⟨passed, stop, later, extra, rfl, -, -, hextra, rfl⟩ := h
  obtain he | he := List.mem_append.mp he
  · exact .inl (List.mem_append_left _ (List.mem_map_of_mem he))
  · obtain rfl | he := List.mem_cons.mp he
    · exact .inl (List.mem_append_right _ List.mem_cons_self)
    · exact .inr ⟨stop, hextra ▸ List.mem_map_of_mem he⟩

/-- Some call refuses. -/
theorem Refused.exists_refusal (h : Refused r d plan f cs) : ∃ e ∈ cs, e.refusal? = some f := by
  obtain ⟨passed, stop, later, extra, -, -, hstop, -, rfl⟩ := h
  exact ⟨stop, List.mem_append_right _ List.mem_cons_self, hstop⟩

/-- Nothing is deployed once a call refused. -/
theorem deploy_not_mem_aftermath (r : AdmissionRequest) (d : Course) (stop : Called)
    (order : DeployOrder) : Call.deploy order ∉ aftermath r d stop := by
  unfold aftermath
  split <;> simp

/-- Nothing is deployed before the reservation. -/
theorem Course.deploy_not_mem_reserving (r : AdmissionRequest) (d : Course) (billing : Bool)
    (order : DeployOrder) : Call.deploy order ∉ d.reserving r billing := by
  cases billing <;> simp [reserving, passing, placing]

/-- How a part of an admission goes. When it passes, the rows that it wrote stand; when it is
refused, the rows are as they were. -/
inductive Part (r : AdmissionRequest) (d : Course) (tid : Nat) (plan : List Call)
    (written : List Instance) (a : α) (t : Trace) : Outcome α → Prop where
  | passes (h : Passed plan t.calls)
    (hrows : ∀ b : Registry, (b.upon tid t).rows = Rows.overlaid Instance.id b.rows written)
    (hagrees : ∀ e ∈ t, d.Agrees e) : Part r d tid plan written a t (.ok a)
  | refuses {f : Failure} (h : Refused r d plan f t.calls)
    (hrows : ∀ b : Registry, (b.upon tid t).rows = b.rows) (hagrees : ∀ e ∈ t, d.Agrees e) :
    Part r d tid plan written a t (.error f)

namespace Part

theorem eq_of_ok {a' : α} (h : Part r d tid plan written a t (.ok a')) : a' = a := by
  cases h
  rfl

/-- What a part gives does not matter to how it goes. -/
theorem replace_value (h : Part r d tid plan written a t (.ok a)) (b : β) :
    Part r d tid plan written b t (.ok b) := by
  cases h with
  | passes h hrows hagrees => exact .passes h hrows hagrees

theorem agrees (h : Part r d tid plan written a t v) : ∀ e ∈ t, d.Agrees e := by
  cases h <;> assumption

/-- One part's questions after another's. -/
theorem append {v : Outcome β} (h : Part r d tid plan [] a t (.ok a))
    (h' : Part r d tid plan' written b t' v) :
    Part r d tid (plan ++ plan') written b (t ++ t') v := by
  cases h with
  | passes h hrows hagrees =>
    have hsame : ∀ b : Registry, (b.upon tid t).rows = b.rows := hrows
    have hall : ∀ e ∈ t ++ t', d.Agrees e := fun e he =>
      (List.mem_append.mp he).elim (hagrees e) (h'.agrees e)
    cases h' with
    | passes h' hrows' =>
      refine .passes (by rw [Trace.calls_append]; exact h.append h') (fun b => ?_) hall
      rw [Registry.upon_append, hrows', hsame]
    | refuses h' hrows' =>
      refine .refuses (by rw [Trace.calls_append]; exact .earlier h h') (fun b => ?_) hall
      rw [Registry.upon_append, hrows', hsame]

/-- The first part is refused, and the second is not begun. -/
theorem cutShort {written' : List Instance} (h : Part r d tid plan written a t (.error f)) :
    Part r d tid (plan ++ plan') written' b t (.error f) := by
  cases h with
  | refuses h hrows hagrees => exact .refuses (h.later plan') hrows hagrees

/-- Nothing is called. -/
theorem nil (a : α) : Part r d tid [] [] a [] (.ok a) :=
  .passes ⟨rfl, List.forall_mem_nil _⟩ (fun _ => rfl) (List.forall_mem_nil _)

variable {c : Call} {x : c.Result}

/-- A call that is answered as it should be. -/
theorem call (hnone : Called.refusal? ⟨c, .ok x⟩ = none) (hstores : ¬Called.Stores ⟨c, .ok x⟩)
    (hagrees : d.Agrees ⟨.call c, .ok x⟩) : Part r d tid [c] [] a [⟨.call c, .ok x⟩] (.ok a) :=
  .passes ⟨rfl, List.forall_mem_singleton.mpr hnone⟩
    (fun b => b.rows_upon tid (List.forall_mem_singleton.mpr hstores))
    (List.forall_mem_singleton.mpr hagrees)

/-- A call that refuses. -/
theorem refusedBy {o : Outcome c.Result} {later : List Call}
    (hstop : Called.refusal? ⟨c, o⟩ = some f) (hextra : aftermath r d ⟨c, o⟩ = [])
    (hstores : ¬Called.Stores ⟨c, o⟩) (hagrees : d.Agrees ⟨.call c, o⟩) :
    Part r d tid (c :: later) written a [⟨.call c, o⟩] (.error f) :=
  .refuses ⟨[], ⟨c, o⟩, later, [], rfl, List.forall_mem_nil _, hstop, hextra.symm, rfl⟩
    (fun b => b.rows_upon tid (List.forall_mem_singleton.mpr hstores))
    (List.forall_mem_singleton.mpr hagrees)

/-- A call that fails. -/
theorem failed {later : List Call} (hstop : Called.refusal? ⟨c, .error f⟩ = some f)
    (hextra : aftermath r d ⟨c, .error f⟩ = []) (hstores : ¬Called.Stores ⟨c, .error f⟩) :
    Part r d tid (c :: later) written a [⟨.call c, .error f⟩] (.error f) :=
  .refusedBy hstop hextra hstores (by cases c <;> trivial)

theorem call_begin (tid : Nat) : Part r d tid [.begin] [] () [⟨.call .begin, .ok ()⟩] (.ok ()) :=
  .call rfl not_false trivial

/-- A transaction that is given up after a refusal. -/
theorem abandoned (h : Part r d tid plan written a t (.error f)) :
    Part r d tid plan written a (t ++ [⟨.abandon, ()⟩]) (.error f) := by
  cases h with
  | refuses h hrows hagrees =>
    refine .refuses ?_ (fun b => ?_) fun e he => ?_
    · rw [Trace.calls_append]
      exact (List.append_nil t.calls).symm ▸ h
    · rw [Registry.upon_append]
      exact Registry.abandon_eq.1.trans (hrows b)
    · obtain he | he := List.mem_append.mp he
      · exact hagrees e he
      · rw [List.mem_singleton.mp he]
        trivial

end Part

end Admission

end GameFleet
