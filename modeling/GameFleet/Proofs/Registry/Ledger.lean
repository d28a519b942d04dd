import GameFleet.Proofs.Registry.Basic
import GameFleet.Admission

/-!
# What the ledger says

The ledger holds the calls that were answered, the last first. What a thread has done so far, and
what it still owes, can be read off it.

- `Call.isMild`, `Call.ends?`, `Call.isPlain`: kinds of calls.
- `Refused`: a thread found the place of an owner taken.
- `Unstarted`: a thread has done nothing that others would notice.
- `undecided`: the instances that a thread deployed and did not decide about.
- `Reserved`: a thread committed a pending row while its owner's place was free.
- `lastEnd`: the last call by which a thread ended an instance.
-/

namespace GameFleet

namespace Call

/-- Whether a call is neither part of a transaction nor a deployment. -/
def isMild : Call → Bool
  | begin => false
  | lockInstance _ => false
  | ownersInTransaction _ => false
  | write _ => false
  | commit => false
  | deploy _ => false
  | _ => true

/-- The instance that a call destroys or whose row it removes. -/
def ends? : Call → Option InstanceId
  | destroy id _ => some id
  | removeInstance id => some id
  | _ => none

/-- Whether a call neither changes the fleet's rows nor deploys or destroys anything. -/
def isPlain (c : Call) : Bool := c.isMild && c.ends?.isNone

/-- Whether a call changes the fleet's rows, or deploys or destroys something. -/
def isDeed : Call → Bool
  | write _ => true
  | commit => true
  | deploy _ => true
  | destroy .. => true
  | removeInstance _ => true
  | _ => false

end Call

namespace Entry

/-- Whether the place of an owner was found taken. -/
def refuses : Entry → Bool
  | ⟨_, .ownersInTransaction _, .ok (rows : List Instance), _, _⟩ => rows.any Instance.isActive
  | _ => false

/-- The instance that was deployed. -/
def deployed? : Entry → Option InstanceId
  | ⟨_, .deploy order, .ok _, _, _⟩ => some order.id
  | _ => none

/-- Whether a thread that deployed an instance knows with this call what becomes of it: it cannot
look for the instance's row, or the row is there, or the instance is destroyed. -/
def decides (id : InstanceId) : Entry → Bool
  | ⟨_, .begin, .error _, _, _⟩ => true
  | ⟨_, .lockInstance i, .error _, _, _⟩ => i = id
  | ⟨_, .lockInstance i, .ok (row : Option Instance), _, _⟩ => decide (i = id) && row.isSome
  | ⟨_, .destroy i _, _, _, _⟩ => i = id
  | _ => false

end Entry

/-- The place of an owner was found taken by a thread. -/
def Refused (tid : Nat) (ledger : List Entry) : Prop :=
  ∃ e ∈ ledger, e.thread = tid ∧ e.refuses = true

/-- A thread has neither changed the fleet's rows nor deployed or destroyed anything. -/
def Unstarted (tid : Nat) (ledger : List Entry) : Prop :=
  ∀ e ∈ ledger, e.thread = tid → e.call.isDeed = false

/-- The instances that a thread deployed and did not decide about. -/
def undecided (tid : Nat) : List Entry → List InstanceId
  | [] => []
  | e :: earlier =>
    if e.thread = tid then
      e.deployed?.toList ++ (undecided tid earlier).filter fun id => !e.decides id
    else undecided tid earlier

/-- A thread committed a pending row while no other row took the owner's place. -/
def Reserved (tid : Nat) (i : Instance) (ledger : List Entry) : Prop :=
  ∃ e ∈ ledger, e.thread = tid ∧ e.call = .commit ∧ e.isOk = true ∧
    i.status = .pending ∧ i ∈ e.after ∧ (∀ j ∈ e.before, j.id ≠ i.id) ∧
    ∀ j ∈ e.before, j.owner = i.owner → j.isActive = false

/-- An order is for an instance. -/
def DeployOrder.IsFor (order : DeployOrder) (i : Instance) : Prop :=
  order.id = i.id ∧ order.region = i.region ∧ order.variant = i.variant ∧
    order.owner = i.owner ∧ order.guild = i.guild

/-- The last call by which a thread ended an instance. -/
def lastEnd (tid : Nat) (id : InstanceId) (ledger : List Entry) : Option Entry :=
  ledger.find? fun e => decide (e.thread = tid ∧ e.call.ends? = some id)

section

variable {tid : Nat} {id : InstanceId} {e : Entry} {ledger : List Entry}

theorem refused_cons :
    Refused tid (e :: ledger) ↔ (e.thread = tid ∧ e.refuses = true) ∨ Refused tid ledger := by
  simp [Refused]

theorem unstarted_cons :
    Unstarted tid (e :: ledger) ↔
      (e.thread = tid → e.call.isDeed = false) ∧ Unstarted tid ledger := by
  simp [Unstarted]

/-- Only calls of transactions find places taken. -/
theorem Entry.refuses_eq_false (h : e.call.isMild = true) : e.refuses = false := by
  obtain ⟨_, c, o, _, _⟩ := e
  cases c <;> first | rfl | cases h

theorem Entry.deployed?_eq_none (h : e.call.isMild = true) : e.deployed? = none := by
  obtain ⟨_, c, o, _, _⟩ := e
  cases c <;> first | rfl | cases h

theorem Call.isMild_of_isPlain {c : Call} (h : c.isPlain = true) : c.isMild = true := by
  simp only [Call.isPlain, Bool.and_eq_true] at h
  exact h.1

theorem Call.ends?_of_isPlain {c : Call} (h : c.isPlain = true) : c.ends? = none := by
  simp only [Call.isPlain, Bool.and_eq_true, Option.isNone_iff_eq_none] at h
  exact h.2

theorem Call.isDeed_of_isPlain {c : Call} (h : c.isPlain = true) : c.isDeed = false := by
  cases c <;> first | rfl | cases h

/-- With a mild call a thread is refused no more than before. -/
theorem refused_cons_of_mild (h : e.thread = tid → e.call.isMild = true) :
    Refused tid (e :: ledger) ↔ Refused tid ledger := by
  rw [refused_cons]
  constructor
  · rintro (⟨ht, hr⟩ | hr)
    · rw [Entry.refuses_eq_false (h ht)] at hr
      cases hr
    · exact hr
  · exact .inr

theorem undecided_cons_self (h : e.thread = tid) :
    undecided tid (e :: ledger)
      = e.deployed?.toList ++ (undecided tid ledger).filter fun id => !e.decides id := by
  rw [undecided, if_pos h]

theorem undecided_cons_of_ne (h : e.thread ≠ tid) :
    undecided tid (e :: ledger) = undecided tid ledger := by
  rw [undecided, if_neg h]

/-- Only a deployment adds to what is undecided. -/
theorem mem_undecided_of_cons (hd : e.thread = tid → e.deployed? = none) {i : InstanceId}
    (h : i ∈ undecided tid (e :: ledger)) : i ∈ undecided tid ledger := by
  by_cases ht : e.thread = tid
  · rw [undecided_cons_self ht, hd ht] at h
    exact (List.mem_filter.mp h).1
  · rwa [undecided_cons_of_ne ht] at h

/-- What is deployed stays undecided until the thread makes a call that decides about it. -/
theorem decided_or_mem_undecided {newer : List Entry} (ht : e.thread = tid)
    (hd : e.deployed? = some id) :
    (∃ d ∈ newer, d.thread = tid ∧ d.decides id = true) ∨
      id ∈ undecided tid (newer ++ e :: ledger) := by
  induction newer with
  | nil =>
    right
    show id ∈ undecided tid (e :: ledger)
    rw [undecided_cons_self ht, hd]
    exact List.mem_append_left _ (List.mem_singleton.mpr rfl)
  | cons d newer ih =>
    obtain ⟨f, hf, hft, hfd⟩ | hmem := ih
    · exact .inl ⟨f, List.mem_cons_of_mem _ hf, hft, hfd⟩
    · by_cases hdt : d.thread = tid
      · by_cases hdd : d.decides id = true
        · exact .inl ⟨d, List.mem_cons_self .., hdt, hdd⟩
        · right
          show id ∈ undecided tid (d :: (newer ++ e :: ledger))
          rw [undecided_cons_self hdt]
          exact List.mem_append_right _ (List.mem_filter.mpr ⟨hmem, by simpa using hdd⟩)
      · right
        show id ∈ undecided tid (d :: (newer ++ e :: ledger))
        rwa [undecided_cons_of_ne hdt]

/-- A call that ends nothing, or something else, leaves the last end as it was. -/
theorem lastEnd_cons_of_not (h : e.thread = tid → e.call.ends? ≠ some id) :
    lastEnd tid id (e :: ledger) = lastEnd tid id ledger := by
  have hp : decide (e.thread = tid ∧ e.call.ends? = some id) = false := by
    rw [decide_eq_false_iff_not]
    rintro ⟨ht, he⟩
    exact h ht he
  rw [lastEnd, List.find?_cons, hp]
  rfl

theorem lastEnd_cons_self (ht : e.thread = tid) (he : e.call.ends? = some id) :
    lastEnd tid id (e :: ledger) = some e := by
  have hp : decide (e.thread = tid ∧ e.call.ends? = some id) = true := by
    rw [decide_eq_true_iff]
    exact ⟨ht, he⟩
  rw [lastEnd, List.find?_cons, hp]

theorem Reserved.mono {i : Instance} (h : Reserved tid i ledger) {longer : List Entry}
    (hs : ∀ e ∈ ledger, e ∈ longer) : Reserved tid i longer := by
  obtain ⟨e, he, hrest⟩ := h
  exact ⟨e, hs e he, hrest⟩

end

end GameFleet
