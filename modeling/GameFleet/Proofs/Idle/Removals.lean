import GameFleet.Proofs.Fleet.Threads
import GameFleet.Proofs.Idle.Cycle
import GameFleet.Proofs.Queue.Orders
import GameFleet.Proofs.Work.Interleaving

/-!
# Who enqueues removals

Only the cycles of the idle policy enqueue tasks that remove instances. Before a cycle enqueues the
removal of an instance it looks whether one waits, with the very payload that it enqueues then.

- `Idle.payload`: the payload of an instance's removal; `TaskOrder.removes`: the tasks that remove
  an instance.
- `Program.Spares`, `Work.Spares`: whatever it is answered, it enqueues no removal.
- `Program.LooksFirst`, `Work.LooksFirst`: it only enqueues removals that it has just found not to
  wait.
- `Work.Spares.pose`, `Work.LooksFirst.pose`: what a step of work asks for.
- `Termination.process_spares`, `FollowUp.after_spares`, `Policy.survey_spares`: who enqueues none.
- `Idle.looksFirst_survey`: the cycles of the idle policy look first.
- `Fleet.IsWork.spares_or_reaps`: all other work of the fleet enqueues none.
-/

namespace GameFleet

/-- A task removes an instance. -/
def TaskOrder.removes (o : TaskOrder) (id : InstanceId) : Bool :=
  o.kind == DeletionOrder.kind &&
    match o.payload.member? "instance_id" with
    | some (.string text) => text == id.text
    | _ => false

/-- The payload of the removal of an instance of some variant. -/
def Idle.payload (thresholds : IdleThresholds) (variant : InstanceId → String) (id : InstanceId) :
    Json.Value :=
  (removal id ((thresholds.forVariant (variant id)).seconds / 60)).toJson

/-- Members whose values equal themselves equal themselves. -/
theorem Json.Value.sameMembers_self {members : List (String × Json.Value)}
    (h : ∀ e ∈ members, e.2.same e.2 = true) : sameMembers members members = true := by
  induction members with
  | nil => rfl
  | cons e rest ih =>
    rw [sameMembers, beq_self_eq_true, h e List.mem_cons_self]
    exact ih fun e' he => h e' (List.mem_cons_of_mem _ he)

/-- The payload of a removal equals itself. -/
theorem DeletionOrder.same_toJson (d : DeletionOrder) : d.toJson.same d.toJson = true := by
  refine Json.Value.sameMembers_self fun e he => ?_
  have hmem := Table.mem_of_mem_ofList he
  simp only [List.mem_cons, List.not_mem_nil, or_false] at hmem
  obtain rfl | rfl := hmem
  · exact beq_self_eq_true d.id.text
  · cases d.reason with
    | none => rfl
    | some reason => exact beq_self_eq_true reason

theorem TaskOrder.kind_of_removes {o : TaskOrder} {id : InstanceId} (h : o.removes id = true) :
    o.kind = DeletionOrder.kind := by
  unfold TaskOrder.removes at h
  exact eq_of_beq (Bool.and_eq_true_iff.mp h).1

/-- A task with the payload of an instance's removal removes that instance only. -/
theorem TaskOrder.eq_of_removes {thresholds : IdleThresholds} {variant : InstanceId → String}
    {o : TaskOrder} {id k : InstanceId} (hp : o.payload = Idle.payload thresholds variant k)
    (h : o.removes id = true) : k = id := by
  unfold TaskOrder.removes at h
  rw [Bool.and_eq_true, hp, Idle.payload, DeletionOrder.member?_toJson] at h
  exact InstanceId.toJson_injective (congrArg Json.Value.string (eq_of_beq h.2))

/-! ### Requests -/

namespace Request

/-- No removal is enqueued. -/
def Spares (q : Request) : Prop := ∀ o, q = .enqueue o → o.kind ≠ DeletionOrder.kind

/-- Of the removals only those of certain instances are enqueued, each with its payload. -/
def RemovesOnly (payload : InstanceId → Json.Value) (ids : InstanceId → Prop) (q : Request) :
    Prop :=
  ∀ o, q = .enqueue o → o.kind = DeletionOrder.kind → ∃ id, ids id ∧ o.payload = payload id

/-- The instances that are listed have certain variants. -/
def Lists (variant : InstanceId → String) : (q : Request) → q.Answer → Prop
  | .call (.listInstances _), o =>
    ∀ rows : List Instance, o = .ok rows → ∀ i ∈ rows, i.variant = variant i.id
  | _, _ => True

/-- The removal of an instance was found not to wait. -/
def Misses (payload : InstanceId → Json.Value) (q : Request) (a : q.Answer) (id : InstanceId) :
    Prop :=
  match q, a with
  | .isQueued kind v, queued =>
    kind = DeletionOrder.kind ∧ v = payload id ∧ (queued : Bool) = false
  | _, _ => False

/-- Where nothing is enqueued no removal is. -/
theorem Spares.of_order? {q : Request} (h : q.order? = none) : q.Spares := by
  rintro o rfl
  cases h

theorem Spares.call (c : Call) : (Request.call c).Spares := of_order? rfl

theorem Spares.of_isRemark (q : Request) (h : q.isRemark = true) : q.Spares := by
  rintro o rfl
  cases h

theorem Spares.removesOnly {q : Request} (h : q.Spares) (payload : InstanceId → Json.Value)
    (ids : InstanceId → Prop) : q.RemovesOnly payload ids :=
  fun o ho hkind => absurd hkind (h o ho)

theorem removesOnly_of_order? {q : Request} {payload : InstanceId → Json.Value}
    {ids : InstanceId → Prop} (h : q.order? = none) : q.RemovesOnly payload ids :=
  (Spares.of_order? h).removesOnly payload ids

end Request

/-! ### Programs that enqueue no removal -/

/-- A program enqueues no removal, whatever it is answered, and what it gives has a property. -/
abbrev Program.Spares {α : Type} (R : α → Prop) (p : Running α) : Prop := p.Only Request.Spares R

open Program

namespace Termination

theorem terminate_spares (i : Instance) (reason : String) :
    Spares (fun _ => True) (terminate i reason).run :=
  .andThen (.call (.call _)) fun _ _ => .andThen (.call (.call _)) fun _ _ =>
    .andThen (.call (.call _)) fun _ _ => .record Request.Spares.of_isRemark ..

theorem remove_spares (id : InstanceId) (reason : String) :
    Spares (fun _ => True) (remove id reason).run := by
  refine .andThen (.call (.call _)) fun row _ => ?_
  change Option Instance at row
  cases row with
  | none => exact .pure trivial
  | some i => exact .andThen (terminate_spares i reason) fun _ _ => .pure trivial

theorem terminateAll_spares (reason : String) (rows : List Instance) :
    Spares (fun _ => True) (terminateAll reason rows).run := by
  induction rows with
  | nil => exact .pure trivial
  | cons i rest ih =>
    exact .andThen (terminate_spares i reason) fun _ _ => .andThen ih fun _ _ => .pure trivial

theorem removeOwned_spares (owner : OwnerId) :
    Spares (fun _ => True) (removeOwned owner).run := by
  refine .andThen (.call (.call _)) fun rows _ => ?_
  dsimp only
  split
  · exact .andThen (.record Request.Spares.of_isRemark ..) fun _ _ => .throw _
  · exact terminateAll_spares _ _

/-- The run of a removal enqueues no other. -/
theorem process_spares (payload : Json.Value) :
    Spares (fun _ => True) (process payload).run := by
  unfold process
  split
  · exact .throw _
  · exact .andThen (remove_spares _ _) fun _ _ => .pure trivial

end Termination

/-- What follows a task enqueues no removal. -/
theorem FollowUp.after_spares (f : Option FollowUp) (o : Outcome Json.Value) :
    Spares (fun _ => True) (FollowUp.after f o) := by
  cases f with
  | none => exact Only.pure trivial
  | some f =>
    cases f with
    | report name => exact .bestEffort (.call (.call _))
    | evictionNotice owner id minutes =>
      cases o with
      | error e => exact Only.pure trivial
      | ok v =>
        dsimp only [FollowUp.after, FollowUp.work]
        split
        · exact .tell Request.Spares.of_isRemark ..
        · exact .pure trivial

/-! ### Admissions -/

namespace Admission

theorem gates_spares (billing : Bool) (owner : OwnerId) :
    Spares (fun _ => True) (gates billing owner).run := by
  have hcredit : Spares (fun _ => True) (creditGate owner).run := by
    refine .andThen (.call (.call _)) fun balance _ => ?_
    split
    · exact .andThen (.record Request.Spares.of_isRemark ..) fun _ _ => .throw _
    · exact .pure trivial
  refine .andThen (.call (.call _)) fun identity _ => ?_
  change Option String at identity
  cases identity with
  | none => exact .throw _
  | some identity =>
    refine .andThen (.call (.call _)) fun ban _ => ?_
    change Option Ban at ban
    cases ban with
    | some ban => exact .throw _
    | none =>
      cases billing with
      | false => exact .pure trivial
      | true => exact .andThen hcredit fun _ _ => .pure trivial

theorem reserveFor_spares (r : AdmissionRequest) :
    Spares (fun _ => True) (reserveFor r).run := by
  refine .andThen (.ask (.of_order? rfl)) fun id _ => ?_
  refine .andThen (.ask (.of_order? rfl)) fun now _ => ?_
  have hreserve : ∀ pending, Spares (fun _ => True) (reserve pending).run := by
    refine fun pending => .transaction (.call _) (.of_order? rfl) ?_
    refine .andThen (.call (.call _)) fun rows _ => ?_
    cases List.any rows Instance.isActive with
    | true => exact .throw _
    | false => exact .andThen (.call (.call _)) fun _ _ => .call (.call _)
  exact .andThen (hreserve _) fun _ _ => .pure trivial

theorem deployPending_spares (pending : Instance) (identity : String) :
    Spares (fun _ => True) (deployPending pending identity).run := by
  have hoverrides : Spares (fun _ => True) (overridesOf pending.guild).run := by
    cases pending.guild with
    | none => exact .pure trivial
    | some guild => exact .call (.call _)
  exact .andThen hoverrides fun _ _ => .andThen (.call (.call _)) fun _ _ => .pure trivial

theorem promote_spares (ready : Instance) : Spares (fun _ => True) (promote ready).run := by
  refine .transaction (.call _) (.of_order? rfl) (.andThen (.call (.call _)) fun row _ => ?_)
  change Option Instance at row
  cases row with
  | none => exact .andThen (.ask (.of_order? rfl)) fun _ _ => .pure trivial
  | some row =>
    exact .andThen (.call (.call _)) fun _ _ => .andThen (.call (.call _)) fun _ _ => .pure trivial

theorem grant_spares (billing : Bool) (r : AdmissionRequest) :
    Spares (fun _ => True) (grant billing r).run := by
  refine .andThen (gates_spares billing r.owner) fun identity _ => ?_
  refine .andThen (reserveFor_spares r) fun pending _ => ?_
  refine .andThen (deployPending_spares pending identity) fun ready _ => ?_
  refine .andThen (promote_spares ready) fun promoted _ => ?_
  cases promoted with
  | true => exact .andThen (.record Request.Spares.of_isRemark ..) fun _ _ => .pure trivial
  | false => exact .andThen (.bestEffort (.call (.call _))) fun _ _ => .throw _

end Admission

/-! ### The surveys of the other policies -/

/-- The steps of a batch enqueue no removals. -/
def Batch.Spares (b : Batch) : Prop := ∀ s ∈ b.branches, s.work.Spares fun _ => True

theorem Batch.spares_append {p : Policy} {failures : List String} {ss ts : List Branch}
    (hss : ∀ s ∈ ss, s.work.Spares fun _ => True) (hts : ∀ s ∈ ts, s.work.Spares fun _ => True) :
    Batch.Spares ⟨p, failures, ss ++ ts⟩ :=
  fun s hs => (List.mem_append.mp hs).elim (hss s) (hts s)

namespace Stuck

theorem reclaim_spares (minutes : Nat) (i : Instance) :
    Spares (fun _ => True) (reclaim minutes i).run := by
  refine .andThen (.attempt (Termination.remove_spares _ _)) fun o _ => ?_
  match o with
  | .ok true => exact .andThen (.tell Request.Spares.of_isRemark ..) fun _ _ => .pure trivial
  | .ok false => exact .pure trivial
  | .error f => exact .pure trivial

theorem reclaimAll_spares (maxAge : Span) (now : Timestamp) (rows : List Instance) :
    Spares (fun _ => True) (reclaimAll maxAge now rows).run := by
  induction rows with
  | nil => exact .pure trivial
  | cons i rest ih =>
    unfold reclaimAll
    split
    · exact .andThen (reclaim_spares _ i) fun _ _ => .andThen ih fun _ _ => .pure trivial
    · exact ih

theorem survey_spares (s : FleetSettings) : Spares Batch.Spares (survey s).run := by
  refine .andThen (.ask (.of_order? rfl)) fun now _ => .andThen (.call (.call _)) fun rows _ => ?_
  exact .andThen (reclaimAll_spares _ now rows) fun texts _ => .pure (List.forall_mem_nil _)

end Stuck

namespace Lifetime

theorem evict_spares (s : FleetSettings) (i : Instance) :
    Spares (fun _ => True) (evict s i).run :=
  .andThen (.bestEffort (.say Request.Spares.of_isRemark ..)) fun _ _ =>
    .andThen (Termination.remove_spares _ _) fun _ _ => .pure trivial

theorem survey_spares (s : FleetSettings) : Spares Batch.Spares (survey s).run := by
  refine .andThen (.ask (.of_order? rfl)) fun now _ => ?_
  refine .andThen (.call (.call _)) fun rows _ => .pure ?_
  refine Batch.spares_append (fun x hx => ?_) fun x hx => ?_
  · obtain ⟨i, -, rfl⟩ := List.mem_map.mp hx
    exact .say Request.Spares.of_isRemark ..
  · obtain ⟨i, -, rfl⟩ := List.mem_map.mp hx
    exact evict_spares s i

end Lifetime

namespace Credit

theorem evict_spares (s : FleetSettings) (i : Instance) :
    Spares (fun _ => True) (evict s i).run := by
  refine .andThen (.bestEffort (.say Request.Spares.of_isRemark ..)) fun _ _ => ?_
  refine .andThen (Termination.remove_spares _ _) fun deleted _ => ?_
  cases deleted with
  | false => exact .pure trivial
  | true => exact .tell Request.Spares.of_isRemark ..

theorem balanceOf_spares (known : Balances) (owner : OwnerId) :
    Spares (fun _ => True) (balanceOf known owner).run := by
  unfold balanceOf
  split
  · exact .pure trivial
  · refine .andThen (.attempt (.call (.call _))) fun o _ => ?_
    cases o <;> exact .pure trivial

theorem judge_spares (s : FleetSettings) (known : Balances) (rows : List Instance) :
    Spares (fun _ => True) (judge s known rows).run := by
  induction rows generalizing known with
  | nil => exact .pure trivial
  | cons i rest ih =>
    refine .andThen (balanceOf_spares known i.owner) fun (o, known) _ => ?_
    refine .andThen (ih known) fun found _ => ?_
    cases o with
    | error f => exact .pure trivial
    | ok balance =>
      dsimp only
      cases Verdict.credit balance s.lowBalance <;> exact .pure trivial

theorem survey_spares (s : FleetSettings) : Spares Batch.Spares (survey s).run := by
  refine .andThen (.call (.call _)) fun rows _ => ?_
  refine .andThen (judge_spares s [] rows) fun found _ => .pure ?_
  refine Batch.spares_append (fun x hx => ?_) fun x hx => ?_
  · obtain ⟨⟨i, balance⟩, -, rfl⟩ := List.mem_map.mp hx
    exact .say Request.Spares.of_isRemark ..
  · obtain ⟨i, -, rfl⟩ := List.mem_map.mp hx
    exact evict_spares s i

end Credit

/-- The surveys of the other policies enqueue no removals, nor do their steps. -/
theorem Policy.survey_spares {p : Policy} (hp : p ≠ .idle) (s : FleetSettings) :
    Spares Batch.Spares (p.survey s).run := by
  cases p with
  | idle => exact absurd rfl hp
  | stuck => exact Stuck.survey_spares s
  | lifetime => exact Lifetime.survey_spares s
  | credit => exact Credit.survey_spares s

/-! ### Programs that look first -/

section

variable {thresholds : IdleThresholds} {variant : InstanceId → String}
  {payload : InstanceId → Json.Value} {looked : InstanceId → Prop}

/-- Only removals that were just found not to wait may be enqueued; a state is which were. A program
is told the variants that instances have. -/
def Idle.rules (variant : InstanceId → String) (payload : InstanceId → Json.Value) :
    Rules Request Request.Answer (InstanceId → Prop) where
  Allows looked q := q.RemovesOnly payload looked
  Turns _ q a looked := q.Lists variant a ∧ looked = q.Misses payload a

/-- A program only enqueues the removal of an instance when it has just found that it does not wait,
and what it gives has a property. -/
abbrev Program.LooksFirst {α : Type} (variant : InstanceId → String)
    (payload : InstanceId → Json.Value) (R : α → Prop) (p : Running α)
    (looked : InstanceId → Prop) : Prop :=
  p.Meets (Idle.rules variant payload) (fun o _ => ∀ a, o = .ok a → R a) looked

/-- To go on with what is allowed, and with every answer. -/
theorem Program.LooksFirst.of_ask {α : Type} {R : α → Prop} {q : Request}
    {next : q.Answer → Running α} (hq : q.RemovesOnly payload looked)
    (h : ∀ a, q.Lists variant a → LooksFirst variant payload R (next a) (q.Misses payload a)) :
    LooksFirst variant payload R (.ask q next) looked := by
  refine ⟨hq, ?_⟩
  rintro a _ ⟨ha, rfl⟩
  exact h a ha

/-- One operation after another. The second is only begun when the first has not failed. -/
theorem Program.LooksFirst.andThen {α β : Type} {R : α → Prop} {R' : β → Prop} {op : Op α}
    {f : α → Op β} (h : LooksFirst variant payload R op.run looked)
    (hf : ∀ a looked, R a → LooksFirst variant payload R' (f a).run looked) :
    LooksFirst variant payload R' (op >>= f).run looked :=
  Meets.andThen h (fun a looked ha => hf a looked (ha a rfl)) fun _ _ _ => nofun

namespace Idle

theorem refresh_spares (i : Instance) (previous : Option Activity) (timeout : Span) :
    Spares (fun _ => True) (refresh i previous timeout).run := by
  refine .widen (asks_refresh i previous timeout) fun q hq => ?_
  rintro o rfl
  exact hq.elim

/-- To look for a removal, and to enqueue it then, is to look first. -/
theorem looksFirst_enqueueRemoval {i : Instance} {α : Type} {R : α → Prop} {rest : Op α}
    (hi : i.variant = variant i.id)
    (hrest : ∀ looked, LooksFirst variant (Idle.payload thresholds variant) R rest.run looked) :
    LooksFirst variant (Idle.payload thresholds variant) R
      (enqueueRemoval i (thresholds.forVariant i.variant) >>= fun _ => rest).run looked := by
  have hpayload : (removal i.id ((thresholds.forVariant i.variant).seconds / 60)).toJson =
      Idle.payload thresholds variant i.id := by
    rw [hi]
    rfl
  refine .of_ask (Request.removesOnly_of_order? rfl) fun queued _ => ?_
  change Bool at queued
  cases queued with
  | true => exact hrest _
  | false =>
    refine .of_ask ?_ fun _ _ => hrest _
    rintro _ ⟨⟩ -
    exact ⟨i.id, ⟨rfl, hpayload, rfl⟩, hpayload⟩

/-- To judge instances is to look first. -/
theorem looksFirst_judge {s : FleetSettings} (hs : s.idle = thresholds)
    (activities : List Activity) (now : Timestamp) {rows : List Instance}
    (hrows : ∀ i ∈ rows, i.variant = variant i.id) (looked : InstanceId → Prop) :
    LooksFirst variant (Idle.payload thresholds variant)
      (fun steps => ∀ x ∈ steps, x.work.Spares fun _ => True)
      (judge s activities now rows).run looked := by
  induction rows generalizing looked with
  | nil =>
    rintro _ ⟨⟩
    exact List.forall_mem_nil _
  | cons i rest ih =>
    obtain ⟨hi, hrest⟩ := List.forall_mem_cons.mp hrows
    unfold judge
    rw [hs]
    dsimp only
    split
    · exact looksFirst_enqueueRemoval hi (ih hrest)
    · refine .andThen (ih hrest looked) fun steps looked hsteps => ?_
      rintro _ ⟨⟩
      exact List.forall_mem_cons.mpr ⟨refresh_spares .., hsteps⟩

/-- A cycle of the policy looks first. -/
theorem looksFirst_survey {s : FleetSettings} (hs : s.idle = thresholds)
    (looked : InstanceId → Prop) :
    LooksFirst variant (Idle.payload thresholds variant) Batch.Spares (survey s).run looked := by
  refine .of_ask (Request.removesOnly_of_order? rfl) fun rows hrows => ?_
  cases rows with
  | error f => exact nofun
  | ok rows =>
    refine .of_ask (Request.removesOnly_of_order? rfl) fun activities _ => ?_
    cases activities with
    | error f => exact nofun
    | ok activities =>
      refine .of_ask (Request.removesOnly_of_order? rfl) fun now _ => ?_
      refine .andThen (looksFirst_judge hs activities now (hrows rows rfl) _) ?_
      intro steps looked hsteps
      rintro _ ⟨⟩
      exact hsteps

end Idle

end

/-! ### Work -/

namespace Work

/-- Work enqueues no removal, whatever it is answered. -/
def Spares : Work → Prop
  | .plain p => p.Spares fun _ => True
  | .cycle p => p.Spares Batch.Spares

/-- Work is a cycle that looks first. Its steps enqueue no removals. -/
def LooksFirst (variant : InstanceId → String) (payload : InstanceId → Json.Value)
    (looked : InstanceId → Prop) : Work → Prop
  | .plain _ => False
  | .cycle p => p.LooksFirst variant payload Batch.Spares looked

variable {w : Work} {k : Nat} {q : Request} {next : q.Answer → Work}

/-- When one step of a batch has gone on, the steps still enqueue no removals. -/
theorem spares_setBranch {b : Batch} (hb : b.Spares) {work : Running Unit}
    (hw : work.Spares fun _ => True) : (b.setBranch k work).Spares := by
  intro s hs
  have hmem : s.work ∈ (b.branches.map Branch.work).set k work := by
    rw [← works_setBranch]
    exact List.mem_map_of_mem hs
  obtain hs | hs := List.mem_or_eq_of_mem_set hmem
  · obtain ⟨s', hs', heq⟩ := List.mem_map.mp hs
    exact heq ▸ hb s' hs'
  · exact hs ▸ hw

/-- The step of a batch that enqueues no removals enqueues none, and nor does the rest. -/
theorem spares_branch {b : Batch} (hb : b.Spares)
    (hp : (Work.cycle (.done (.ok b))).pose? k = some ⟨q, next⟩) :
    q.Spares ∧ ∀ a, ∃ b' : Batch, b'.Spares ∧ next a = .cycle (.done (.ok b')) := by
  obtain ⟨s, next', hk, hs, rfl⟩ := Batch.exists_of_pose hp
  have hstep := hb s (List.mem_of_getElem? hk)
  rw [hs] at hstep
  obtain ⟨hq, hnext⟩ := Only.ask_iff.mp hstep
  exact ⟨hq, fun a => ⟨_, spares_setBranch hb (hnext a), rfl⟩⟩

/-- Work that enqueues no removal enqueues none with a step, nor after it. -/
theorem Spares.pose (h : w.Spares) (hp : w.pose? k = some ⟨q, next⟩) :
    q.Spares ∧ ∀ a, (next a).Spares := by
  match w, h, hp with
  | .plain (.ask q next), h, hp =>
    cases hp
    exact Only.ask_iff.mp h
  | .cycle (.ask q next), h, hp =>
    cases hp
    exact Only.ask_iff.mp h
  | .cycle (.done (.ok b)), h, hp =>
    obtain ⟨hq, hnext⟩ := spares_branch (h b rfl) hp
    refine ⟨hq, fun a => ?_⟩
    obtain ⟨b', hb', heq⟩ := hnext a
    rw [heq]
    rintro _ ⟨⟩
    exact hb'

/-- Work that looks first enqueues with a step no removal but those that it looked for, and goes on
so. -/
theorem LooksFirst.pose {variant : InstanceId → String} {payload : InstanceId → Json.Value}
    {looked : InstanceId → Prop} (h : w.LooksFirst variant payload looked)
    (hp : w.pose? k = some ⟨q, next⟩) :
    q.RemovesOnly payload looked ∧
      ∀ a, q.Lists variant a → (next a).LooksFirst variant payload (q.Misses payload a) := by
  match w, h, hp with
  | .cycle (.ask q next), h, hp =>
    cases hp
    exact ⟨h.1, fun a ha => h.2 a _ ⟨ha, rfl⟩⟩
  | .cycle (.done (.ok b)), h, hp =>
    obtain ⟨hq, hnext⟩ := spares_branch (h b rfl) hp
    refine ⟨hq.removesOnly payload looked, fun a _ => ?_⟩
    obtain ⟨b', hb', heq⟩ := hnext a
    rw [heq]
    rintro _ ⟨⟩
    exact hb'

end Work

/-- The cycles of a policy enqueue no removals, or they look first. -/
theorem Policy.cycle_cases {thresholds : IdleThresholds} {s : FleetSettings}
    (hs : s.idle = thresholds) (variant : InstanceId → String) (p : Policy) :
    (Work.ofPolicy p s).Spares ∨ (Work.ofPolicy p s).LooksFirst variant
      (Idle.payload thresholds variant) fun _ => False := by
  by_cases hp : p = .idle
  · subst hp
    exact .inr (Idle.looksFirst_survey hs _)
  · exact .inl (Policy.survey_spares hp s)

/-- An operation that enqueues no removal is work that enqueues none. -/
theorem Work.spares_of {α : Type} {op : Op α} (h : op.run.Spares fun _ => True)
    (encode : α → Yield) : (Work.of op encode).Spares := by
  have hmap : Program.Spares (fun _ => True) (op >>= fun a => pure (encode a)).run :=
    .andThen h fun _ _ => .pure trivial
  rwa [bind_pure_comp] at hmap

/-- The work of the fleet enqueues no removals, or it is a cycle of the idle policy. -/
theorem Fleet.IsWork.spares_or_reaps {w : Work} (hw : Fleet.IsWork w) :
    w.Spares ∨ ∃ s, w = .ofPolicy .idle s := by
  cases hw with
  | admission billing r => exact .inl (Work.spares_of (Admission.grant_spares billing r) _)
  | removal owner => exact .inl (Work.spares_of (Termination.removeOwned_spares owner) _)
  | deletion id reason => exact .inl (Work.spares_of (Termination.remove_spares id reason) _)
  | task payload => exact .inl (Work.spares_of (Termination.process_spares payload) _)
  | cycle p s =>
    by_cases hp : p = .idle
    · exact .inr ⟨s, by rw [hp]⟩
    · exact .inl (Policy.survey_spares hp s)

end GameFleet
