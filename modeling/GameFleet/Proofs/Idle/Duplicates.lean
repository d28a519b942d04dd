import GameFleet.Proofs.Control.Within
import GameFleet.Proofs.Idle.Removals
import GameFleet.Proofs.Queue.Faithful
import GameFleet.Proofs.Queue.Orders
import Mathlib.Data.List.Infix

/-!
# Duplicate removals (specification §4.4)

A cycle of the idle policy looks whether the removal of an instance waits before it enqueues one. It
does not see a removal that is in hand, and that may wait again. However cycles, one at a time, and
dispatches take turns, there are never more than two removals of one instance.

- `Control.copies`: how many removals of an instance wait or are in hand.
- `Control.OneAtATime`: one cycle at a time.
- `Move.OnlyReaps`, `Idle.May`: nobody but the idle policy enqueues removals.
- `Idle.EvictsInFlight`: a cycle decides to evict an instance whose removal is in hand.
- `Idle.Watched`: the invariant; `Watched.apply`: every move keeps it.
- `Idle.removals_bounded`: the theorem.
-/

namespace GameFleet

variable {ω : Type}

/-- Whoever lists instances is told that they have certain variants. -/
def Surroundings.Lists (S : Surroundings ω) (variant : InstanceId → String) : Prop :=
  ∀ w tid now call o w', S.serve w tid now call = .answered o w' →
    Request.Lists variant (.call call) o

/-- A dispatch enqueues no removal. -/
def Dispatch.Spares : Dispatch → Prop
  | processing _ p => p.Spares fun _ => True
  | following p => p.Spares fun _ => True
  | _ => True

theorem Dispatch.Spares.question {d : Dispatch} {q : Request} (h : d.Spares)
    (hq : d.question? = some q) : q.Spares := by
  match d, h, hq with
  | .processing _ (.ask _ _), h, hq =>
    cases hq
    exact h.1
  | .following (.ask _ _), h, hq =>
    cases hq
    exact h.1

/-- Whatever a program is answered, it goes on to enqueue no removal. -/
theorem Program.Spares.goesOn {α : Type} {R : α → Prop} {p p' : Running α} (h : p.Spares R)
    (hp : p.GoesOn p') : p'.Spares R := by
  obtain rfl | ⟨q, next, a, rfl, rfl⟩ := hp
  · exact h
  · exact (Program.Only.ask_iff.mp h).2 a

namespace Control

/-- How many tasks that remove an instance wait or are in hand. -/
def copies (c : Control ω) (id : InstanceId) : Nat := c.orders.countP (·.removes id)

/-- At most one thread has work that may enqueue removals. -/
def OneAtATime (c : Control ω) : Prop :=
  ∀ i j v w, c.work? i = some v → c.work? j = some w → ¬v.Spares → ¬w.Spares → i = j

variable {c : Control ω} {m : Move ω} {id : InstanceId}

/-- With work in one thread at most there is one cycle at a time. -/
theorem OneAtATime.of_work
    (h : ∀ i < c.threads.length, ∀ j < c.threads.length,
      (c.work? i).isSome = true → (c.work? j).isSome = true → i = j) : c.OneAtATime := by
  have hlt : ∀ i w, c.work? i = some w → i < c.threads.length := by
    intro i w hw
    obtain ⟨th, hth, -⟩ := Option.bind_eq_some_iff.mp hw
    exact (List.getElem?_eq_some_iff.mp hth).1
  intro i j v w hv hw _ _
  refine h i (hlt i v hv) j (hlt j w hw) ?_ ?_
  · rw [hv, Option.isSome_some]
  · rw [hw, Option.isSome_some]

/-- After a move there are no more removals of an instance, unless one is enqueued with it. -/
theorem copies_apply (hm : Steady c m) (hn : (c.queue.tasks.map Task.seq).Nodup)
    (id : InstanceId) :
    (c.apply m).copies id ≤ c.copies id ∨
      ∃ o, c.order? m = some o ∧ (c.apply m).queue ≠ c.queue ∧ o.removes id = true ∧
        (c.apply m).copies id = c.copies id + 1 := by
  obtain hsub | ⟨o, ho, hq, hperm⟩ := orders_apply hm hn
  · exact .inl (hsub.countP_le _)
  · have hcopies := hperm.countP_eq (·.removes id)
    rw [List.countP_cons] at hcopies
    by_cases hr : o.removes id = true
    · rw [if_pos hr] at hcopies
      exact .inr ⟨o, ho, hq, hr, hcopies⟩
    · rw [if_neg hr] at hcopies
      exact .inl (Nat.le_of_eq hcopies)

/-- What is enqueued with a step is asked for by work or by a dispatch. -/
theorem order?_cases {o : TaskOrder} (h : c.order? m = some o) :
    (∃ S, m = .enqueue S o) ∨ c.question? m = some (.enqueue o) := by
  cases m with
  | enqueue S o' =>
    cases h
    exact .inl ⟨S, rfl⟩
  | step S k choice =>
    right
    obtain ⟨q, hq, ho⟩ := Option.bind_eq_some_iff.mp h
    rw [hq, Request.order?_eq_some_iff.mp ho]
  | _ => cases h

/-- Whoever asks is told the variants of the instances that are listed. -/
theorem lists_of_ask {S : Surroundings ω} {variant : InstanceId → String} {k : Nat} {q : Request}
    {a : q.Answer} {c' : Control ω} (hS : S.Lists variant) (h : c.ask S k q = .answered a c') :
    q.Lists variant a := by
  cases q with
  | call q =>
    obtain ⟨a, w, hserve, rfl, -⟩ := Served.of_map_eq_answered h
    exact hS _ _ _ _ _ _ hserve
  | _ => trivial

/-- Whoever found no removal of an instance to wait has looked for it in the queue. -/
theorem of_misses {S : Surroundings ω} {payload : InstanceId → Json.Value} {k : Nat} {q : Request}
    {a : q.Answer} {c' : Control ω} (hmiss : q.Misses payload a id)
    (h : c.ask S k q = .answered a c') :
    q = .isQueued DeletionOrder.kind (payload id) ∧
      c.queue.isQueued DeletionOrder.kind (payload id) = false := by
  cases q with
  | isQueued kind v =>
    obtain ⟨rfl, rfl, hqueued⟩ := hmiss
    exact ⟨rfl, (Served.answered.inj h).1.trans hqueued⟩
  | _ => exact hmiss.elim

end Control

/-- Nobody but cycles of the idle policy enqueues removals, and they do with certain thresholds and
are told certain variants. -/
def Move.OnlyReaps (thresholds : IdleThresholds) (variant : InstanceId → String) : Move ω → Prop
  | .step S _ _ => S.settings.idle = thresholds ∧ S.Lists variant
  | .begin _ w => w.Spares ∨ ∃ s : FleetSettings, s.idle = thresholds ∧ w = .ofPolicy .idle s
  | .receive w => w.Spares
  | .enqueue _ o => o.kind ≠ DeletionOrder.kind
  | .register _ process => ∀ payload, (process payload).run.Spares fun _ => True
  | _ => True

namespace Idle

open Control

variable {thresholds : IdleThresholds} {variant : InstanceId → String} {id : InstanceId}
  {limit : Nat} {c : Control ω} {m : Move ω}

/-- What may happen while only cycles of the idle policy, one at a time, enqueue removals. -/
structure May (thresholds : IdleThresholds) (variant : InstanceId → String) (c : Control ω)
    (m : Move ω) : Prop where
  steady : Steady c m
  only : m.OnlyReaps thresholds variant
  alone : (c.apply m).OneAtATime

/-- A cycle decides to evict an instance while a removal of the instance is in hand. Nothing is
asked for between the verdict and the look whether the removal waits, so the cycle decides when it
looks. -/
def EvictsInFlight (thresholds : IdleThresholds) (variant : InstanceId → String) (id : InstanceId)
    (c : Control ω) (m : Move ω) : Prop :=
  c.question? m = some (.isQueued DeletionOrder.kind (payload thresholds variant id)) ∧
    ∃ t ∈ c.inHand, t.removes id = true

/-- There are so many removals of an instance at most. All removals have the payloads that cycles
look for, nobody but a cycle enqueues one, and there is room for it when the cycle has just found
that none waits. -/
structure Watched (thresholds : IdleThresholds) (variant : InstanceId → String) (id : InstanceId)
    (limit : Nat) (c : Control ω) : Prop where
  bound : c.copies id ≤ limit
  payloads : ∀ o ∈ c.orders, o.kind = DeletionOrder.kind →
    ∃ k, o.payload = payload thresholds variant k
  works : ∀ k w, c.work? k = some w → w.Spares ∨ ∃ looked,
    w.LooksFirst variant (payload thresholds variant) looked ∧ (looked id → c.copies id < limit)
  alone : c.OneAtATime
  dispatches : ∀ k d, c.dispatch? k = some d → d.Spares
  processors : ∀ kind process, c.processors kind = some process →
    ∀ payload, (process payload).run.Spares fun _ => True

namespace Watched

/-- A removal is only enqueued by a cycle, which has just found that it does not wait. -/
theorem order_cases (h : Watched thresholds variant id limit c) (hm : m.OnlyReaps thresholds variant)
    {o : TaskOrder} (ho : c.order? m = some o) (hkind : o.kind = DeletionOrder.kind) :
    ∃ S k choice w j, m = .step S k choice ∧ c.work? k = some w ∧ ¬w.Spares ∧
      o.payload = payload thresholds variant j ∧ (j = id → c.copies id < limit) := by
  obtain ⟨S, rfl⟩ | hq := order?_cases ho
  · exact absurd hkind hm
  · obtain ⟨S, k, choice, rfl, ⟨w, next, hw, hpose⟩ | ⟨d, hd, hdq⟩⟩ := question?_cases hq
    · have hnot : ¬w.Spares := fun hs => (hs.pose hpose).1 o rfl hkind
      obtain hs | ⟨looked, hlooks, hroom⟩ := h.works k w hw
      · exact absurd hs hnot
      · obtain ⟨j, hj, hpayload⟩ := (hlooks.pose hpose).1 o rfl hkind
        exact ⟨S, k, choice, w, j, rfl, hw, hnot, hpayload, fun heq => hroom (heq ▸ hj)⟩
    · exact absurd hkind ((h.dispatches k d hd).question hdq o rfl)

/-- When no removal of an instance is found to wait, those that there are are in hand. -/
theorem copies_eq_of_missed (h : Watched thresholds variant id limit c)
    (hq : c.queue.isQueued DeletionOrder.kind (payload thresholds variant id) = false) :
    c.copies id = c.inHand.countP (fun t => t.removes id) := by
  have hwaiting : c.queue.tasks.countP (fun t => t.removes id) = 0 := by
    refine List.countP_eq_zero.mpr fun t ht hr => ?_
    have hmem : t.toTaskOrder ∈ c.orders := List.mem_map_of_mem (List.mem_append_left _ ht)
    have hkind : t.kind = DeletionOrder.kind := TaskOrder.kind_of_removes hr
    obtain ⟨k, hk⟩ := h.payloads _ hmem hkind
    obtain rfl := TaskOrder.eq_of_removes hk hr
    have hmiss := List.any_eq_false.mp hq t ht
    rw [hkind, hk, payload, DeletionOrder.same_toJson] at hmiss
    simp at hmiss
  unfold copies orders
  rw [List.countP_map, List.countP_append]
  exact (congrArg (· + _) hwaiting).trans (Nat.zero_add _)

/-- When no removal of an instance is found to wait, there is room for one. -/
theorem room_of_missed (h : Watched thresholds variant id limit c)
    (hline : LineUp c.hands c.line) (hlimit : 0 < limit)
    (hflight : (∃ t ∈ c.inHand, t.removes id = true) → 1 < limit)
    (hq : c.queue.isQueued DeletionOrder.kind (payload thresholds variant id) = false) :
    c.copies id < limit := by
  rw [h.copies_eq_of_missed hq]
  by_cases hin : ∃ t ∈ c.inHand, t.removes id = true
  · refine Nat.lt_of_le_of_lt (Nat.le_trans ?_ hline.length_inHand_le) (hflight hin)
    exact List.countP_le_length
  · have hzero : c.inHand.countP (fun t => t.removes id) = 0 :=
      List.countP_eq_zero.mpr fun t ht hr => hin ⟨t, ht, hr⟩
    rwa [hzero]

section

variable (h : Watched thresholds variant id limit c) (hm : May thresholds variant c m)
  (hn : (c.queue.tasks.map Task.seq).Nodup)

include h hm hn

/-- A move adds to the removals of an instance only as a step of a cycle, which had room for it. -/
theorem copies_apply : (c.apply m).copies id ≤ c.copies id ∨
    ∃ S k choice w, m = .step S k choice ∧ c.work? k = some w ∧ ¬w.Spares ∧
      (c.apply m).queue ≠ c.queue ∧ c.copies id < limit ∧
      (c.apply m).copies id = c.copies id + 1 := by
  obtain hle | ⟨o, ho, hq, hr, hcopies⟩ := Control.copies_apply hm.steady hn id
  · exact .inl hle
  · obtain ⟨S, k, choice, w, j, rfl, hw, hnot, hpayload, hroom⟩ :=
      h.order_cases hm.only ho (TaskOrder.kind_of_removes hr)
    have hj := TaskOrder.eq_of_removes hpayload hr
    exact .inr ⟨S, k, choice, w, rfl, hw, hnot, hq, hroom hj, hcopies⟩

theorem bound_apply : (c.apply m).copies id ≤ limit := by
  obtain hle | ⟨S, k, choice, w, -, -, -, -, hroom, hcopies⟩ := h.copies_apply hm hn
  · exact Nat.le_trans hle h.bound
  · rw [hcopies]
    exact hroom

theorem payloads_apply : ∀ o ∈ (c.apply m).orders, o.kind = DeletionOrder.kind →
    ∃ k, o.payload = payload thresholds variant k := by
  intro o ho hkind
  obtain hsub | ⟨o', ho', -, hperm⟩ := orders_apply hm.steady hn
  · exact h.payloads o (hsub.subset ho) hkind
  · obtain rfl | ho := List.mem_cons.mp (hperm.mem_iff.mp ho)
    · obtain ⟨S, k, choice, w, j, -, -, -, hpayload, -⟩ := h.order_cases hm.only ho' hkind
      exact ⟨j, hpayload⟩
    · exact h.payloads o ho hkind

/-- Whoever has work that may enqueue removals is a cycle, and there is room for the removal that it
has just found not to wait. -/
theorem works_apply (hline : LineUp c.hands c.line) (hlimit : 0 < limit)
    (hflight : EvictsInFlight thresholds variant id c m → 1 < limit) :
    ∀ k w, (c.apply m).work? k = some w → w.Spares ∨ ∃ looked,
      w.LooksFirst variant (payload thresholds variant) looked ∧
        (looked id → (c.apply m).copies id < limit) := by
  intro k w hw
  by_cases hs : w.Spares
  · exact .inl hs
  right
  -- Where there is work as before, there is room as before, unless the cycle itself goes on.
  have hbefore : c.work? k = some w → (∀ S choice, m = .step S k choice →
      (c.apply m).queue = c.queue) → ∃ looked,
      w.LooksFirst variant (payload thresholds variant) looked ∧
        (looked id → (c.apply m).copies id < limit) := by
    intro hbefore hqueue
    obtain hs' | ⟨looked, hlooks, hroom⟩ := h.works k w hbefore
    · exact absurd hs' hs
    · refine ⟨looked, hlooks, fun hid => ?_⟩
      obtain hle | ⟨S, k', choice, w', rfl, hw', hnot, hne, -⟩ := h.copies_apply hm hn
      · exact Nat.lt_of_le_of_lt hle (hroom hid)
      · obtain rfl := h.alone k' k w' w hw' hbefore hnot hs
        exact absurd (hqueue S choice rfl) hne
  obtain ⟨hw, hstep⟩ | ⟨th, hbrings, hth⟩ | ⟨S, choice, rfl⟩ :=
    part?_apply Thread.work?_signalled hw
  · refine hbefore hw fun S choice heq => ?_
    rw [heq, Move.isStepOf, beq_self_eq_true] at hstep
    cases hstep
  · obtain ⟨tracked, rfl⟩ | rfl := work?_of_brings hbrings hth
    · obtain hs' | ⟨s, hidle, rfl⟩ := hm.only
      · exact absurd hs' hs
      · exact ⟨_, looksFirst_survey hidle fun _ => False, False.elim⟩
    · exact absurd hm.only hs
  · obtain ⟨hw, hq⟩ | ⟨w₀, q, next, a, c', hw₀, hpose, hquestion, hask, rfl⟩ | ⟨policy, rfl⟩ :=
      work?_step hm.steady hw
    · refine hbefore hw fun S' choice' heq => ?_
      exact hq
    · obtain hs₀ | ⟨looked, hlooks, -⟩ := h.works k w₀ hw₀
      · exact absurd ((hs₀.pose hpose).2 a) hs
      · refine ⟨_, (hlooks.pose hpose).2 a (lists_of_ask hm.only.2 hask), fun hmiss => ?_⟩
        obtain ⟨rfl, hq⟩ := of_misses hmiss hask
        refine Nat.lt_of_le_of_lt ?_
          (h.room_of_missed hline hlimit (fun hin => hflight ⟨hquestion, hin⟩) hq)
        obtain hle | ⟨o, ho, -⟩ := Control.copies_apply hm.steady hn id
        · exact hle
        · change (c.question? _).bind _ = _ at ho
          rw [hquestion] at ho
          cases ho
    · obtain hs' | hlooks := Policy.cycle_cases hm.only.1 variant policy
      · exact absurd hs' hs
      · exact ⟨_, hlooks, False.elim⟩

end

theorem dispatches_apply (h : Watched thresholds variant id limit c)
    (hm : May thresholds variant c m) :
    ∀ k d, (c.apply m).dispatch? k = some d → d.Spares := by
  intro k d hd
  have hdoes := does hm.steady
  cases d with
  | processing t p =>
    obtain ⟨p', hp', hgoes⟩ | hran := processing_apply hd
    · exact Program.Spares.goesOn (h.dispatches k _ hp') hgoes
    · rw [hran] at hdoes
      cases hdoes with
      | runs _ _ hp _ => exact h.processors _ _ hp t.payload
  | following p =>
    obtain ⟨p', hp', hgoes⟩ | ⟨t, o, hended⟩ := following_apply hd
    · exact Program.Spares.goesOn (h.dispatches k _ hp') hgoes
    · rw [hended] at hdoes
      cases hdoes <;> exact FollowUp.after_spares _ _
  | _ => trivial

theorem processors_apply (h : Watched thresholds variant id limit c)
    (hm : m.OnlyReaps thresholds variant) :
    ∀ kind process, (c.apply m).processors kind = some process →
      ∀ payload, (process payload).run.Spares fun _ => True := by
  intro kind process hp
  obtain hsame | ⟨kind', process', rfl⟩ := Control.processors_apply (c := c) m
  · exact h.processors kind process (hsame ▸ hp)
  · change (if kind = kind' then some process' else c.processors kind) = some process at hp
    split at hp
    · cases hp
      exact hm
    · exact h.processors kind process hp

/-- Every move keeps it. -/
theorem apply (h : Watched thresholds variant id limit c) (hm : May thresholds variant c m)
    (hn : (c.queue.tasks.map Task.seq).Nodup) (hline : LineUp c.hands c.line) (hlimit : 0 < limit)
    (hflight : EvictsInFlight thresholds variant id c m → 1 < limit) :
    Watched thresholds variant id limit (c.apply m) where
  bound := h.bound_apply hm hn
  payloads := h.payloads_apply hm hn
  works := h.works_apply hm hn hline hlimit hflight
  alone := hm.alone
  dispatches := h.dispatches_apply hm
  processors := h.processors_apply hm.only

end Watched

/-- Nobody processes tasks in such a way that removals are enqueued. -/
def ProcessorsSpare (c : Control ω) : Prop :=
  ∀ kind process, c.processors kind = some process →
    ∀ payload, (process payload).run.Spares fun _ => True

variable {ms : List (Move ω)}

theorem watched_of_unbegun (ho : Unbegun c) (hp : ProcessorsSpare c) :
    Watched thresholds variant id limit c := by
  have hthreads : ∀ {β : Type} (f : Thread → Option β) (k : Nat) (b : β),
      part? f c k ≠ some b := by
    intro β f k b h
    rw [part?, ho.threads] at h
    cases h
  have horders : c.orders = [] := by
    unfold orders inHand hands
    rw [ho.tasks, ho.threads]
    rfl
  refine ⟨?_, fun o hmem => ?_, fun k w hw => absurd hw (hthreads _ k w),
    fun i j v w hv => absurd hv (hthreads _ i v), fun k d hd => absurd hd (hthreads _ k d), hp⟩
  · unfold copies
    rw [horders]
    exact Nat.zero_le limit
  · rw [horders] at hmem
    cases hmem

/-- Every run keeps it. -/
theorem watched_after (ho : Unbegun c) (hp : ProcessorsSpare c)
    (hrun : Run (May thresholds variant) c ms) (hlimit : 0 < limit)
    (hflight : Run (fun c m => EvictsInFlight thresholds variant id c m → 1 < limit) c ms) :
    Watched thresholds variant id limit (c.after ms) := by
  induction ms with
  | nil => exact watched_of_unbegun ho hp
  | cons m earlier ih =>
    obtain ⟨hline, haccounted⟩ := accounted_after ho (hrun.1.imp fun _ _ hm => hm.steady)
    exact (ih hrun.1 hflight.1).apply hrun.2 haccounted.nodup_seq hline hlimit hflight.2

/-- There are at most two removals of an instance at any time, those that wait and the one in hand
together, and at most one as long as no cycle decides to evict the instance while its removal is in
hand. -/
theorem removals_bounded (ho : Unbegun c) (hp : ProcessorsSpare c)
    (hrun : Run (May thresholds variant) c ms) (id : InstanceId) :
    (c.after ms).copies id ≤ 2 ∧
      (Run (fun c m => ¬EvictsInFlight thresholds variant id c m) c ms →
        (c.after ms).copies id ≤ 1) := by
  constructor
  · have htwo : Run (fun c m => EvictsInFlight thresholds variant id c m → 1 < 2) c ms :=
      hrun.imp fun _ _ _ _ => Nat.one_lt_two
    exact (watched_after ho hp hrun Nat.zero_lt_two htwo).bound
  · intro hnever
    have hone : Run (fun c m => EvictsInFlight thresholds variant id c m → 1 < 1) c ms :=
      hnever.imp fun _ _ hnot hevicts => absurd hevicts hnot
    exact (watched_after ho hp hrun Nat.zero_lt_one hone).bound

/-- An instance on which nobody plays. -/
def deserted (n : Nat) : Instance :=
  { (default : Instance) with id := ⟨.numbered n⟩, status := .ready }

/-- Surroundings with two of them, a day after they became empty. -/
def ghostTown : Surroundings Unit where
  start := .ofSeconds 86400
  settings := .ofEnvironment fun _ => none
  tick := 0
  serve w _ _
    | .listInstances _ => .answered (.ok [deserted 1, deserted 2]) w
    | .listActivities => .answered (.ok
        [⟨(deserted 1).id, some (.ofSeconds 0), default⟩,
          ⟨(deserted 2).id, some (.ofSeconds 0), default⟩]) w
    | _ => .waiting w
  fresh w := (.numbered 0, w)
  abandon w _ := w
  wakes _ _ := none

/-- A cycle enqueues both removals. The first is taken, and another cycle comes. -/
def secondCycle : List (Move Unit) :=
  let cycle : Move Unit := .begin false (.ofPolicy .idle ghostTown.settings)
  let turns (n tid : Nat) : List (Move Unit) := List.replicate n (.step ghostTown tid 0)
  turns 8 2 ++ cycle :: turns 2 1 ++ .dispatch :: turns 9 0 ++
    [cycle, .register DeletionOrder.kind Termination.process]

/-- Two removals of the first instance are there, one of them in hand, and one of the second. -/
theorem copies_secondCycle :
    let c : Control Unit := { world := () }
    (c.after secondCycle).copies (deserted 1).id = 2 ∧
      (c.after secondCycle).copies (deserted 2).id = 1 := by
  decide +kernel

/-- There is work in one thread at most, and the second removal is never in hand. -/
theorem calm_secondCycle :
    let c : Control Unit := { world := () }
    ∀ ms ∈ secondCycle.tails,
      (∀ i < (c.after ms).threads.length, ∀ j < (c.after ms).threads.length,
        ((c.after ms).work? i).isSome = true → ((c.after ms).work? j).isSome = true → i = j) ∧
      ∀ t ∈ (c.after ms).inHand, t.removes (deserted 2).id = false := by
  decide +kernel

theorem ghostTown_lists : ghostTown.Lists fun _ => "" := by
  intro w tid now call o w' h
  cases call with
  | listInstances status =>
    cases h
    intro rows hrows i hi
    cases hrows
    simp only [List.mem_cons, List.not_mem_nil, or_false] at hi
    obtain rfl | rfl := hi <;> rfl
  | _ => trivial

theorem ghostTown_ne_panicked (w : Unit) (tid now : Nat) (call : Call) (w' : Unit) :
    ghostTown.serve w tid now call ≠ .panicked w' := by
  cases call <;> nofun

theorem run_secondCycle :
    Run (May ghostTown.settings.idle fun _ => "") { world := () } secondCycle := by
  refine .of_suffixes fun m earlier hsuffix => ?_
  have halone := (calm_secondCycle _ ((List.mem_tails _ _).mpr hsuffix)).1
  have hmem := hsuffix.subset List.mem_cons_self
  simp only [secondCycle, List.mem_append, List.mem_cons, List.mem_replicate, List.not_mem_nil,
    or_false] at hmem
  have hsteps : ∀ tid, Steady ({ world := () } : Control Unit) (.step ghostTown tid 0) := fun _ =>
    ghostTown_ne_panicked
  have honly : ∀ tid, Move.OnlyReaps ghostTown.settings.idle (fun _ => "")
      (.step ghostTown tid 0) := fun _ => ⟨rfl, ghostTown_lists⟩
  obtain (((⟨-, rfl⟩ | rfl | ⟨-, rfl⟩) | rfl | ⟨-, rfl⟩) | rfl | rfl) := hmem
  · exact ⟨hsteps 2, honly 2, .of_work halone⟩
  · exact ⟨trivial, .inr ⟨_, rfl, rfl⟩, .of_work halone⟩
  · exact ⟨hsteps 1, honly 1, .of_work halone⟩
  · exact ⟨trivial, trivial, .of_work halone⟩
  · exact ⟨hsteps 0, honly 0, .of_work halone⟩
  · exact ⟨trivial, .inr ⟨_, rfl, rfl⟩, .of_work halone⟩
  · exact ⟨trivial, Termination.process_spares, .of_work halone⟩

/-- Neither cycle decides to evict the second instance while its removal is in hand. -/
theorem never_secondCycle :
    Run (fun c m => ¬EvictsInFlight ghostTown.settings.idle (fun _ => "") (deserted 2).id c m)
      { world := () } secondCycle := by
  refine .of_suffixes fun m earlier hsuffix => ?_
  rintro ⟨-, t, ht, hr⟩
  have hearlier := (List.suffix_cons m earlier).trans hsuffix
  have hcalm := (calm_secondCycle _ ((List.mem_tails _ _).mpr hearlier)).2 t ht
  rw [hcalm] at hr
  cases hr

theorem removals_bounded_secondCycle :
    let c : Control Unit := { world := () }
    (c.after secondCycle).copies (deserted 1).id = 2 ∧
      (c.after secondCycle).copies (deserted 1).id ≤ 2 ∧
      (c.after secondCycle).copies (deserted 2).id = 1 ∧
      (c.after secondCycle).copies (deserted 2).id ≤ 1 := by
  have hbounded := removals_bounded (c := { world := () }) ⟨rfl, rfl, rfl⟩ nofun run_secondCycle
  exact ⟨copies_secondCycle.1, (hbounded (deserted 1).id).1, copies_secondCycle.2,
    (hbounded (deserted 2).id).2 never_secondCycle⟩

end Idle

end GameFleet
