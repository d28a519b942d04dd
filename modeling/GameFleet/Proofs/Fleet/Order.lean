import GameFleet.Proofs.Control.Turn
import GameFleet.Proofs.Fleet.Threads

/-!
# The fleet stays in order

Whatever threads of the fleet there are, in whatever order they take their steps, and whatever
befalls their calls: the registry stays in order, and every change to it was allowed to whoever made
it.

- `Fleet.Opening`: the program before anything goes on.
- `Fleet.May`: what may happen to the program: everything but that a thread is broken off.
- `Registry.Moves`: what one move can do to the registry.
- `Fleet.Order`: what is left of every thread behaves, and no two threads own one identifier.
- `Fleet.order_after`, `Fleet.moves_after`: this holds after every run, and each of its moves did no
  more to the registry.
-/

namespace GameFleet

open Registry

/-- What one move can do to the registry: nothing, or what was allowed to somebody, or an identifier
is given. -/
def Registry.Moves (locking : Bool) (b b' : Registry) : Prop :=
  b' = b ∨
  (∃ r own q a, b.Allows r own q ∧ b.Serves locking r.thread q a b') ∨
  ∃ id, id ∉ b.given ∧ b' = b.give id

/-- A move is a call that was allowed, or it leaves the rows and the ledger alone and opens no
transaction. -/
theorem Registry.Moves.cases {locking : Bool} {b b' : Registry} (h : b.Moves locking b') :
    (∃ r own c o, b.Allows r own (.call c) ∧ b.Answers locking r.thread c o b') ∨
    (b'.rows = b.rows ∧ b'.ledger = b.ledger ∧
      ∀ t, b'.transaction = some t → b.transaction = some t) := by
  obtain rfl | ⟨r, own, q, a, ha, hserves⟩ | ⟨id, -, rfl⟩ := h
  · exact .inr ⟨rfl, rfl, fun _ h => h⟩
  · cases q with
    | call c => exact .inl ⟨r, own, c, a, ha, hserves⟩
    | now =>
      obtain rfl : b' = b := hserves
      exact .inr ⟨rfl, rfl, fun _ h => h⟩
    | freshId =>
      obtain ⟨-, rfl⟩ := hserves
      exact .inr ⟨rfl, rfl, fun _ h => h⟩
    | abandon =>
      obtain rfl : b' = b.abandon r.thread := hserves
      exact .inr ⟨abandon_eq.1, abandon_eq.2.1, fun _ h => transaction_of_abandon h⟩
    | isQueued =>
      obtain rfl : b' = b := hserves
      exact .inr ⟨rfl, rfl, fun _ h => h⟩
    | enqueue =>
      obtain ⟨id, -, rfl⟩ := hserves
      exact .inr ⟨rfl, rfl, fun _ h => h⟩
  · exact .inr ⟨rfl, rfl, fun _ h => h⟩

/-- Nothing is forgotten with any move. -/
theorem Registry.Moves.grows {locking : Bool} {b b' : Registry} (h : b.Moves locking b') :
    b.Grows b' := by
  obtain rfl | ⟨r, own, q, a, ha, hserves⟩ | ⟨id, -, rfl⟩ := h
  · exact .refl
  · exact hserves.grows
  · exact ⟨⟨[], rfl⟩, fun _ h => h⟩

namespace Fleet

/-- Nothing goes on yet. The rows that are there name different instances. -/
structure Opening (c : Control Registry) : Prop where
  threads : c.threads = []
  processors : ∀ kind, c.processors kind = none
  transaction : c.world.transaction = none
  ledger : c.world.ledger = []
  nodup : (c.world.rows.map Instance.id).Nodup
  given : ∀ i ∈ c.world.rows, i.id.uuid ∈ c.world.given

/-- What a step finds: some circumstances of the registry. The identifier that it gives is new. -/
def Finds (locking : Bool) (b : Registry) (S : Surroundings Registry) : Prop :=
  ∃ κ : Circumstances, κ.id ∉ b.given ∧ S = Registry.surroundings locking κ

/-- What may happen to the program: any thread takes any step, and work of the fleet, dispatches,
tasks, loops and whoever stops something come in any order. -/
def May (locking : Bool) (c : Control Registry) : Move Registry → Prop
  | .step S _ _ => Finds locking c.world S
  | .begin _ w => IsWork w
  | .receive w => IsWork w
  | .enqueue S _ => Finds locking c.world S
  | .register _ process => IsProcessor process
  | _ => True

/-- What is left of every thread behaves, and no two threads own one identifier. -/
structure Order (own : Nat → List Uuid) (c : Control Registry) : Prop where
  sane : c.world.Sane
  owned : ∀ tid, ∀ id ∈ own tid, id ∈ c.world.given
  apart : ∀ s t, s ≠ t → ∀ id ∈ own s, id ∉ own t
  entered : ∀ e ∈ c.world.ledger, e.thread < c.threads.length
  fits : ∀ tid (th : Thread), c.threads[tid]? = some th → th.Fits tid (own tid) c.world
  processors : ∀ kind process, c.processors kind = some process → IsProcessor process

/-- The fleet is still in order, and the registry changed as it may. -/
def Kept (locking : Bool) (c c' : Control Registry) : Prop :=
  (∃ own, Order own c') ∧ c.world.Moves locking c'.world

variable {locking : Bool} {own : Nat → List Uuid} {c c' : Control Registry}
  {S : Surroundings Registry} {tid : Nat} {th : Thread} {q : Request} {a : q.Answer}

/-! ### Changes that leave the registry alone -/

/-- Of the program only what the fleet does not depend on has changed. -/
structure Same (c c' : Control Registry) : Prop where
  world : c'.world = c.world
  threads : c'.threads = c.threads
  processors : c'.processors = c.processors

theorem Order.same (h : Order own c) (hs : Same c c') : Order own c' := by
  obtain ⟨hw, ht, hp⟩ := hs
  exact ⟨hw ▸ h.sane, hw ▸ h.owned, h.apart, by rw [hw, ht]; exact h.entered,
    by rw [hw, ht]; exact h.fits, hp ▸ h.processors⟩

theorem Order.put (h : Order own c) (hf : th.Fits tid (own tid) c.world) :
    Order own (c.put tid th) := by
  refine ⟨h.sane, h.owned, h.apart, fun e he => ?_, fun t x hx => ?_, h.processors⟩
  · show e.thread < (c.threads.set tid th).length
    rw [List.length_set]
    exact h.entered e he
  · change (c.threads.set tid th)[t]? = some x at hx
    by_cases ht : tid = t
    · subst ht
      rw [List.getElem?_set_self'] at hx
      obtain ⟨-, -, rfl⟩ := Option.map_eq_some_iff.mp hx
      exact hf
    · rw [List.getElem?_set_ne ht] at hx
      exact h.fits t x hx

theorem Order.spawn (h : Order own c)
    (hf : th.Fits c.threads.length (own c.threads.length) c.world) :
    Order own (c.spawn th).1 := by
  refine ⟨h.sane, h.owned, h.apart, fun e he => ?_, fun t x hx => ?_, h.processors⟩
  · show e.thread < (c.threads ++ [th]).length
    rw [List.length_append]
    exact Nat.lt_of_lt_of_le (h.entered e he) (Nat.le_add_right _ _)
  · change (c.threads ++ [th])[t]? = some x at hx
    by_cases ht : t < c.threads.length
    · rw [List.getElem?_append_left ht] at hx
      exact h.fits t x hx
    · rw [List.getElem?_append_right (Nat.le_of_not_lt ht)] at hx
      obtain ⟨hlt, hx⟩ := List.getElem?_eq_some_iff.mp hx
      have hl : t = c.threads.length := by
        simp at hlt
        omega
      subst hl
      simp at hx
      exact hx ▸ hf

theorem Order.signal (h : Order own c) (t : Nat) : Order own (c.signal t) := by
  unfold Control.signal
  split
  · exact h
  · rename_i th hth
    exact h.put (h.fits t th hth).signalled

/-- A thread that has not begun is calm, and has done nothing. -/
theorem Order.calm_new (h : Order own c) :
    c.world.Calm c.threads.length ∧ Unstarted c.threads.length c.world.ledger := by
  have hno : ∀ e ∈ c.world.ledger, e.thread ≠ c.threads.length :=
    fun e he => Nat.ne_of_lt (h.entered e he)
  refine ⟨⟨?_, ?_⟩, fun e he ht => absurd ht (hno e he)⟩
  · rintro ⟨e, he, ht, -⟩
    exact hno e he ht
  · generalize c.world.ledger = ledger at hno
    intro id hid
    induction ledger with
    | nil => exact hid
    | cons e ledger ih =>
      rw [undecided_cons_of_ne (hno e (List.mem_cons_self ..))] at hid
      exact ih (fun e he => hno e (List.mem_cons_of_mem _ he)) hid

/-! ### Changes of the registry -/

/-- What one role is allowed is done, and the thread of the role goes on. -/
theorem Order.serve (h : Order own c) {r : Role} (hlt : r.thread < c.threads.length)
    (ha : c.world.Allows r (own r.thread) q)
    (hserves : c.world.Serves locking r.thread q a c'.world)
    (ht : c'.threads = c.threads) (hp : c'.processors = c.processors)
    (hf : th.Fits r.thread (grown (own r.thread) q a) c'.world) :
    Order (Function.update own r.thread (grown (own r.thread) q a)) (c'.put r.thread th) := by
  have hown : ∀ t, t ≠ r.thread →
      Function.update own r.thread (grown (own r.thread) q a) t = own t :=
    fun t ht => Function.update_of_ne ht ..
  -- The identifiers of the others were given before, and what the role comes to own was not.
  have hnew : ∀ t, t ≠ r.thread → ∀ id ∈ grown (own r.thread) q a, id ∉ own t := by
    intro t ht id hid hid'
    obtain hold | ⟨hn, -⟩ := mem_grown_cases hid hserves
    · exact h.apart r.thread t ht.symm id hold hid'
    · exact hn (h.owned t id hid')
  refine ⟨ha.sane h.sane hserves, fun t id hid => ?_, fun s t hst id hs ht => ?_, fun e he => ?_,
    fun t x hx => ?_, hp ▸ h.processors⟩
  · show id ∈ c'.world.given
    by_cases ht : t = r.thread
    · subst ht
      rw [Function.update_self] at hid
      obtain hold | ⟨-, hin⟩ := mem_grown_cases hid hserves
      · exact hserves.mem_given (h.owned _ id hold)
      · exact hin
    · rw [hown t ht] at hid
      exact hserves.mem_given (h.owned t id hid)
  · by_cases hs' : s = r.thread
    · subst hs'
      rw [Function.update_self] at hs
      rw [hown t hst.symm] at ht
      exact hnew t hst.symm id hs ht
    · rw [hown s hs'] at hs
      by_cases ht' : t = r.thread
      · subst ht'
        rw [Function.update_self] at ht
        exact hnew s hs' id ht hs
      · rw [hown t ht'] at ht
        exact h.apart s t hst id hs ht
  · show e.thread < (c'.threads.set r.thread th).length
    rw [List.length_set, ht]
    obtain he | he := hserves.thread_of_mem he
    · exact h.entered e he
    · exact he ▸ hlt
  · change (c'.threads.set r.thread th)[t]? = some x at hx
    by_cases htr : r.thread = t
    · subst htr
      rw [List.getElem?_set_self'] at hx
      obtain ⟨-, -, rfl⟩ := Option.map_eq_some_iff.mp hx
      rw [Function.update_self]
      exact hf
    · rw [List.getElem?_set_ne htr, ht] at hx
      rw [hown t fun h => htr h.symm]
      refine (h.fits t x hx).aside fun s hs => ha.beside h.sane hserves (.inl ?_)
      rw [hs]
      exact ⟨htr, h.apart r.thread t htr⟩

/-- An identifier is given. -/
theorem Order.give (h : Order own c) {id : Uuid}
    (hw : c'.world = c.world.give id) (ht : c'.threads = c.threads)
    (hp : c'.processors = c.processors) : Order own c' := by
  refine ⟨hw ▸ h.sane.give id, fun t x hx => ?_, h.apart, ?_, ?_, hp ▸ h.processors⟩
  · rw [hw]
    exact List.mem_cons_of_mem _ (h.owned t x hx)
  · rw [hw, ht]
    exact h.entered
  · rw [hw, ht]
    exact fun t x hx => (h.fits t x hx).aside fun r _ => .give h.sane id

theorem Kept.of_world (h : Order own c') (hw : c'.world = c.world) : Kept locking c c' :=
  ⟨⟨own, h⟩, .inl hw⟩

/-- What a thread asks for is answered as the registry answers it, or the thread waits. -/
theorem ask_cases (tid : Nat) (q : Request) (hS : Finds locking c.world S) :
    (∃ a c', c.ask S tid q = .answered a c' ∧ c.world.Serves locking tid q a c'.world ∧
      c'.threads = c.threads ∧ c'.processors = c.processors) ∨
    c.ask S tid q = .waiting c := by
  obtain ⟨κ, hid, rfl⟩ := hS
  cases q with
  | call q =>
    simp only [Control.ask, Registry.surroundings]
    obtain ⟨o, b, hserve⟩ | hserve := serve_cases locking κ c.world tid q
    · rw [hserve]
      exact .inl ⟨o, _, rfl, ⟨κ, hserve⟩, rfl, rfl⟩
    · rw [hserve]
      exact .inr rfl
  | now => exact .inl ⟨_, c, rfl, rfl, rfl, rfl⟩
  | freshId => exact .inl ⟨_, _, rfl, ⟨hid, rfl⟩, rfl, rfl⟩
  | abandon => exact .inl ⟨_, _, rfl, rfl, rfl, rfl⟩
  | isQueued kind payload => exact .inl ⟨_, c, rfl, rfl, rfl, rfl⟩
  | enqueue o => exact .inl ⟨_, _, rfl, ⟨κ.id, hid, rfl⟩, rfl, rfl⟩

/-- A thread asks for what it is allowed, and goes on with the answer, or waits. -/
theorem Order.resume {α : Type} {wrap : α → Thread} {next : q.Answer → α} (h : Order own c)
    (hS : Finds locking c.world S) (hlt : tid < c.threads.length)
    (hasks : Poses tid (own tid) c.world q fun a own b => (wrap (next a)).Fits tid own b) :
    Kept locking c (Control.resume S tid wrap ((c.ask S tid q).map next id)).2 := by
  obtain ⟨r, rfl, ha, hnext⟩ := hasks
  obtain ⟨a, c', hask, hserves, ht, hp⟩ | hask := ask_cases r.thread q hS
  · rw [hask]
    exact ⟨⟨_, h.serve hlt ha hserves ht hp (hnext locking a c'.world hserves)⟩,
      .inr (.inl ⟨r, _, q, a, ha, hserves⟩)⟩
  · rw [hask]
    exact .of_world h rfl

/-! ### Steps -/

theorem same_settle (tracked : Bool) : Same c (c.settle tracked) := by
  unfold Control.settle
  split <;> exact ⟨rfl, rfl, rfl⟩

theorem Same.trans {c'' : Control Registry} (h : Same c c') (h' : Same c' c'') : Same c c'' :=
  ⟨h'.world.trans h.world, h'.threads.trans h.threads, h'.processors.trans h.processors⟩

/-- A step that leaves the registry alone, after which the thread has something to do that fits. -/
theorem Order.on (h : Order own c) (hs : Same c c') (hf : th.Fits tid (own tid) c.world) :
    Kept locking c (c'.put tid th) :=
  .of_world ((h.same hs).put (hs.world ▸ hf)) hs.world

/-- What a thread turns into by itself fits. -/
theorem Turn.fits {choice : Nat} {drain : Drain} {ids : List Uuid} {th' : Thread}
    (h : Control.Turn S c choice th drain th') (hs : c.world.Sane) (hf : th.Fits tid ids c.world) :
    th'.Fits tid ids c.world := by
  cases h with
  | enters _ => exact hf.2
  | isRefused _ => exact hf.1.settled _
  | starts => exact hf.2
  | finishes ho => exact Work.Fits.settled hs hf ho
  | dispatched => exact Calm.settled hf _
  | rests => exact hf
  | winds => exact hf
  | ticks _ => exact hf
  | stopsTicking _ => exact Calm.settled hf _
  | endsCycle ho =>
    obtain ⟨⟨p, rfl⟩, hw⟩ := hf
    exact hw.calm hs ho
  | sets _ => exact hf
  | cycles _ _ => exact ⟨⟨_, rfl⟩, Work.fits_cycle hs (Policy.survey_behaves _ _ hs hf)⟩
  | skips _ _ => exact hf
  | stopsLooping _ => exact Calm.settled hf _
  | passes => exact Calm.settled hf _

/-- A step of work. -/
theorem Order.stepWork {wrap : Work → Thread} {w : Work} (h : Order own c)
    (hS : Finds locking c.world S) (hth : c.threads[tid]? = some (wrap w))
    (hwrap : Thread.Works wrap) (choice : Nat) :
    Kept locking c (Control.resume S tid wrap (c.stepWork S tid choice w)).2 := by
  have hlt := (List.getElem?_eq_some_iff.mp hth).1
  have hf := h.fits tid _ hth
  unfold Control.stepWork
  split
  · exact .of_world h rfl
  · rename_i q next hpose
    refine h.resume hS hlt ?_
    cases hwrap with
    | working tracked => exact Work.Fits.pose h.sane hf hpose
    | looping policy due stopping =>
      obtain ⟨⟨p, rfl⟩, hw⟩ := hf
      obtain ⟨r, hr, ha, hnext⟩ := hw.pose h.sane hpose
      exact ⟨r, hr, ha, fun locking a b hserves =>
        ⟨Work.cycle_of_pose hpose a, hnext locking a b hserves⟩⟩

/-- The next task is taken, and nothing else happens. -/
theorem take_fits (own : Nat → List Uuid) (tid : Nat) (hc : c.world.Calm tid) :
    Same c (c.take tid).2 ∧ (c.take tid).1.Fits tid (own tid) c.world := by
  unfold Control.take
  split
  · exact ⟨⟨rfl, rfl, rfl⟩, hc⟩
  · exact ⟨⟨rfl, rfl, rfl⟩, hc⟩

/-- A task starts to be processed as the fleet processes it. -/
theorem Order.start_fits (h : Order own c) (t : Task) (hc : c.world.Calm tid) :
    Same c (c.start tid t).2 ∧ (c.start tid t).1.Fits tid (own tid) c.world := by
  unfold Control.start
  split
  · exact ⟨⟨rfl, rfl, rfl⟩, hc⟩
  · rename_i process hp
    split
    · exact ⟨⟨rfl, rfl, rfl⟩, hc⟩
    · exact ⟨⟨rfl, rfl, rfl⟩, (h.processors _ process hp).behaves t.payload h.sane hc⟩

/-- What follows a task is plain. -/
theorem follow_fits {b : Registry} {ids : List Uuid} (f : Option FollowUp)
    (o : Outcome Json.Value) (hs : b.Sane) (hc : b.Calm tid) :
    (Control.follow f o).Fits tid ids b := by
  cases f with
  | none => exact fun b' hb => Calm.beside hc hb
  | some f => exact calm_of_plain hs hc (f.plain_work o)

/-- What becomes of a task after a run. -/
theorem conclude_fits (ids : List Uuid) (t : Task) (o : Outcome Json.Value)
    (hs : c.world.Sane) (hc : c.world.Calm tid) :
    Same c (c.conclude tid t o).2 ∧ (c.conclude tid t o).1.Fits tid ids c.world := by
  unfold Control.conclude
  split
  · exact ⟨⟨rfl, rfl, rfl⟩, follow_fits _ _ hs hc⟩
  · exact ⟨⟨rfl, rfl, rfl⟩, hc⟩
  · split
    · exact ⟨⟨rfl, rfl, rfl⟩, hc⟩
    · exact ⟨⟨rfl, rfl, rfl⟩, follow_fits _ _ hs hc⟩

theorem fits_of_dispatches {wrap : Dispatch → Thread} {ids : List Uuid} {b : Registry}
    {d : Dispatch} (h : Thread.Dispatches wrap) : (wrap d).Fits tid ids b ↔ d.Fits tid ids b := by
  cases h <;> exact Iff.rfl

/-- A step of a dispatch. -/
theorem Order.stepDispatch {wrap : Dispatch → Thread} {d : Dispatch} (h : Order own c)
    (hS : Finds locking c.world S) (hth : c.threads[tid]? = some (wrap d))
    (hwrap : Thread.Dispatches wrap) :
    Kept locking c (Control.resume S tid wrap (c.stepDispatch S tid d)).2 := by
  have hlt := (List.getElem?_eq_some_iff.mp hth).1
  have hd := (fits_of_dispatches hwrap).mp (h.fits tid _ hth)
  have on : ∀ {c'} {d' : Dispatch}, Same c c' → d'.Fits tid (own tid) c.world →
      Kept locking c (c'.put tid (wrap d')) :=
    fun hs hf => h.on hs ((fits_of_dispatches hwrap).mpr hf)
  cases d with
  | arriving => exact on ⟨rfl, rfl, rfl⟩ hd
  | inLine =>
    by_cases hhead : c.line.head? = some tid
    · rw [Control.stepDispatch, if_pos hhead]
      obtain ⟨hs, hf⟩ := take_fits own tid hd
      exact on hs hf
    · rw [Control.stepDispatch, if_neg hhead]
      exact .of_world h rfl
  | holding t => exact on (h.start_fits t hd).1 (h.start_fits t hd).2
  | processing t p =>
    cases p with
    | done o =>
      -- The run has ended, so the thread has to be calm whatever becomes of the task.
      have hs : Same c (c.settle true) := same_settle true
      have hc : c.world.Calm tid := hd _ (.refl h.sane)
      have hf := conclude_fits (c := c.settle true) (own tid) t o h.sane hc
      exact on (hs.trans hf.1) hf.2
    | ask q next =>
      obtain ⟨ha, hnext⟩ := Behaves.asks h.sane hd
      exact h.resume hS hlt ⟨⟨tid, none⟩, rfl, ha, fun locking a b hserves =>
        (fits_of_dispatches hwrap).mpr (hnext locking a b hserves)⟩
  | following p =>
    cases p with
    | done o => exact on ⟨rfl, rfl, rfl⟩ (hd _ (.refl h.sane))
    | ask q next =>
      obtain ⟨ha, hnext⟩ := Behaves.asks h.sane hd
      exact h.resume hS hlt ⟨⟨tid, none⟩, rfl, ha, fun locking a b hserves =>
        (fits_of_dispatches hwrap).mpr (hnext locking a b hserves)⟩
  | done took => exact .of_world h rfl

/-- A thread breaks off that has left nothing undecided. -/
theorem Order.breakOff (h : Order own c) (hS : Finds locking c.world S)
    (hlt : tid < c.threads.length) (hc : c.world.Calm tid) (e : Ending) :
    Kept locking c (c.breakOff S tid e) := by
  obtain ⟨κ, -, rfl⟩ := hS
  unfold Control.breakOff
  split
  · exact .of_world h rfl
  · rename_i th hth
    split
    · exact .of_world h rfl
    · dsimp only
      have hs := same_settle th.isTracked
        (c := { c with world := (Registry.surroundings locking κ).abandon c.world tid })
      generalize Control.settle _ _ = c' at hs ⊢
      have hw : c'.world = c.world.abandon tid := hs.world
      have ha : c.world.Allows ⟨tid, none⟩ (own tid) .abandon := ⟨rfl, fun hr => absurd hr hc.1⟩
      have hserves : c.world.Serves locking tid .abandon () (c'.leaveLine tid).world := hw
      have hc' : (c'.leaveLine tid).world.Calm tid := by
        show c'.world.Calm tid
        rw [hw, Calm, Owes, abandon_eq.2.1]
        exact hc
      exact ⟨⟨_, h.serve (r := ⟨tid, none⟩) hlt ha hserves hs.threads hs.processors
        (hc'.settled e)⟩, .inr (.inl ⟨⟨tid, none⟩, own tid, .abandon, (), ha, hserves⟩)⟩

/-- A stage is passed. -/
theorem Order.pass {stage : Stage} {stages : List Stage} (h : Order own c)
    (hp : c.pass? stage = some (stages, c')) : Order own c' ∧ c'.world = c.world := by
  obtain ⟨c₁, hpassed, hc'⟩ := Control.pass?_cases hp
  have h₁ : Order own c₁ := h.same ⟨hpassed.world, hpassed.threads, hpassed.processors⟩
  obtain rfl | ⟨t, rfl⟩ := hc'
  · exact ⟨h₁, hpassed.world⟩
  · refine ⟨h₁.signal t, ?_⟩
    unfold Control.signal
    split
    · exact hpassed.world
    · exact hpassed.world

/-- A step of a thread keeps the fleet in order. -/
theorem Order.step (h : Order own c) (hS : Finds locking c.world S) (tid choice : Nat) :
    Kept locking c (c.step S tid choice).2 := by
  have hsteps := Control.steps S c tid choice
  generalize (c.step S tid choice).2 = c' at hsteps ⊢
  cases hsteps with
  | stays => exact .of_world h rfl
  | turns hth hturn => exact h.on ⟨rfl, rfl, rfl⟩ (Turn.fits hturn h.sane (h.fits _ _ hth))
  | works hwrap hth _ => exact h.stepWork hS hth hwrap choice
  | dispatches hwrap hth _ => exact h.stepDispatch hS hth hwrap
  | breaks hth _ =>
    exact h.breakOff hS (List.getElem?_eq_some_iff.mp hth).1 (h.fits _ _ hth) _
  | passes hth hp =>
    obtain ⟨h', hw⟩ := h.pass hp
    have hc : c.world.Calm tid := h.fits _ _ hth
    refine .of_world (h'.put ?_) hw
    exact hw ▸ hc

/-! ### Runs -/

/-- Whatever happens keeps the fleet in order. -/
theorem Order.apply {m : Move Registry} (h : Order own c) (hm : May locking c m) :
    Kept locking c (c.apply m) := by
  cases m with
  | step S tid choice => exact h.step hm tid choice
  | begin tracked w =>
    obtain ⟨hc, hu⟩ := h.calm_new
    exact .of_world (h.spawn ⟨hc, IsWork.fits hm h.sane hc hu⟩) rfl
  | receive w =>
    obtain ⟨hc, hu⟩ := h.calm_new
    have hf : (Thread.arriving true w).Fits c.threads.length (own c.threads.length) c.world :=
      ⟨hc, IsWork.fits hm h.sane hc hu⟩
    simp only [Control.apply, Control.receive]
    split
    · exact .of_world ((h.spawn hf).same ⟨rfl, rfl, rfl⟩) rfl
    · exact .of_world h rfl
  | dispatch =>
    have hf : (Thread.dispatching .arriving).Fits c.threads.length (own c.threads.length) c.world :=
      h.calm_new.1
    exact .of_world (h.spawn hf) rfl
  | enqueue S o =>
    obtain ⟨κ, hid, rfl⟩ := hm
    exact ⟨⟨own, h.give rfl rfl rfl⟩, .inr (.inr ⟨κ.id, hid, rfl⟩)⟩
  | register kind process =>
    refine .of_world ⟨h.sane, h.owned, h.apart, h.entered, h.fits, fun k p hk => ?_⟩ rfl
    simp only [Control.apply, Control.register] at hk
    split at hk
    · cases hk
      exact hm
    · exact h.processors k p hk
  | startQueue =>
    simp only [Control.apply, Control.startQueue]
    split
    · exact .of_world h rfl
    · have hf : (Thread.ticking {}).Fits c.threads.length (own c.threads.length) c.world :=
        h.calm_new.1
      exact .of_world ((h.spawn hf).same ⟨rfl, rfl, rfl⟩) rfl
  | startLoop p =>
    have hf : (Thread.looping { policy := p }).Fits c.threads.length (own c.threads.length)
        c.world := h.calm_new.1
    exact .of_world (h.spawn hf) rfl
  | stop stages e =>
    have hf : (Thread.staged stages e).Fits c.threads.length (own c.threads.length) c.world :=
      h.calm_new.1
    exact .of_world (h.spawn hf) rfl
  | pass millis => exact .of_world (h.same ⟨rfl, rfl, rfl⟩) rfl

/-- The fleet is in order at first. -/
theorem Opening.order (ho : Opening c) : Order (fun _ => []) c := by
  have hknown : ∀ i, c.world.Known i → i ∈ c.world.rows := by
    rintro i (hi | ⟨e, he, -⟩)
    · exact hi
    · rw [ho.ledger] at he
      cases he
  refine ⟨⟨ho.nodup, fun i hi => ho.given i (hknown i hi), fun i j hi hj hij => ?_, fun t ht => ?_⟩,
    nofun, nofun, fun e he => ?_, fun t th hth => ?_, fun kind process hp => ?_⟩
  · rw [List.inj_on_of_nodup_map ho.nodup (hknown i hi) (hknown j hj) hij]
  · rw [ho.transaction] at ht
    cases ht
  · rw [ho.ledger] at he
    cases he
  · rw [ho.threads] at hth
    cases hth
  · rw [ho.processors] at hp
    cases hp

/-- The fleet is in order after every run. -/
theorem order_after {ms : List (Move Registry)} (ho : Opening c)
    (hrun : Control.Run (May locking) c ms) : ∃ own, Order own (c.after ms) := by
  refine Control.Run.invariant (I := fun c => ∃ own, Order own c) ⟨_, ho.order⟩ ?_ hrun
  rintro c m ⟨own, h⟩ hm
  exact (h.apply hm).1

/-- Every move of a run does to the registry what it may. -/
theorem moves_after {m : Move Registry} {ms : List (Move Registry)} (ho : Opening c)
    (hrun : Control.Run (May locking) c (m :: ms)) :
    (c.after ms).world.Sane ∧ (c.after ms).world.Moves locking (c.after (m :: ms)).world := by
  obtain ⟨own, h⟩ := order_after ho hrun.1
  exact ⟨h.sane, (h.apply hrun.2).2⟩

/-- Nothing is forgotten in a run. -/
theorem grows_after {later earlier : List (Move Registry)} (ho : Opening c)
    (hrun : Control.Run (May locking) c (later ++ earlier)) :
    (c.after earlier).world.Grows (c.after (later ++ earlier)).world := by
  induction later with
  | nil => exact .refl
  | cons m later ih => exact (ih hrun.1).trans (moves_after ho hrun).2.grows

/-- What holds of the registry at first, and stays true with every allowed change, holds after every
run. -/
theorem registry_after {I : Registry → Prop} {ms : List (Move Registry)} (ho : Opening c)
    (hrun : Control.Run (May locking) c ms) (h₀ : I c.world)
    (hstep : ∀ b b', b.Sane → I b → b.Moves locking b' → I b') : I (c.after ms).world := by
  induction ms with
  | nil => exact h₀
  | cons m ms ih =>
    obtain ⟨hs, hm⟩ := moves_after ho hrun
    exact hstep _ _ hs (ih hrun.1) hm

end Fleet

end GameFleet
