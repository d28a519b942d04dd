import GameFleet.Proofs.Queue.Deeds

/-!
# What is over when stages were passed

The program runs a ticker, loops and the threads of requests, and one thread stops them all, stage
by stage. What a stage waits for stays over, so when the last stage was passed all of it is.

- `Move.IsService`: what happens to the program while it serves.
- `Thread.Becomes`: what a thread can be after a step of its own.
- `Control.Staffed`: there are no other threads than those.
- `Stage.IsPast`: what is so once a stage was passed; `Stage.IsPast.apply`: it stays so.
- `Control.Shutting`: how far the thread has come that stops them all.
-/

namespace GameFleet

/-- What happens to the program while it serves: a thread takes a step among surroundings in which
nobody who asks breaks off, a request is received, a task comes, or time passes. -/
def Move.IsService {ω : Type} : Move ω → Prop
  | .step S _ _ => ∀ w tid now q w', S.serve w tid now q ≠ .panicked w'
  | .receive _ => True
  | .enqueue _ _ => True
  | .pass _ => True
  | _ => False

namespace Thread

/-- What a thread can be after a step of its own. -/
inductive Becomes : Thread → Thread → Prop where
  | same (th : Thread) : Becomes th th
  | ends (th : Thread) (e : Ending) : Becomes th (.ended e)
  | starts (tracked : Bool) (w : Work) : Becomes (.arriving tracked w) (.working tracked w)
  | works (tracked : Bool) (w w' : Work) : Becomes (.working tracked w) (.working tracked w')
  | dispatches (d d' : Dispatch) : Becomes (.dispatching d) (.dispatching d')
  | ticks (t t' : Ticker) : Becomes (.ticking t) (.ticking t')
  | loops (l l' : PolicyLoop) : Becomes (.looping l) (.looping l')
  | passes (stages stages' : List Stage) (e : Ending) :
    Becomes (.staged stages e) (.staged stages' e)

theorem Works.becomes {wrap : Work → Thread} (h : Works wrap) (w w' : Work) :
    (wrap w).Becomes (wrap w') := by
  cases h with
  | working tracked => exact .works tracked w w'
  | looping policy due stopping => exact .loops _ _

theorem Dispatches.becomes {wrap : Dispatch → Thread} (h : Dispatches wrap) (d d' : Dispatch) :
    (wrap d).Becomes (wrap d') := by
  cases h with
  | dispatching => exact .dispatches d d'
  | ticking due stopping => exact .ticks _ _

/-- The thread with a number is where it belongs: the ticker's number is zero, those of the loops,
of the requests and of the thread that stops them are given. -/
def HasPost (loops requests : List Nat) (main k : Nat) : Thread → Prop
  | arriving tracked _ => tracked = true ∧ k ∈ requests
  | working _ _ => k ∈ requests
  | dispatching _ => False
  | ticking _ => k = 0
  | looping _ => k ∈ loops
  | staged _ _ => k = main
  | ended _ => True

variable {loops requests requests' : List Nat} {main k : Nat} {th th' : Thread}

theorem HasPost.becomes (h : th.HasPost loops requests main k) (hb : th.Becomes th') :
    th'.HasPost loops requests main k := by
  cases hb with
  | ends _ e => trivial
  | starts tracked w => exact h.2
  | _ => exact h

theorem HasPost.mono (h : th.HasPost loops requests main k) (hr : requests ⊆ requests') :
    th.HasPost loops requests' main k := by
  cases th with
  | arriving tracked w => exact ⟨h.1, hr h.2⟩
  | working tracked w => exact hr h
  | _ => exact h

theorem HasPost.signalled (h : th.HasPost loops requests main k) :
    th.signalled.HasPost loops requests main k := by
  cases th <;> exact h

end Thread

namespace Control

variable {ω : Type} {S : Surroundings ω} {c c' c₁ : Control ω} {k tid choice main : Nat}
  {th th' : Thread} {loops : List Nat} {m : Move ω}

/-! ### Steps of threads -/

theorem Turn.becomes {drain : Drain} (h : Turn S c choice th drain th') : th.Becomes th' := by
  cases h with
  | enters _ => exact .starts true _
  | starts => exact .starts false _
  | rests => exact .ticks _ _
  | winds => exact .ticks _ _
  | ticks _ => exact .ticks _ _
  | endsCycle _ => exact .loops _ _
  | sets _ => exact .loops _ _
  | cycles _ _ => exact .loops _ _
  | skips _ _ => exact .loops _ _
  | _ => exact .ends _ _

/-- A thread that is put in the place of one that there is. -/
theorem exists_put {P : Thread → Prop} (hth : c.threads[k]? = some th)
    (hc : c₁.threads.length = c.threads.length) (h : P th') :
    ∃ th'', (c₁.put k th').threads[k]? = some th'' ∧ P th'' := by
  have hlt : k < c₁.threads.length := hc ▸ (List.getElem?_eq_some_iff.mp hth).1
  exact ⟨th', List.getElem?_set_self hlt, h⟩

theorem becomes_breakOff (hth : c.threads[k]? = some th) (e : Ending) :
    ∃ th', (c.breakOff S k e).threads[k]? = some th' ∧ th.Becomes th' := by
  unfold breakOff
  rw [hth]
  dsimp only
  split
  · exact ⟨th, hth, .same th⟩
  · refine exists_put hth ?_ (.ends th e)
    exact congrArg List.length (threads_settle (c := { c with world := _ }) _)

theorem becomes_resume {α : Type} {wrap : α → Thread} {x : Served α (Control ω)}
    (hth : c.threads[k]? = some th) (hx : x.state.threads = c.threads)
    (h : ∀ a, th.Becomes (wrap a)) :
    ∃ th', (resume S k wrap x).2.threads[k]? = some th' ∧ th.Becomes th' := by
  cases x with
  | answered a c₁ => exact exists_put hth (congrArg List.length hx) (h a)
  | waiting c₁ => exact ⟨th, hx ▸ hth, .same th⟩
  | panicked c₁ =>
    have hth₁ : c₁.threads[k]? = some th := by
      rw [← hth]
      exact congrArg (·[k]?) hx
    exact becomes_breakOff hth₁ _

/-- A thread takes a step. -/
theorem becomes_step (hth : c.threads[k]? = some th) :
    ∃ th', (c.step S k choice).2.threads[k]? = some th' ∧ th.Becomes th' := by
  have hsteps := steps S c k choice
  generalize (c.step S k choice).2 = c' at hsteps ⊢
  cases hsteps with
  | stays => exact ⟨th, hth, .same th⟩
  | @turns th₀ th' drain hth₀ h =>
    obtain rfl := Option.some.inj (hth₀.symm.trans hth)
    exact exists_put hth rfl h.becomes
  | works hwrap hth₀ _ =>
    obtain rfl := Option.some.inj (hth₀.symm.trans hth)
    exact becomes_resume hth (threads_stepWork _ _) fun w' => hwrap.becomes _ w'
  | dispatches hwrap hth₀ _ =>
    obtain rfl := Option.some.inj (hth₀.symm.trans hth)
    exact becomes_resume hth (threads_stepDispatch _) fun d' => hwrap.becomes _ d'
  | breaks _ _ => exact becomes_breakOff hth _
  | passes hth₀ hp =>
    obtain rfl := Option.some.inj (hth₀.symm.trans hth)
    obtain ⟨c₁, hpassed, rfl | ⟨s, rfl⟩⟩ := pass?_cases hp
    · exact exists_put hth (congrArg List.length hpassed.threads) (.passes _ _ _)
    · refine exists_put hth ?_ (.passes _ _ _)
      rw [length_signal, hpassed.threads]

/-! ### The threads of the program -/

/-- What is known about requests, and who is in charge of the queue, is the same. -/
structure Aside (c c' : Control ω) : Prop where
  requests : c'.requests = c.requests
  serving : c'.serving = c.serving
  ticker : c'.ticker = c.ticker

theorem Aside.trans {c'' : Control ω} (h : Aside c c') (h' : Aside c' c'') : Aside c c'' :=
  ⟨h'.requests.trans h.requests, h'.serving.trans h.serving, h'.ticker.trans h.ticker⟩

theorem settle_aside (tracked : Bool) : Aside c (c.settle tracked) := by
  unfold settle
  split <;> exact ⟨rfl, rfl, rfl⟩

theorem signal_aside (s : Nat) : Aside c (c.signal s) := by
  unfold signal
  split <;> exact ⟨rfl, rfl, rfl⟩

theorem breakOff_aside (e : Ending) : Aside c (c.breakOff S k e) := by
  unfold breakOff
  split
  · exact ⟨rfl, rfl, rfl⟩
  · split
    · exact ⟨rfl, rfl, rfl⟩
    · rename_i th _ _
      have h : Aside { c with world := S.abandon c.world k }
        (({ c with world := S.abandon c.world k } : Control ω).settle th.isTracked) :=
        settle_aside _
      exact ⟨h.requests, h.serving, h.ticker⟩

theorem ask_aside (q : Request) : Aside c (c.ask S k q).state := by
  cases q with
  | call q =>
    simp only [ask]
    cases S.serve c.world k c.elapsed q <;> exact ⟨rfl, rfl, rfl⟩
  | _ => exact ⟨rfl, rfl, rfl⟩

theorem resume_aside {α : Type} {wrap : α → Thread} {x : Served α (Control ω)}
    (h : Aside c x.state) : Aside c (resume S k wrap x).2 := by
  cases x with
  | answered a c₁ => exact ⟨h.requests, h.serving, h.ticker⟩
  | waiting c₁ => exact h
  | panicked c₁ =>
    have h : Aside c c₁ := h
    exact h.trans (breakOff_aside _)

theorem stepWork_aside (w : Work) : Aside c (c.stepWork S k choice w).state := by
  unfold stepWork
  split
  · exact ⟨rfl, rfl, rfl⟩
  · rw [state_map]
    exact ask_aside _

theorem start_aside (t : Task) : Aside c (c.start k t).2 := by
  unfold start
  split
  · exact ⟨rfl, rfl, rfl⟩
  · split <;> exact ⟨rfl, rfl, rfl⟩

theorem take_aside : Aside c (c.take k).2 := by
  unfold take
  split <;> exact ⟨rfl, rfl, rfl⟩

theorem conclude_aside (t : Task) (o : Outcome Json.Value) : Aside c (c.conclude k t o).2 := by
  unfold conclude
  split
  · exact ⟨rfl, rfl, rfl⟩
  · exact ⟨rfl, rfl, rfl⟩
  · split <;> exact ⟨rfl, rfl, rfl⟩

theorem stepDispatch_aside (d : Dispatch) : Aside c (c.stepDispatch S k d).state := by
  match d with
  | .arriving => exact ⟨rfl, rfl, rfl⟩
  | .inLine =>
    rw [stepDispatch]
    split
    · exact take_aside
    · exact ⟨rfl, rfl, rfl⟩
  | .holding t => exact start_aside t
  | .processing t (.done o) => exact (settle_aside true).trans (conclude_aside t o)
  | .processing t (.ask q next) =>
    rw [stepDispatch, state_map]
    exact ask_aside q
  | .following (.done _) => exact ⟨rfl, rfl, rfl⟩
  | .following (.ask q next) =>
    rw [stepDispatch, state_map]
    exact ask_aside q
  | .done _ => exact ⟨rfl, rfl, rfl⟩

/-- Only a thread that passes a stage changes anything of it. -/
theorem step_aside (S : Surroundings ω) (c : Control ω) (k choice : Nat) :
    Aside c (c.step S k choice).2 ∨ ∃ stage rest e stages c',
      c.threads[k]? = some (.staged (stage :: rest) e) ∧ c.pass? stage = some (stages, c') ∧
      (c.step S k choice).2 = c'.put k (.staged (stages ++ rest) e) := by
  have hsteps := steps S c k choice
  generalize (c.step S k choice).2 = c' at hsteps ⊢
  cases hsteps with
  | stays => exact .inl ⟨rfl, rfl, rfl⟩
  | turns _ _ => exact .inl ⟨rfl, rfl, rfl⟩
  | works _ _ _ => exact .inl (resume_aside (stepWork_aside _))
  | dispatches _ _ _ => exact .inl (resume_aside (stepDispatch_aside _))
  | breaks _ _ => exact .inl (breakOff_aside _)
  | passes hth hp => exact .inr ⟨_, _, _, _, _, hth, hp, rfl⟩

/-- When a stage is passed, requests are known as before, none is received that was not before, and
unless the ticker is dismissed, it is in charge as before. -/
theorem pass?_aside {stage : Stage} {stages : List Stage} (h : c.pass? stage = some (stages, c')) :
    c'.requests = c.requests ∧ (c.serving = false → c'.serving = false) ∧
      (stage ≠ .dismissTicker → c'.ticker = c.ticker) := by
  have hsame : c' = c → c'.requests = c.requests ∧ (c.serving = false → c'.serving = false) ∧
      (stage ≠ .dismissTicker → c'.ticker = c.ticker) := by
    rintro rfl
    exact ⟨rfl, id, fun _ => rfl⟩
  cases stage with
  | closeServer =>
    cases h
    exact ⟨rfl, fun _ => rfl, fun _ => rfl⟩
  | signal t =>
    cases h
    have h : Aside c (c.signal t) := signal_aside t
    exact ⟨h.requests, h.serving.trans, fun _ => h.ticker⟩
  | dismissTicker =>
    rw [pass?] at h
    split at h <;> cases h
    · exact hsame rfl
    · rename_i t _
      have h : Aside { c with ticker := none } (({ c with ticker := none } : Control ω).signal t) :=
        signal_aside t
      exact ⟨h.requests, h.serving.trans, fun hne => absurd rfl hne⟩
  | beginDrain =>
    cases h
    exact ⟨rfl, id, fun _ => rfl⟩
  | clearRunning =>
    cases h
    exact ⟨rfl, id, fun _ => rfl⟩
  | awaitRequests =>
    rw [pass?] at h
    split at h <;> cases h
    exact hsame rfl
  | await t =>
    rw [pass?] at h
    split at h <;> cases h
    exact hsame rfl
  | awaitSettled =>
    rw [pass?] at h
    split at h <;> cases h
    exact hsame rfl

theorem step_requests (S : Surroundings ω) (c : Control ω) (k choice : Nat) :
    (c.step S k choice).2.requests = c.requests ∧
      (c.serving = false → (c.step S k choice).2.serving = false) := by
  obtain h | ⟨stage, rest, e, stages, c', -, hp, heq⟩ := step_aside S c k choice
  · exact ⟨h.requests, h.serving.trans⟩
  · rw [heq]
    have h := pass?_aside hp
    exact ⟨h.1, h.2.1⟩

theorem length_breakOff (e : Ending) :
    (c.breakOff S k e).threads.length = c.threads.length := by
  unfold breakOff
  split
  · rfl
  · split
    · rfl
    · show (List.set _ _ _).length = _
      rw [List.length_set]
      exact congrArg List.length (threads_settle (c := { c with world := S.abandon c.world k }) _)

theorem length_resume {α : Type} {wrap : α → Thread} {x : Served α (Control ω)}
    (hx : x.state.threads = c.threads) :
    (resume S k wrap x).2.threads.length = c.threads.length := by
  cases x with
  | answered a c₁ => exact List.length_set.trans (congrArg List.length hx)
  | waiting c₁ => exact congrArg List.length hx
  | panicked c₁ => exact (length_breakOff _).trans (congrArg List.length hx)

/-- No thread comes with a step of one. -/
theorem length_step (S : Surroundings ω) (c : Control ω) (k choice : Nat) :
    (c.step S k choice).2.threads.length = c.threads.length := by
  have hsteps := steps S c k choice
  generalize (c.step S k choice).2 = c' at hsteps ⊢
  cases hsteps with
  | stays => rfl
  | turns _ _ => exact List.length_set
  | works _ _ _ => exact length_resume (threads_stepWork _ _)
  | dispatches _ _ _ => exact length_resume (threads_stepDispatch _)
  | breaks _ _ => exact length_breakOff _
  | passes _ hp =>
    obtain ⟨c₁, hpassed, rfl | ⟨s, rfl⟩⟩ := pass?_cases hp
    · exact List.length_set.trans (congrArg List.length hpassed.threads)
    · exact List.length_set.trans ((length_signal s).trans (congrArg List.length hpassed.threads))

/-- There are no other threads than those of the program: the ticker, loops, requests, and the
thread that stops them. -/
structure Staffed (loops : List Nat) (main : Nat) (c : Control ω) : Prop where
  posts : ∀ (k : Nat) (th : Thread), c.threads[k]? = some th → th.HasPost loops c.requests main k
  known : ∀ k ∈ 0 :: (loops ++ c.requests), k < c.threads.length

/-- A thread of the program stays at its post. -/
theorem Staffed.step (h : Staffed loops main c) (S : Surroundings ω) (tid choice : Nat) :
    Staffed loops main (c.step S tid choice).2 := by
  have hrequests := (step_requests S c tid choice).1
  -- Each thread that there was is there, and at its post.
  have hthread : ∀ (k : Nat) (th : Thread), c.threads[k]? = some th → ∃ th' : Thread,
      (c.step S tid choice).2.threads[k]? = some th' ∧ th'.HasPost loops c.requests main k := by
    intro k th hth
    by_cases hk : k = tid
    · subst hk
      obtain ⟨th', hth', hb⟩ := becomes_step hth
      exact ⟨th', hth', (h.posts k th hth).becomes hb⟩
    · obtain hleaves | hleaves : Leaves k c (c.step S tid choice).2 := step_leaves choice hk
      · exact ⟨th, hleaves.trans hth, h.posts k th hth⟩
      · rw [hth] at hleaves
        exact ⟨th.signalled, hleaves, (h.posts k th hth).signalled⟩
  have hlen : (c.step S tid choice).2.threads.length = c.threads.length :=
    length_step S c tid choice
  constructor
  · intro k th' hth'
    have hlt : k < c.threads.length := hlen ▸ (List.getElem?_eq_some_iff.mp hth').1
    obtain ⟨th'', hth'', hpost⟩ := hthread k _ (List.getElem?_eq_getElem hlt)
    obtain rfl := Option.some.inj (hth'.symm.trans hth'')
    rw [hrequests]
    exact hpost
  · rw [hrequests, hlen]
    exact h.known

/-- A thread that comes has a post. -/
theorem Staffed.spawn (h : Staffed loops main c) {requests : List Nat}
    (hr : c.requests ⊆ requests) (hlt : ∀ k ∈ requests, k < c.threads.length + 1)
    (hth : th.HasPost loops requests main c.threads.length) :
    Staffed loops main { (c.spawn th).1 with requests } := by
  constructor
  · intro k th' hth'
    change (c.threads ++ [th])[k]? = some th' at hth'
    by_cases hk : k < c.threads.length
    · rw [List.getElem?_append_left hk] at hth'
      exact (h.posts k th' hth').mono hr
    · rw [List.getElem?_append_right (Nat.le_of_not_lt hk), List.getElem?_singleton] at hth'
      split at hth'
      · cases hth'
        have hk : k = c.threads.length := by omega
        rwa [hk]
      · cases hth'
  · intro k hk
    show k < (c.threads ++ [th]).length
    rw [List.length_append, List.length_singleton]
    rcases List.mem_cons.mp hk with rfl | hk
    · omega
    · rcases List.mem_append.mp hk with hk | hk
      · have := h.known k (List.mem_cons_of_mem 0 (List.mem_append_left _ hk))
        omega
      · exact hlt k hk

theorem Staffed.apply (h : Staffed loops main c) (hm : m.IsService) :
    Staffed loops main (c.apply m) := by
  cases m with
  | step S tid choice => exact h.step S tid choice
  | receive w =>
    simp only [Control.apply, receive]
    split
    · have hpost : (Thread.arriving true w).HasPost loops (c.requests ++ [c.threads.length]) main
          c.threads.length := ⟨rfl, List.mem_append_right _ (List.mem_singleton_self _)⟩
      refine h.spawn (List.subset_append_left _ _) (fun k hk => ?_) hpost
      rcases List.mem_append.mp hk with hk | hk
      · have := h.known k (List.mem_cons_of_mem 0 (List.mem_append_right _ hk))
        omega
      · rw [List.mem_singleton.mp hk]
        exact Nat.lt_succ_self _
    · exact h
  | enqueue S o => exact ⟨h.posts, h.known⟩
  | pass millis => exact ⟨h.posts, h.known⟩
  | _ => exact hm.elim

/-! ### What is over -/

/-- A thread has ended. -/
def Ended (c : Control ω) (k : Nat) : Prop := ∃ e, c.threads[k]? = some (.ended e)

theorem ended_of_hasEnded (hk : k < c.threads.length) (h : c.hasEnded k = true) : c.Ended k := by
  unfold hasEnded at h
  rw [List.getElem?_eq_getElem hk] at h
  generalize hth : c.threads[k] = th at h
  cases th with
  | ended e => exact ⟨e, by rw [List.getElem?_eq_getElem hk, hth]⟩
  | _ => cases h

theorem Ended.apply (h : c.Ended k) (m : Move ω) : (c.apply m).Ended k :=
  h.imp fun _ he => ended_apply he m

end Control

/-- What is so once a stage was passed. -/
def Stage.IsPast {ω : Type} (c : Control ω) : Stage → Prop
  | closeServer => c.serving = false
  | awaitRequests => c.serving = false ∧ ∀ k ∈ c.requests, c.Ended k
  | await k => c.Ended k
  | _ => True

/-- The stages of stopping the program up to the end of draining. -/
def Stage.quieting (loops : List Nat) : List Stage :=
  [.closeServer, .awaitRequests] ++ loops.flatMap stopLoop ++ draining

/-- The stages of stopping the ticker that was in charge. -/
def Stage.stopTicker : List Stage := [.await 0, .clearRunning]

namespace Control

variable {ω : Type} {S : Surroundings ω} {c c' c₁ : Control ω} {k tid choice main : Nat}
  {th th' : Thread} {loops : List Nat} {m : Move ω} {stage : Stage}
  {passed rest stages : List Stage} {e : Ending}

/-- Once no request is received, none is known that was not before. -/
theorem requests_apply (hm : m.IsService) (h : c.serving = false) :
    (c.apply m).requests = c.requests ∧ (c.apply m).serving = false := by
  cases m with
  | step S tid choice =>
    obtain ⟨hrequests, hserving⟩ := step_requests S c tid choice
    exact ⟨hrequests, hserving h⟩
  | receive w =>
    simp only [apply, receive]
    rw [h]
    exact ⟨rfl, h⟩
  | enqueue S o => exact ⟨rfl, h⟩
  | pass millis => exact ⟨rfl, h⟩
  | _ => exact hm.elim

/-- What is over stays over. -/
theorem isPast_apply (hm : m.IsService) (h : stage.IsPast c) : stage.IsPast (c.apply m) := by
  cases stage with
  | closeServer => exact (requests_apply hm h).2
  | awaitRequests =>
    obtain ⟨hserving, hended⟩ := h
    obtain ⟨hrequests, hserving'⟩ := requests_apply hm hserving
    refine ⟨hserving', fun k hk => ?_⟩
    rw [hrequests] at hk
    exact (hended k hk).apply m
  | await k => exact Ended.apply h m
  | _ => trivial

/-! ### The thread that stops the program -/

/-- What is over once a stage is passed. -/
theorem isPast_of_pass? (hs : Staffed loops main c) (hm : m.IsService)
    (hp : c.pass? stage = some (stages, c')) (heq : c.apply m = c'.put main th)
    (hne : stage ≠ .dismissTicker) (hclosed : stage = .awaitRequests → c.serving = false)
    (hknown : ∀ k, stage = .await k → k ∈ 0 :: loops) :
    stages = [] ∧ stage.IsPast (c.apply m) := by
  cases stage with
  | closeServer =>
    cases hp
    exact ⟨rfl, by rw [heq]; rfl⟩
  | awaitRequests =>
    rw [pass?] at hp
    split at hp <;> cases hp
    rename_i hall
    -- The server is closed, so these are all the requests there will be.
    refine ⟨rfl, isPast_apply hm ⟨hclosed rfl, fun k hk => ?_⟩⟩
    refine ended_of_hasEnded (hs.known k ?_) (List.all_eq_true.mp hall k hk)
    exact List.mem_cons_of_mem 0 (List.mem_append_right _ hk)
  | await k =>
    rw [pass?] at hp
    split at hp <;> cases hp
    rename_i hended
    have hk : k ∈ 0 :: (loops ++ c.requests) := List.mem_append_left c.requests (hknown k rfl)
    have hpast : (Stage.await k).IsPast c := ended_of_hasEnded (hs.known k hk) hended
    exact ⟨rfl, isPast_apply hm hpast⟩
  | awaitSettled =>
    rw [pass?] at hp
    split at hp <;> cases hp
    exact ⟨rfl, trivial⟩
  | dismissTicker => exact absurd rfl hne
  | _ =>
    cases hp
    exact ⟨rfl, trivial⟩

theorem mem_quieting (h : stage ∈ Stage.quieting loops) :
    stage ≠ .dismissTicker ∧ ∀ k, stage = .await k → k ∈ loops := by
  simp only [Stage.quieting, Stage.stopLoop, Stage.draining, List.mem_append, List.mem_cons,
    List.mem_flatMap, List.not_mem_nil, or_false] at h
  obtain ((rfl | rfl) | ⟨k, hk, rfl | rfl⟩) | rfl | rfl := h
  · exact ⟨nofun, nofun⟩
  · exact ⟨nofun, nofun⟩
  · exact ⟨nofun, nofun⟩
  · exact ⟨nofun, fun _ h => Stage.await.inj h ▸ hk⟩
  · exact ⟨nofun, nofun⟩
  · exact ⟨nofun, nofun⟩

/-- The server was closed before its requests are awaited. -/
theorem closeServer_mem (h : passed ++ .awaitRequests :: rest = Stage.quieting loops) :
    .closeServer ∈ passed := by
  cases passed with
  | nil => cases h
  | cons stage passed =>
    obtain rfl : stage = .closeServer := (List.cons.inj h).1
    exact List.mem_cons_self

/-- A thread that stops the program has come to some stages, and what it has passed is over. The
ticker is in charge until it is dismissed. -/
inductive Shutting (loops : List Nat) (c : Control ω) : List Stage → Prop where
  | quiets {passed rest : List Stage} (heq : passed ++ rest = Stage.quieting loops)
    (hticker : c.ticker = some 0) (hpast : ∀ stage ∈ passed, stage.IsPast c) :
    Shutting loops c (rest ++ Stage.stopQueue)
  | dismissed {passed rest : List Stage} (heq : passed ++ rest = Stage.stopTicker)
    (hpast : ∀ stage ∈ Stage.quieting loops ++ passed, stage.IsPast c) : Shutting loops c rest

theorem Shutting.apply (h : Shutting loops c rest) (hm : m.IsService)
    (hticker : (c.apply m).ticker = c.ticker) : Shutting loops (c.apply m) rest := by
  cases h with
  | quiets heq ht hpast =>
    exact .quiets heq (hticker.trans ht) fun stage hmem => isPast_apply hm (hpast stage hmem)
  | dismissed heq hpast => exact .dismissed heq fun stage hmem => isPast_apply hm (hpast stage hmem)

/-- A stage is passed. -/
theorem Shutting.passes (hs : Staffed loops main c) (hm : m.IsService)
    (h : Shutting loops c (stage :: rest)) (hp : c.pass? stage = some (stages, c'))
    (heq : c.apply m = c'.put main th) : Shutting loops (c.apply m) (stages ++ rest) := by
  -- A stage is over that was passed now, and what was over before still is.
  have hpasses : ∀ (passed : List Stage), (∀ s ∈ passed, s.IsPast c) → stage.IsPast (c.apply m) →
      ∀ s ∈ passed ++ [stage], s.IsPast (c.apply m) := by
    intro passed hpast hnow s hmem
    rcases List.mem_append.mp hmem with hmem | hmem
    · exact isPast_apply hm (hpast s hmem)
    · rwa [List.mem_singleton.mp hmem]
  generalize hx : stage :: rest = x at h
  cases h with
  | @quiets passed ahead hall hticker hpast =>
    cases ahead with
    | nil =>
      -- The ticker is dismissed.
      cases hx
      rw [pass?, hticker] at hp
      cases hp
      rw [List.append_nil] at hall ⊢
      have hahead : [] ++ Stage.stopTicker = Stage.stopTicker := rfl
      refine .dismissed hahead fun s hmem => ?_
      rw [List.append_nil, ← hall] at hmem
      exact isPast_apply hm (hpast s hmem)
    | cons s ahead =>
      -- A stage up to the end of draining is passed, and the ticker stays in charge.
      cases hx
      obtain ⟨hne, hknown⟩ := mem_quieting (hall ▸ List.mem_append_right passed List.mem_cons_self)
      obtain ⟨rfl, hnow⟩ := isPast_of_pass? hs hm hp heq hne
        (fun h => hpast .closeServer (closeServer_mem (h ▸ hall)))
        fun k hk => List.mem_cons_of_mem 0 (hknown k hk)
      have hall : (passed ++ [stage]) ++ ahead = Stage.quieting loops := by
        rw [List.append_assoc]
        exact hall
      refine .quiets hall ?_ (hpasses passed hpast hnow)
      rw [heq]
      exact ((pass?_aside hp).2.2 hne).trans hticker
  | @dismissed passed ahead hall hpast =>
    -- Only the end of the ticker and the flag of the queue are left.
    subst hx
    have hmem : stage ∈ Stage.stopTicker := hall ▸ List.mem_append_right passed List.mem_cons_self
    have hstage : stage = .await 0 ∨ stage = .clearRunning := by
      simpa [Stage.stopTicker] using hmem
    obtain ⟨rfl, hnow⟩ : stages = [] ∧ stage.IsPast (c.apply m) := by
      refine isPast_of_pass? hs hm hp heq ?_ ?_ ?_
      · rintro rfl
        cases hstage <;> contradiction
      · rintro rfl
        cases hstage <;> contradiction
      · rintro k rfl
        obtain h | h := hstage
        · cases h
          exact List.mem_cons_self
        · cases h
    have hall : (passed ++ [stage]) ++ rest = Stage.stopTicker := by
      rw [List.append_assoc]
      exact hall
    refine .dismissed hall ?_
    rw [← List.append_assoc]
    exact hpasses _ hpast hnow

/-- The thread that stops the program has come to some stages, or has ended. -/
inductive AtStage (loops : List Nat) (c : Control ω) : Option Thread → Prop where
  | ahead {rest : List Stage} (h : Shutting loops c rest) :
    AtStage loops c (some (.staged rest .stopped))
  | past (e : Ending) (h : Shutting loops c []) : AtStage loops c (some (.ended e))

/-- Only the thread that stops the program dismisses the ticker. -/
theorem ticker_apply (hs : Staffed loops main c) (hm : m.IsService) :
    (c.apply m).ticker = c.ticker ∨ ∃ stage rest e stages c',
      c.threads[main]? = some (.staged (stage :: rest) e) ∧ c.pass? stage = some (stages, c') ∧
      c.apply m = c'.put main (.staged (stages ++ rest) e) := by
  cases m with
  | step S tid choice =>
    obtain h | ⟨stage, rest, e, stages, c', hth, hp, heq⟩ := step_aside S c tid choice
    · exact .inl h.ticker
    · -- No other thread goes through stages.
      obtain rfl : tid = main := hs.posts tid _ hth
      exact .inr ⟨stage, rest, e, stages, c', hth, hp, heq⟩
  | receive w =>
    left
    simp only [apply, receive]
    split <;> rfl
  | enqueue S o => exact .inl rfl
  | pass millis => exact .inl rfl
  | _ => exact hm.elim

theorem thread_of_pass? (hth : c.threads[k]? = some th) (hp : c.pass? stage = some (stages, c')) :
    (c'.put k th').threads[k]? = some th' := by
  refine List.getElem?_set_self (Decidable.byContradiction fun hlt => ?_)
  obtain h | h : Leaves k c c' := pass?_leaves hp
  all_goals
    rw [List.getElem?_eq_none (Nat.le_of_not_lt hlt), hth] at h
    cases h

/-- The thread that stops the program goes on. -/
theorem AtStage.apply (hs : Staffed loops main c) (hm : m.IsService)
    (h : AtStage loops c c.threads[main]?) :
    AtStage loops (c.apply m) (c.apply m).threads[main]? := by
  generalize hth : c.threads[main]? = x at h
  obtain hticker | ⟨stage, rest, e, stages, c', hth', hp, heq⟩ := ticker_apply hs hm
  · cases h with
    | past e h =>
      rw [ended_apply hth m]
      exact .past e (h.apply hm hticker)
    | @ahead rest h =>
      cases rest with
      | nil =>
        obtain h' | h' := passed_apply hth m
        · rw [h']
          exact .ahead (h.apply hm hticker)
        · rw [h']
          exact .past _ (h.apply hm hticker)
      | cons stage rest =>
        obtain h' | ⟨stages, c', hp, heq⟩ := staged_apply hth m
        · rw [h']
          exact .ahead (h.apply hm hticker)
        · have hnext := h.passes hs hm hp heq
          rw [heq] at hnext ⊢
          rw [thread_of_pass? hth hp]
          exact .ahead hnext
  · rw [hth'] at hth
    cases hth
    cases h with
    | ahead h =>
      have hnext := h.passes hs hm hp heq
      rw [heq] at hnext ⊢
      rw [thread_of_pass? hth' hp]
      exact .ahead hnext

/-- When the thread has ended that stops the program, so have all others. -/
theorem AtStage.isEnded (hs : Staffed loops main c) (h : AtStage loops c (some (.ended e)))
    (hmain : c.Ended main) : ∀ th ∈ c.threads, th.isEnded = true := by
  have hpast : ∀ stage ∈ Stage.quieting loops ++ Stage.stopTicker, stage.IsPast c := by
    cases h with
    | past e h =>
      generalize hx : [] = x at h
      cases h with
      | quiets => cases List.append_eq_nil_iff.mp hx.symm |>.2
      | dismissed heq hpast =>
        subst hx
        rw [List.append_nil] at heq
        rwa [← heq]
  have hawait : ∀ k, .await k ∈ Stage.quieting loops ++ Stage.stopTicker → c.Ended k :=
    fun k hk => hpast (.await k) hk
  have hrequests : ∀ k ∈ c.requests, c.Ended k :=
    (hpast .awaitRequests (List.mem_append_left _ (by simp [Stage.quieting]))).2
  -- Each thread has a post, and for each post some stage has waited.
  intro th hth
  obtain ⟨k, hk⟩ := List.mem_iff_getElem?.mp hth
  have hended : c.Ended k → th.isEnded = true := by
    rintro ⟨e, he⟩
    obtain rfl := Option.some.inj (he.symm.trans hk)
    rfl
  have hpost := hs.posts k th hk
  cases th with
  | arriving tracked w => exact hended (hrequests k hpost.2)
  | working tracked w => exact hended (hrequests k hpost)
  | dispatching d => exact hpost.elim
  | ticking t =>
    obtain rfl : k = 0 := hpost
    exact hended (hawait 0 (List.mem_append_right _ (by simp [Stage.stopTicker])))
  | looping l =>
    refine hended (hawait k (List.mem_append_left _ ?_))
    have hmem : .await k ∈ loops.flatMap Stage.stopLoop :=
      List.mem_flatMap.mpr ⟨k, hpost, by simp [Stage.stopLoop]⟩
    simp [Stage.quieting, hmem]
  | staged stages e =>
    obtain rfl : k = main := hpost
    exact hended hmain
  | ended e => rfl

end Control

end GameFleet
