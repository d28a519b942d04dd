import GameFleet.Proofs.Control.Frame

/-!
# What is done with tasks

A task comes to wait, a dispatch takes it, and a run of it starts. Then it waits again, or it ends
and something follows. What a move does with a task is seen from the states before and after it.

- `Hand`: what a thread has in hand of the queue.
- `Deed`: what is done with a task; `Control.deed?`: what a move is seen to do.
- `Control.Steady`: moves among surroundings in which nobody who asks breaks off.
- `Control.IsNew`: a task that has only just come.
- `Control.Does`: all that a move can do to the hands, the line and the queue; `Control.does`: it is
  all, and it is seen.
-/

namespace GameFleet

/-- What a thread has in hand of the queue. -/
inductive Hand where
  | free
  /-- A place in line. -/
  | inLine
  /-- A dispatch, with its task or with what follows the end of it. -/
  | busy (t : Option Task)

/-- The task in a hand. -/
def Hand.task? : Hand → Option Task
  | busy t => t
  | _ => none

namespace Dispatch

/-- What a dispatch means to have in hand. -/
def hand : Dispatch → Hand
  | inLine => .inLine
  | holding t => .busy (some t)
  | processing t _ => .busy (some t)
  | following _ => .busy none
  | _ => .free

end Dispatch

namespace Thread

/-- The dispatch that goes on in a thread. -/
def dispatch? : Thread → Option Dispatch
  | dispatching d => some d
  | ticking t => t.current
  | _ => none

theorem Works.dispatch? {wrap : Work → Thread} (h : Works wrap) (w : Work) :
    (wrap w).dispatch? = none := by
  cases h <;> rfl

theorem Dispatches.dispatch? {wrap : Dispatch → Thread} (h : Dispatches wrap) (d : Dispatch) :
    (wrap d).dispatch? = some d := by
  cases h <;> rfl

/-- What a thread has in hand. -/
def hand (th : Thread) : Hand := (th.dispatch?.map Dispatch.hand).getD .free

end Thread

/-- What is done with a task. -/
inductive Deed where
  /-- It comes to wait. -/
  | came (t : Task)
  /-- A run of it starts. -/
  | ran (t : Task) (p : Running Json.Value)
  /-- It waits again, perhaps changed, with the outcome of its run if it was run. -/
  | back (t t' : Task) (o : Option (Outcome Json.Value))
  /-- Its dispatch ends, with the outcome of its run if it was run, and it does not wait again. -/
  | dropped (t : Task) (o : Option (Outcome Json.Value))
  /-- It ends with the outcome of its run, and something follows. -/
  | ended (t : Task) (o : Outcome Json.Value) (p : Running Unit)

/-- What is seen of a step from the dispatch of its thread before and after it, and from the task
that came to wait with it. -/
def Deed.seen (before after : Option Dispatch) (new : Option Task) : Option Deed :=
  match before, after with
  | some (.holding t), some (.processing _ p) => some (.ran t p)
  | some (.holding t), some (.done _) => some (new.elim (.dropped t none) (.back t · none))
  | some (.processing t (.done o)), some (.done _) =>
    some (new.elim (.dropped t (some o)) (.back t · (some o)))
  | some (.processing t (.done o)), some (.following p) => some (.ended t o p)
  | _, _ => new.map .came

/-- What follows the end of a task. -/
def FollowUp.after (f : Option FollowUp) (o : Outcome Json.Value) : Running Unit :=
  match f with
  | none => .done (.ok ())
  | some f => (f.work o).run

theorem Control.follow_eq (f : Option FollowUp) (o : Outcome Json.Value) :
    Control.follow f o = .following (FollowUp.after f o) := by
  cases f <;> rfl

namespace Control

variable {ω : Type}

/-- What the threads have in hand. -/
def hands (c : Control ω) : List Hand := c.threads.map Thread.hand

/-- The tasks that the threads have in hand. -/
def inHand (c : Control ω) : List Task := c.hands.filterMap Hand.task?

/-- The dispatch that goes on in the thread with a number. -/
def dispatch? (c : Control ω) (tid : Nat) : Option Dispatch := c.threads[tid]?.bind Thread.dispatch?

/-- The task that waits in one state and did not in the state before. -/
def new? (c c' : Control ω) : Option Task :=
  if c.queue.size < c'.queue.size then c'.queue.tasks.getLast? else none

/-- What a move is seen to do with a task. -/
def deed? (c : Control ω) : Move ω → Option Deed
  | .step S tid choice =>
    let c' := (c.step S tid choice).2
    Deed.seen (c.dispatch? tid) (c'.dispatch? tid) (c.new? c')
  | m => (c.new? (c.apply m)).map .came

/-- What was done with tasks in a run, the last first. -/
def deeds (c : Control ω) : List (Move ω) → List Deed
  | [] => []
  | m :: earlier => ((c.after earlier).deed? m).toList ++ c.deeds earlier

/-- Moves among surroundings in which nobody who asks breaks off. -/
def Steady (_ : Control ω) : Move ω → Prop
  | .step S _ _ => ∀ w tid now q w', S.serve w tid now q ≠ .panicked w'
  | _ => True

/-- What the hands, the line and the queue have come to be. Draining has not come to an end. -/
structure Comes (c c' : Control ω) (hands : List Hand) (line : List Nat) (queue : TaskQueue) :
    Prop where
  hands : c'.hands = hands
  line : c'.line = line
  queue : c'.queue = queue
  draining : c.drain.draining = true → c'.drain.draining = true

/-- A task is refused because of draining: there will be no run of it, or its run says so. -/
def Refuses (c : Control ω) (t : Task) (o : Option (Outcome Json.Value)) : Prop :=
  (o = none ∧ c.drain.draining = true ∧ c.processors t.kind ≠ none) ∨
    o = some (.error .shuttingDown)

/-- A task that has only just come: it is due at once, in the last place, and was never run. -/
structure IsNew (c : Control ω) (t : Task) : Prop where
  seq : t.seq = c.queue.nextSeq
  due : t.due = c.elapsed
  attempt : t.attempt = 1

/-- All that a move can do to the hands, the line and the queue. -/
inductive Does (c c' : Control ω) : Option Deed → Prop where
  | nothing (h : Comes c c' c.hands c.line c.queue) : Does c c' none
  | spawns (h : Comes c c' (c.hands ++ [.free]) c.line c.queue) : Does c c' none
  | enqueues {t : Task} (hnew : c.IsNew t)
    (h : Comes c c' c.hands c.line ⟨c.queue.tasks ++ [t], c.queue.nextSeq + 1⟩) :
    Does c c' (some (.came t))
  | joins {tid : Nat} (hhand : c.hands[tid]? = some .free)
    (h : Comes c c' (c.hands.set tid .inLine) (c.line ++ [tid]) c.queue) : Does c c' none
  | takes {tid : Nat} {t : Task} (hhand : c.hands[tid]? = some .inLine)
    (hhead : c.line.head? = some tid)
    (hfirst : TaskQueue.earliest? c.elapsed c.queue.tasks = some t)
    (h : Comes c c' (c.hands.set tid (.busy (some t))) c.line
      ⟨TaskQueue.without t.seq c.queue.tasks, c.queue.nextSeq⟩) : Does c c' none
  | leaves {tid : Nat} {hand : Hand} (hhand : c.hands[tid]? = some hand) (hnone : hand.task? = none)
    (h : Comes c c' (c.hands.set tid .free) (c.line.erase tid) c.queue) : Does c c' none
  | runs {tid : Nat} {t : Task} {process : Json.Value → Op Json.Value}
    (hhand : c.hands[tid]? = some (.busy (some t))) (hd : c.drain.draining = false)
    (hp : c.processors t.kind = some process) (h : Comes c c' c.hands c.line c.queue) :
    Does c c' (some (.ran t (process t.payload).run))
  | drops {tid : Nat} {t : Task} (hhand : c.hands[tid]? = some (.busy (some t)))
    (hp : c.processors t.kind = none)
    (h : Comes c c' (c.hands.set tid .free) (c.line.erase tid) c.queue) :
    Does c c' (some (.dropped t none))
  | returns {tid : Nat} {t : Task} {o : Option (Outcome Json.Value)}
    (hhand : c.hands[tid]? = some (.busy (some t))) (ho : c.Refuses t o)
    (h : Comes c c' (c.hands.set tid .free) (c.line.erase tid) (c.queue.putBack t)) :
    Does c c' (some (.back t t o))
  | retries {tid : Nat} {t t' : Task} {f : Failure}
    (hhand : c.hands[tid]? = some (.busy (some t))) (hf : f ≠ .shuttingDown)
    (hmore : t.attempt < t.policy.maxRuns) (hattempt : t'.attempt = t.attempt + 1)
    (hsame : t'.id = t.id ∧ t'.toTaskOrder = t.toTaskOrder)
    (hlater : t'.seq = c.queue.nextSeq ∧ t'.due = c.elapsed + t.policy.delay t.attempt)
    (h : Comes c c' (c.hands.set tid .free) (c.line.erase tid)
      ⟨c.queue.tasks ++ [t'], c.queue.nextSeq + 1⟩) :
    Does c c' (some (.back t t' (some (.error f))))
  | succeeds {tid : Nat} {t : Task} {v : Json.Value}
    (hhand : c.hands[tid]? = some (.busy (some t)))
    (h : Comes c c' (c.hands.set tid (.busy none)) c.line c.queue) :
    Does c c' (some (.ended t (.ok v) (FollowUp.after t.onSuccess (.ok v))))
  | fails {tid : Nat} {t : Task} {f : Failure} (hhand : c.hands[tid]? = some (.busy (some t)))
    (hf : f ≠ .shuttingDown) (hlast : t.policy.maxRuns ≤ t.attempt)
    (h : Comes c c' (c.hands.set tid (.busy none)) c.line c.queue) :
    Does c c' (some (.ended t (.error f) (FollowUp.after t.onError (.error f))))

variable {S : Surroundings ω} {c c' c₁ : Control ω} {tid : Nat} {th th' : Thread} {d : Dispatch}
  {q : Request}

/-! ### What is seen -/

/-- A dispatch that stays as it is shows nothing. -/
theorem seen_same (d : Option Dispatch) (new : Option Task) :
    Deed.seen d d new = new.map .came := by
  cases d with
  | none => rfl
  | some d =>
    cases d with
    | processing t p => cases p <;> rfl
    | _ => rfl

theorem new?_eq_none (h : c'.queue.size ≤ c.queue.size) : c.new? c' = none :=
  if_neg (Nat.not_lt.mpr h)

theorem new?_eq_some {t : Task} (h : c'.queue.tasks = c.queue.tasks ++ [t]) :
    c.new? c' = some t := by
  unfold new?
  rw [if_pos (by simp [TaskQueue.size, h]), h, List.getLast?_concat]

/-- What a step of a thread is seen to do is what it does. -/
def DoesBy (c c' : Control ω) (tid : Nat) : Prop :=
  Does c c' (Deed.seen (c.dispatch? tid) (c'.dispatch? tid) (c.new? c'))

theorem hands_eq (h : c'.threads = c.threads) : c'.hands = c.hands := by
  unfold hands
  rw [h]

@[simp] theorem hands_put : (c.put tid th).hands = c.hands.set tid th.hand := List.map_set

theorem hand_at (h : c.threads[tid]? = some th) : c.hands[tid]? = some th.hand := by
  unfold hands
  rw [List.getElem?_map, h, Option.map_some]

theorem dispatch?_at (h : c.threads[tid]? = some th) : c.dispatch? tid = th.dispatch? := by
  unfold dispatch?
  rw [h, Option.bind_some]

/-- A thread with the same in hand as before leaves the hands as they were. -/
theorem hands_set (h : c.threads[tid]? = some th) : c.hands.set tid th.hand = c.hands := by
  obtain ⟨hlt, heq⟩ := List.getElem?_eq_some_iff.mp (hand_at h)
  rw [← heq, List.set_getElem_self]

theorem hand_eq (h : th.dispatch? = some d) : th.hand = d.hand := by
  unfold Thread.hand
  rw [h, Option.map_some, Option.getD_some]

/-- A step that ends in a thread's having gone on, from what is seen of it. -/
theorem DoesBy.put {e : Option Deed} (hth : c.threads[tid]? = some th) (hh : c₁.hands = c.hands)
    (hseen : Deed.seen th.dispatch? th'.dispatch? (c.new? c₁) = e)
    (h : Does c (c₁.put tid th') e) : DoesBy c (c₁.put tid th') tid := by
  have hlt : tid < c₁.threads.length := by
    have := congrArg List.length hh
    unfold hands at this
    rw [List.length_map, List.length_map] at this
    rw [this]
    exact (List.getElem?_eq_some_iff.mp hth).1
  have hafter : (c₁.put tid th').dispatch? tid = th'.dispatch? := by
    refine dispatch?_at ?_
    exact List.getElem?_set_self hlt
  unfold DoesBy
  rw [dispatch?_at hth, hafter]
  exact hseen ▸ h

/-- A thread goes on, and has the same in hand as before. -/
theorem DoesBy.still (hth : c.threads[tid]? = some th) (h : Comes c c₁ c.hands c.line c.queue)
    (hhand : th'.hand = th.hand)
    (hseen : Deed.seen th.dispatch? th'.dispatch? none = none) : DoesBy c (c₁.put tid th') tid := by
  refine .put hth h.hands ?_ (.nothing ⟨?_, h.line, h.queue, h.draining⟩)
  · rw [new?_eq_none (Nat.le_of_eq (congrArg TaskQueue.size h.queue)), hseen]
  · rw [hands_put, h.hands, hhand, hands_set hth]

theorem Comes.refl : Comes c c c.hands c.line c.queue := ⟨rfl, rfl, rfl, id⟩

theorem DoesBy.refl : DoesBy c c tid := by
  unfold DoesBy
  rw [seen_same, new?_eq_none (Nat.le_refl _)]
  exact .nothing .refl

/-! ### What threads ask for -/

/-- To be served changes at most the queue, to which a task may come. -/
structure Asked (c c' : Control ω) : Prop where
  threads : c'.threads = c.threads
  line : c'.line = c.line
  draining : c'.drain = c.drain
  queue : c'.queue = c.queue ∨
    ∃ t, c.IsNew t ∧ c'.queue = ⟨c.queue.tasks ++ [t], c.queue.nextSeq + 1⟩

/-- Among steady surroundings whoever asks is answered, or waits. -/
theorem ask_cases (hS : ∀ w tid now q w', S.serve w tid now q ≠ .panicked w') (c : Control ω)
    (tid : Nat) (q : Request) :
    (∃ a c', c.ask S tid q = .answered a c' ∧ Asked c c') ∨
    ∃ c', c.ask S tid q = .waiting c' ∧ Asked c c' ∧ c'.queue = c.queue := by
  cases q with
  | call q =>
    simp only [ask]
    cases hserve : S.serve c.world tid c.elapsed q with
    | answered o w => exact .inl ⟨o, _, rfl, rfl, rfl, rfl, .inl rfl⟩
    | waiting w => exact .inr ⟨_, rfl, ⟨rfl, rfl, rfl, .inl rfl⟩, rfl⟩
    | panicked w => exact absurd hserve (hS _ _ _ _ _)
  | now => exact .inl ⟨_, _, rfl, rfl, rfl, rfl, .inl rfl⟩
  | freshId => exact .inl ⟨_, _, rfl, rfl, rfl, rfl, .inl rfl⟩
  | abandon => exact .inl ⟨_, _, rfl, rfl, rfl, rfl, .inl rfl⟩
  | isQueued kind payload => exact .inl ⟨_, _, rfl, rfl, rfl, rfl, .inl rfl⟩
  | enqueue o => exact .inl ⟨_, _, rfl, rfl, rfl, rfl, .inr ⟨_, ⟨rfl, rfl, rfl⟩, rfl⟩⟩

/-- A thread asks for something, and has the same in hand afterwards. -/
theorem DoesBy.resume {α : Type} {wrap : α → Thread} {next : q.Answer → α}
    (hS : ∀ w tid now q w', S.serve w tid now q ≠ .panicked w') (hth : c.threads[tid]? = some th)
    (hhand : ∀ a, (wrap (next a)).hand = th.hand)
    (hseen : ∀ a new, Deed.seen th.dispatch? (wrap (next a)).dispatch? new = new.map .came) :
    DoesBy c (Control.resume S tid wrap ((c.ask S tid q).map next id)).2 tid := by
  obtain ⟨a, c₁, hask, hasked⟩ | ⟨c₁, hask, hasked, hq⟩ := ask_cases hS c tid q
  · rw [hask]
    show DoesBy c (c₁.put tid (wrap (next a))) tid
    have hdrain : c.drain.draining = true → c₁.drain.draining = true :=
      fun h => hasked.draining ▸ h
    obtain hq | ⟨t, hnew, hq⟩ := hasked.queue
    · exact .still hth ⟨hands_eq hasked.threads, hasked.line, hq, hdrain⟩ (hhand a) (hseen a none)
    · refine .put hth (hands_eq hasked.threads) ?_ (.enqueues hnew ⟨?_, hasked.line, hq, hdrain⟩)
      · rw [new?_eq_some (congrArg TaskQueue.tasks hq), hseen a]
        rfl
      · rw [hands_put, hands_eq hasked.threads, hhand a, hands_set hth]
  · rw [hask]
    show DoesBy c c₁ tid
    unfold DoesBy
    have hsame : c₁.dispatch? tid = c.dispatch? tid := by
      unfold dispatch?
      rw [hasked.threads]
    rw [hsame, seen_same, new?_eq_none (Nat.le_of_eq (congrArg TaskQueue.size hq))]
    exact .nothing ⟨hands_eq hasked.threads, hasked.line, hq, fun h => hasked.draining ▸ h⟩

/-- A step of work that is no dispatch. -/
theorem DoesBy.work {wrap : Work → Thread} {w : Work}
    (hS : ∀ w tid now q w', S.serve w tid now q ≠ .panicked w') (hth : c.threads[tid]? = some th)
    (hd : th.dispatch? = none) (hwrap : ∀ w, (wrap w).dispatch? = none) (choice : Nat) :
    DoesBy c (Control.resume S tid wrap (c.stepWork S tid choice w)).2 tid := by
  unfold Control.stepWork
  split
  · exact .refl
  · refine .resume hS hth (fun a => ?_) fun a new => ?_
    · unfold Thread.hand
      rw [hd, hwrap]
    · rw [hd, hwrap]
      exact seen_same none new

/-! ### Dispatches -/

/-- The task that is taken is the first that is due, and the others wait on. -/
theorem takeDue_eq {queue queue' : TaskQueue} {now : Nat} {t : Task}
    (h : queue.takeDue now = some (t, queue')) :
    TaskQueue.earliest? now queue.tasks = some t ∧
      queue' = ⟨TaskQueue.without t.seq queue.tasks, queue.nextSeq⟩ := by
  unfold TaskQueue.takeDue at h
  obtain ⟨s, hs, h⟩ := Option.map_eq_some_iff.mp h
  cases h
  exact ⟨hs, rfl⟩

section

variable {wrap : Dispatch → Thread} {d' : Dispatch} {t : Task} {o : Outcome Json.Value}

theorem hand_at_dispatch (hth : c.threads[tid]? = some th) (hd : th.dispatch? = some d) :
    c.hands[tid]? = some d.hand := by
  rw [hand_at hth, hand_eq hd]

theorem Comes.put (hwrap : ∀ d, (wrap d).dispatch? = some d) (ht : c₁.threads = c.threads)
    (hdrain : c.drain.draining = true → c₁.drain.draining = true) :
    Comes c (c₁.put tid (wrap d')) (c.hands.set tid d'.hand) c₁.line c₁.queue := by
  refine ⟨?_, rfl, rfl, hdrain⟩
  rw [hands_put, hands_eq ht, hand_eq (hwrap d')]

/-- A dispatch goes on, and no task comes to wait. -/
theorem DoesBy.on (hwrap : ∀ d, (wrap d).dispatch? = some d) (hth : c.threads[tid]? = some th)
    (hd : th.dispatch? = some d) (ht : c₁.threads = c.threads)
    (hq : c₁.queue.size ≤ c.queue.size)
    (h : Does c (c₁.put tid (wrap d')) (Deed.seen (some d) (some d') none)) :
    DoesBy c (c₁.put tid (wrap d')) tid := by
  refine .put hth (hands_eq ht) ?_ h
  rw [hd, hwrap, new?_eq_none hq]

/-- A dispatch goes on, and a task comes to wait. -/
theorem DoesBy.onto (hwrap : ∀ d, (wrap d).dispatch? = some d) (hth : c.threads[tid]? = some th)
    (hd : th.dispatch? = some d) (ht : c₁.threads = c.threads)
    (hq : c₁.queue.tasks = c.queue.tasks ++ [t])
    (h : Does c (c₁.put tid (wrap d')) (Deed.seen (some d) (some d') (some t))) :
    DoesBy c (c₁.put tid (wrap d')) tid := by
  refine .put hth (hands_eq ht) ?_ h
  rw [hd, hwrap, new?_eq_some hq]

/-- The thread that is first in line takes a task, or leaves. -/
theorem DoesBy.take (hwrap : ∀ d, (wrap d).dispatch? = some d) (hth : c.threads[tid]? = some th)
    (hd : th.dispatch? = some .inLine) (hhead : c.line.head? = some tid) :
    DoesBy c ((c.take tid).2.put tid (wrap (c.take tid).1)) tid := by
  have hhand : c.hands[tid]? = some .inLine := hand_at_dispatch hth hd
  unfold Control.take
  split
  · exact .on hwrap hth hd rfl (Nat.le_refl _) (.leaves hhand rfl (.put hwrap rfl id))
  · rename_i t queue htake
    obtain ⟨hfirst, rfl⟩ := takeDue_eq htake
    exact .on hwrap hth hd rfl List.length_eraseP_le
      (.takes hhand hhead hfirst (.put hwrap rfl id))

/-- Tracked work that is admitted starts before draining. -/
theorem draining_of_enter? {drain drain' : Drain} (h : drain.enter? = some drain') :
    drain.draining = false := by
  refine Bool.eq_false_iff.mpr fun hno => ?_
  rw [drain.enter?_eq_none_iff.mpr hno] at h
  cases h

/-- A task that was taken is dropped, waits again, or is run. -/
theorem DoesBy.start (hwrap : ∀ d, (wrap d).dispatch? = some d)
    (hth : c.threads[tid]? = some th) (hd : th.dispatch? = some (.holding t)) :
    DoesBy c ((c.start tid t).2.put tid (wrap (c.start tid t).1)) tid := by
  have hhand : c.hands[tid]? = some (.busy (some t)) := hand_at_dispatch hth hd
  unfold Control.start
  split
  · rename_i hp
    exact .on hwrap hth hd rfl (Nat.le_refl _) (.drops hhand hp (.put hwrap rfl id))
  · rename_i process hp
    split
    · rename_i hno
      have hrefuses : c.Refuses t none := by
        refine .inl ⟨rfl, c.drain.enter?_eq_none_iff.mp hno, ?_⟩
        rw [hp]
        exact Option.some_ne_none _
      exact .onto hwrap hth hd rfl rfl (.returns hhand hrefuses (.put hwrap rfl id))
    · rename_i drain hdrain
      have hno := draining_of_enter? hdrain
      -- The task stays in hand while it is run.
      refine .on hwrap hth hd rfl (Nat.le_refl _) (.runs hhand hno hp ?_)
      have hcomes : Comes c
          (({ c with drain } : Control ω).put tid (wrap (.processing t (process t.payload).run)))
          (c.hands.set tid (.busy (some t))) c.line c.queue := by
        refine .put hwrap rfl fun h => ?_
        rw [hno] at h
        cases h
      have hset : c.hands.set tid (.busy (some t)) = c.hands := by
        have := hands_set hth
        rwa [hand_eq hd] at this
      exact ⟨hcomes.hands.trans hset, hcomes.line, hcomes.queue, hcomes.draining⟩

/-- A run of a task has come to its end. -/
theorem DoesBy.conclude (hwrap : ∀ d, (wrap d).dispatch? = some d)
    (hth : c.threads[tid]? = some th) (hd : th.dispatch? = some (.processing t (.done o))) :
    DoesBy c (((c.settle true).conclude tid t o).2.put tid
      (wrap ((c.settle true).conclude tid t o).1)) tid := by
  have hhand : c.hands[tid]? = some (.busy (some t)) := hand_at_dispatch hth hd
  unfold Control.conclude
  split
  · rw [follow_eq]
    exact .on hwrap hth hd rfl (Nat.le_refl _) (.succeeds hhand (.put hwrap rfl id))
  · exact .onto hwrap hth hd rfl rfl (.returns hhand (.inr rfl) (.put hwrap rfl id))
  · rename_i f hf
    split
    · rename_i hmore
      exact .onto hwrap hth hd rfl rfl
        (.retries hhand hf hmore rfl ⟨rfl, rfl⟩ ⟨rfl, rfl⟩ (.put hwrap rfl id))
    · rename_i hlast
      rw [follow_eq]
      exact .on hwrap hth hd rfl (Nat.le_refl _)
        (.fails hhand hf (Nat.le_of_not_lt hlast) (.put hwrap rfl id))

/-- A step of a dispatch. -/
theorem DoesBy.stepDispatch (hS : ∀ w tid now q w', S.serve w tid now q ≠ .panicked w')
    (hwrap : ∀ d, (wrap d).dispatch? = some d) (hth : c.threads[tid]? = some th)
    (hd : th.dispatch? = some d) :
    DoesBy c (Control.resume S tid wrap (c.stepDispatch S tid d)).2 tid := by
  -- A program that goes on leaves its dispatch with the same in hand.
  have hasks : ∀ {q : Request} {next : q.Answer → Dispatch}, (∀ a, (next a).hand = d.hand) →
      (∀ a new, Deed.seen (some d) (some (next a)) new = new.map .came) →
      DoesBy c (Control.resume S tid wrap ((c.ask S tid q).map next id)).2 tid := by
    intro q next hhand hseen
    refine .resume hS hth (fun a => ?_) fun a new => ?_
    · rw [hand_eq (hwrap _), hand_eq hd]
      exact hhand a
    · rw [hd, hwrap]
      exact hseen a new
  match d, hd with
  | .arriving, hd =>
    have hhand : c.hands[tid]? = some .free := hand_at_dispatch hth hd
    exact .on hwrap hth hd rfl (Nat.le_refl _) (.joins hhand (.put hwrap rfl id))
  | .inLine, hd =>
    by_cases hhead : c.line.head? = some tid
    · rw [Control.stepDispatch, if_pos hhead]
      exact .take hwrap hth hd hhead
    · rw [Control.stepDispatch, if_neg hhead]
      exact .refl
  | .holding t, hd => exact .start hwrap hth hd
  | .processing t (.done o), hd => exact .conclude hwrap hth hd
  | .processing t (.ask q next), hd => exact hasks (fun _ => rfl) fun _ _ => rfl
  | .following (.done o), hd =>
    have hhand : c.hands[tid]? = some (.busy none) := hand_at_dispatch hth hd
    exact .on hwrap hth hd rfl (Nat.le_refl _) (.leaves hhand rfl (.put hwrap rfl id))
  | .following (.ask q next), hd => exact hasks (fun _ => rfl) fun _ _ => rfl
  | .done took, hd => exact .refl

end

/-! ### Other threads -/

theorem settle_comes (tracked : Bool) : Comes c (c.settle tracked) c.hands c.line c.queue := by
  unfold settle
  split <;> exact ⟨rfl, rfl, rfl, id⟩

/-- A thread that is in no dispatch breaks off. -/
theorem DoesBy.breakOff (hth : c.threads[tid]? = some th) (hd : th.dispatch? = none) (e : Ending) :
    DoesBy c (c.breakOff S tid e) tid := by
  have hhand : c.hands[tid]? = some .free := by
    rw [hand_at hth, Thread.hand, hd]
    rfl
  unfold Control.breakOff
  rw [hth]
  dsimp only
  split
  · exact .refl
  · have hs := settle_comes (c := { c with world := S.abandon c.world tid }) th.isTracked
    generalize Control.settle _ _ = c₁ at hs ⊢
    have hnew : c.new? (c₁.leaveLine tid) = none :=
      new?_eq_none (Nat.le_of_eq (congrArg TaskQueue.size hs.queue))
    have hseen : Deed.seen th.dispatch? (Thread.ended e).dispatch? (c.new? (c₁.leaveLine tid))
        = none := by
      rw [hd, hnew]
      rfl
    refine .put hth hs.hands hseen (.leaves hhand rfl ⟨?_, ?_, hs.queue, hs.draining⟩)
    · rw [hands_put]
      exact congrArg (·.set tid .free) hs.hands
    · exact congrArg (·.erase tid) hs.line

theorem signal_comes (t : Nat) : Comes c (c.signal t) c.hands c.line c.queue := by
  unfold signal
  split
  · exact .refl
  · rename_i th hth
    have hsame : th.signalled.hand = th.hand := by
      cases th <;> rfl
    exact ⟨by rw [hands_put, hsame, hands_set hth], rfl, rfl, id⟩

theorem Passed.comes (h : Passed c c₁) : Comes c c₁ c.hands c.line c.queue := by
  refine ⟨hands_eq h.threads, h.line, h.queue, fun hdraining => ?_⟩
  obtain hd | hd := h.drain
  · rw [hd]
    exact hdraining
  · rw [hd]
    rfl

/-- A stage that is passed changes neither the hands nor the line nor the queue. -/
theorem pass?_comes {stage : Stage} {stages : List Stage} (h : c.pass? stage = some (stages, c')) :
    Comes c c' c.hands c.line c.queue := by
  obtain ⟨c₁, hpassed, rfl | ⟨t, rfl⟩⟩ := pass?_cases h
  · exact hpassed.comes
  · have hc := hpassed.comes
    have hs := signal_comes (c := c₁) t
    exact ⟨hs.hands.trans hc.hands, hs.line.trans hc.line, hs.queue.trans hc.queue,
      fun h => hs.draining (hc.draining h)⟩

section

variable {choice : Nat} {drain : Drain}

/-- A thread that turns by itself has nothing in hand. -/
theorem Turn.hand (h : Turn S c choice th drain th') : th.hand = .free ∧ th'.hand = .free := by
  cases h <;> exact ⟨rfl, rfl⟩

theorem Turn.seen (h : Turn S c choice th drain th') :
    Deed.seen th.dispatch? th'.dispatch? none = none := by
  cases h <;> rfl

theorem Turn.draining (h : Turn S c choice th drain th') (hdraining : c.drain.draining = true) :
    drain.draining = true := by
  cases h with
  | enters h =>
    rw [draining_of_enter? h] at hdraining
    cases hdraining
  | cycles _ h =>
    rw [draining_of_enter? h] at hdraining
    cases hdraining
  | finishes _ => exact (settle_comes _).draining hdraining
  | endsCycle _ => exact (settle_comes _).draining hdraining
  | _ => exact hdraining

end

/-- A step does what it is seen to do. -/
theorem DoesBy.step (hS : ∀ w tid now q w', S.serve w tid now q ≠ .panicked w')
    (c : Control ω) (tid choice : Nat) : DoesBy c (c.step S tid choice).2 tid := by
  have hsteps := steps S c tid choice
  generalize (c.step S tid choice).2 = c' at hsteps ⊢
  cases hsteps with
  | stays => exact .refl
  | turns hth h =>
    exact .still hth ⟨rfl, rfl, rfl, h.draining⟩ (h.hand.2.trans h.hand.1.symm) h.seen
  | works hwrap hth _ => exact .work hS hth (hwrap.dispatch? _) hwrap.dispatch? choice
  | dispatches hwrap hth _ => exact .stepDispatch hS hwrap.dispatch? hth (hwrap.dispatch? _)
  | breaks hth _ => exact .breakOff hth rfl _
  | passes hth hp => exact .still hth (pass?_comes hp) rfl rfl

/-- Another thread comes, with nothing in hand. -/
theorem spawn_comes (hd : th.hand = .free) :
    Comes c (c.spawn th).1 (c.hands ++ [.free]) c.line c.queue := by
  refine ⟨?_, rfl, rfl, id⟩
  show (c.threads ++ [th]).map Thread.hand = c.threads.map Thread.hand ++ [.free]
  rw [List.map_append, List.map_singleton, hd]

/-- A move does what it is seen to do. -/
theorem does {m : Move ω} (hm : Steady c m) : Does c (c.apply m) (c.deed? m) := by
  -- Of the moves that are no steps only one adds to the queue; the others show nothing.
  have hnone : ∀ {c' : Control ω}, c'.queue = c.queue → (c.new? c').map Deed.came = none := by
    intro c' hq
    rw [new?_eq_none (Nat.le_of_eq (congrArg TaskQueue.size hq)), Option.map_none]
  have hspawns : ∀ {c' : Control ω}, Comes c c' (c.hands ++ [.free]) c.line c.queue →
      Does c c' ((c.new? c').map Deed.came) := by
    intro c' h
    rw [hnone h.queue]
    exact .spawns h
  have hnothing : ∀ {c' : Control ω}, Comes c c' c.hands c.line c.queue →
      Does c c' ((c.new? c').map Deed.came) := by
    intro c' h
    rw [hnone h.queue]
    exact .nothing h
  cases m with
  | step S tid choice => exact DoesBy.step hm c tid choice
  | begin tracked w => exact hspawns (spawn_comes rfl)
  | receive w =>
    show Does c (c.receive w) ((c.new? (c.receive w)).map Deed.came)
    unfold receive
    split
    · have hs : Comes c (c.spawn (.arriving true w)).1 _ _ _ := spawn_comes rfl
      exact hspawns ⟨hs.hands, hs.line, hs.queue, hs.draining⟩
    · exact hnothing .refl
  | dispatch => exact hspawns (spawn_comes rfl)
  | enqueue S o =>
    show Does c (c.enqueue S o) ((c.new? (c.enqueue S o)).map Deed.came)
    rw [new?_eq_some rfl]
    exact .enqueues ⟨rfl, rfl, rfl⟩ ⟨rfl, rfl, rfl, id⟩
  | register kind process => exact hnothing ⟨rfl, rfl, rfl, id⟩
  | startQueue =>
    show Does c c.startQueue ((c.new? c.startQueue).map Deed.came)
    unfold startQueue
    split
    · exact hnothing .refl
    · have hs : Comes c (c.spawn (.ticking {})).1 _ _ _ := spawn_comes rfl
      exact hspawns ⟨hs.hands, hs.line, hs.queue, hs.draining⟩
  | startLoop p => exact hspawns (spawn_comes rfl)
  | stop stages e => exact hspawns (spawn_comes rfl)
  | pass millis => exact hnothing ⟨rfl, rfl, rfl, id⟩

end Control

end GameFleet
