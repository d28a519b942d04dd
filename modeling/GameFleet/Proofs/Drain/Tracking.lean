import GameFleet.Proofs.Control.Frame

/-!
# What is tracked

Tracked work goes on in threads, one piece in each. How much of it there is, is counted apart from
the threads, and the count has to stay right whatever a thread does.

- `Control.flags`: which threads do tracked work.
- `Drain.Follows`: what becomes of draining when a thread goes on.
- `Control.Tracks`: all that can happen to tracked work at once: `Control.tracks_apply` and
  `Control.tracks_breakOff` say that it is all.
- `Control.Counted`: the count is right; `Control.Tracks.counted`: it stays right.
-/

namespace GameFleet

/-- What becomes of draining when a thread goes on: tracked work starts in it, or ends in it, or
neither. -/
inductive Drain.Follows (d : Drain) : (before after : Bool) → Drain → Prop where
  | same (tracked : Bool) : Follows d tracked tracked d
  | starts {e : Drain} (h : d.enter? = some e) : Follows d false true e
  | ends : Follows d true false d.settle

theorem Drain.enter?_eq_some {d e : Drain} (h : d.enter? = some e) :
    d.draining = false ∧ e = { d with inFlight := d.inFlight + 1 } := by
  unfold enter? at h
  split at h
  · cases h
  · rename_i hd
    exact ⟨Bool.eq_false_iff.mpr hd, (Option.some.inj h).symm⟩

theorem Thread.isTracked_signalled (th : Thread) : th.signalled.isTracked = th.isTracked := by
  cases th <;> rfl

/-- Work is tracked or not, however far it has come. -/
theorem Thread.Works.isTracked {wrap : Work → Thread} (h : Works wrap) (w w' : Work) :
    (wrap w).isTracked = (wrap w').isTracked := by
  cases h <;> rfl

theorem Thread.Dispatches.isTracked {wrap : Dispatch → Thread} (h : Dispatches wrap)
    (d : Dispatch) : (wrap d).isTracked = d.isTracked := by
  cases h <;> rfl

namespace Control

variable {ω : Type}

/-- Which threads do tracked work. -/
def flags (c : Control ω) : List Bool := c.threads.map Thread.isTracked

/-- Whether a thread does tracked work. -/
def isTracked (c : Control ω) (tid : Nat) : Bool := (c.flags[tid]?).getD false

/-- A step of a thread begins draining. -/
def BeginsDrain (c : Control ω) : Move ω → Prop
  | .step _ tid _ => ∃ rest e, c.threads[tid]? = some (.staged (.beginDrain :: rest) e)
  | _ => False

/-- All that can happen to tracked work at once; draining only begins where it may. -/
inductive Tracks (may : Prop) (c c' : Control ω) : Prop where
  | rests (hf : c'.flags = c.flags) (hd : c'.drain = c.drain)
  | begins (h : may) (hf : c'.flags = c.flags) (hd : c'.drain = c.drain.begin)
  | spawns (hf : c'.flags = c.flags ++ [false]) (hd : c'.drain = c.drain)
  | starts {tid : Nat} (hb : c.flags[tid]? = some false) (hf : c'.flags = c.flags.set tid true)
    (hd : c.drain.enter? = some c'.drain)
  | settles {tid : Nat} (hb : c.flags[tid]? = some true) (hf : c'.flags = c.flags.set tid false)
    (hd : c'.drain = c.drain.settle)

/-- The count of tracked work is right. -/
def Counted (c : Control ω) : Prop := c.drain.inFlight = c.threads.countP Thread.isTracked

variable {S : Surroundings ω} {c c' c₁ : Control ω} {tid choice : Nat} {th th' : Thread}
  {may : Prop}

theorem flags_eq (h : c'.threads = c.threads) : c'.flags = c.flags := by
  unfold flags
  rw [h]

@[simp] theorem flags_put : (c.put tid th).flags = c.flags.set tid th.isTracked := List.map_set

theorem flag_at (h : c.threads[tid]? = some th) : c.flags[tid]? = some th.isTracked := by
  unfold flags
  rw [List.getElem?_map, h, Option.map_some]

theorem isTracked_at (h : c.threads[tid]? = some th) : c.isTracked tid = th.isTracked := by
  unfold isTracked
  rw [flag_at h, Option.getD_some]

theorem flags_signal (t : Nat) : (c.signal t).flags = c.flags := by
  unfold signal
  split
  · rfl
  · rename_i th hth
    obtain ⟨hlt, heq⟩ := List.getElem?_eq_some_iff.mp (flag_at hth)
    rw [flags_put, th.isTracked_signalled, ← heq, List.set_getElem_self]

/-! ### What a thread does -/

/-- A thread goes on, and draining follows. -/
theorem Tracks.put (hth : c.threads[tid]? = some th) (hc : c₁.threads = c.threads)
    (h : c.drain.Follows th.isTracked th'.isTracked c₁.drain) : Tracks may c (c₁.put tid th') := by
  have hflag := flag_at hth
  have hflags : (c₁.put tid th').flags = c.flags.set tid th'.isTracked := by
    rw [flags_put, flags_eq hc]
  generalize th.isTracked = before at h hflag
  generalize th'.isTracked = after at h hflags
  generalize hdrain : c₁.drain = drain at h
  cases h with
  | same =>
    -- The flag is set to what it was.
    refine .rests ?_ hdrain
    obtain ⟨hlt, heq⟩ := List.getElem?_eq_some_iff.mp hflag
    rw [hflags, ← heq, List.set_getElem_self]
  | starts h => exact .starts hflag hflags (h.trans (congrArg some hdrain.symm))
  | ends => exact .settles hflag hflags hdrain

theorem Tracks.of_eq (ht : c'.threads = c.threads) (hd : c'.drain = c.drain) : Tracks may c c' :=
  .rests (flags_eq ht) hd

/-- Nothing else of a state counts than which threads do tracked work and how far draining has
come. -/
theorem Tracks.congr {c₂ : Control ω} (h : Tracks may c c') (hf : c₁.flags = c.flags)
    (hd : c₁.drain = c.drain) (hf' : c₂.flags = c'.flags) (hd' : c₂.drain = c'.drain) :
    Tracks may c₁ c₂ := by
  cases h with
  | rests h h' => exact .rests (by rw [hf', h, hf]) (by rw [hd', h', hd])
  | begins hmay h h' => exact .begins hmay (by rw [hf', h, hf]) (by rw [hd', h', hd])
  | spawns h h' => exact .spawns (by rw [hf', h, hf]) (by rw [hd', h', hd])
  | starts hb h h' => exact .starts (by rw [hf, hb]) (by rw [hf', h, hf]) (by rw [hd, h', hd'])
  | settles hb h h' => exact .settles (by rw [hf, hb]) (by rw [hf', h, hf]) (by rw [hd', h', hd])

theorem follows_settle (c : Control ω) (tracked : Bool) :
    c.drain.Follows tracked false (c.settle tracked).drain := by
  cases tracked with
  | true => exact .ends
  | false => exact .same false

theorem Turn.follows {drain : Drain} (h : Turn S c choice th drain th') :
    c.drain.Follows th.isTracked th'.isTracked drain := by
  cases h with
  | enters h => exact .starts h
  | cycles _ h => exact .starts h
  | @finishes tracked _ _ _ => exact follows_settle c tracked
  | endsCycle _ => exact .ends
  | _ => exact .same _

/-- A thread breaks off or is broken off. -/
theorem tracks_breakOff (S : Surroundings ω) (c : Control ω) (tid : Nat) (e : Ending) :
    Tracks may c (c.breakOff S tid e) := by
  unfold breakOff
  split
  · exact .of_eq rfl rfl
  · rename_i th hth
    split
    · exact .of_eq rfl rfl
    · refine .put hth (threads_settle _) ?_
      exact follows_settle { c with world := S.abandon c.world tid } th.isTracked

/-- To be served changes nothing about draining. -/
theorem drain_ask (q : Request) : (c.ask S tid q).state.drain = c.drain := by
  cases q with
  | call q =>
    simp only [ask]
    cases S.serve c.world tid c.elapsed q <;> rfl
  | _ => rfl

/-- Whoever asks for something goes on when it is answered, waits, or breaks off. -/
theorem tracks_resume {α : Type} {wrap : α → Thread} {x : Served α (Control ω)}
    (hth : c.threads[tid]? = some th) (hx : x.state.threads = c.threads)
    (h : ∀ a c₁, x = .answered a c₁ → c.drain.Follows th.isTracked (wrap a).isTracked c₁.drain)
    (hother : (∀ a c₁, x ≠ .answered a c₁) → x.state.drain = c.drain) :
    Tracks may c (resume S tid wrap x).2 := by
  cases x with
  | answered a c₁ => exact .put hth hx (h a c₁ rfl)
  | waiting c₁ => exact .of_eq hx (hother fun _ _ h => by cases h)
  | panicked c₁ =>
    have hd : c₁.drain = c.drain := hother fun _ _ h => by cases h
    exact (tracks_breakOff S c₁ tid .panicked).congr (flags_eq hx).symm hd.symm rfl rfl

theorem drain_stepWork (w : Work) : (c.stepWork S tid choice w).state.drain = c.drain := by
  unfold stepWork
  split
  · rfl
  · rw [state_map]
    exact drain_ask _

theorem tracks_works {wrap : Work → Thread} {w : Work} (hwrap : Thread.Works wrap)
    (hth : c.threads[tid]? = some (wrap w)) :
    Tracks may c (resume S tid wrap (c.stepWork S tid choice w)).2 := by
  have hd : (c.stepWork S tid choice w).state.drain = c.drain := drain_stepWork w
  refine tracks_resume hth (threads_stepWork choice w) (fun a c₁ hx => ?_) fun _ => hd
  rw [hx] at hd
  rw [hwrap.isTracked w a]
  exact hd ▸ .same _

/-! ### Dispatches -/

section

variable {d d' : Dispatch} {t : Task}

theorem rests_conclude (o : Outcome Json.Value) :
    (c.conclude tid t o).1.isTracked = false ∧ (c.conclude tid t o).2.drain = c.drain := by
  have hfollow : ∀ (f : Option FollowUp) (o : Outcome Json.Value),
      (follow f o).isTracked = false := by
    intro f o
    cases f <;> rfl
  unfold conclude
  split
  · exact ⟨hfollow _ _, rfl⟩
  · exact ⟨rfl, rfl⟩
  · split
    · exact ⟨rfl, rfl⟩
    · exact ⟨hfollow _ _, rfl⟩

theorem follows_start :
    c.drain.Follows false (c.start tid t).1.isTracked (c.start tid t).2.drain := by
  unfold start
  split
  · exact .same _
  · split
    · exact .same _
    · rename_i h
      exact .starts h

theorem follows_take :
    c.drain.Follows false (c.take tid).1.isTracked (c.take tid).2.drain := by
  unfold take
  split <;> exact .same _

/-- A program that a dispatch runs goes on. -/
theorem follows_ask {q : Request} {next : q.Answer → Dispatch}
    (h : (c.ask S tid q).map next id = .answered d' c')
    (hnext : ∀ a, (next a).isTracked = d.isTracked) :
    c.drain.Follows d.isTracked d'.isTracked c'.drain := by
  obtain ⟨a, c₁, hask, rfl, rfl⟩ := Served.of_map_eq_answered h
  have hd : (c.ask S tid q).state.drain = c.drain := drain_ask q
  rw [hask] at hd
  rw [hnext a]
  exact hd ▸ .same _

/-- A step of a dispatch that goes on. -/
theorem follows_stepDispatch (h : c.stepDispatch S tid d = .answered d' c') :
    c.drain.Follows d.isTracked d'.isTracked c'.drain := by
  match d, h with
  | .arriving, h =>
    cases h
    exact .same _
  | .inLine, h =>
    rw [stepDispatch] at h
    split at h
    · cases h
      exact follows_take
    · cases h
  | .holding t, h =>
    cases h
    exact follows_start
  | .processing t (.done o), h =>
    -- The run of the task has ended, and whatever comes now is not tracked.
    obtain ⟨hflag, hdrain⟩ : ((c.settle true).conclude tid t o).1.isTracked = false ∧
        ((c.settle true).conclude tid t o).2.drain = (c.settle true).drain := rests_conclude o
    change Served.answered ((c.settle true).conclude tid t o).1
      ((c.settle true).conclude tid t o).2 = .answered d' c' at h
    injection h with hd hc
    rw [← hd, ← hc, hflag, hdrain]
    exact .ends
  | .processing t (.ask q next), h =>
    rw [stepDispatch] at h
    exact follows_ask h fun _ => rfl
  | .following (.done o), h =>
    cases h
    exact .same _
  | .following (.ask q next), h =>
    rw [stepDispatch] at h
    exact follows_ask h fun _ => rfl
  | .done took, h => cases h

/-- A dispatch that does not go on leaves draining as it is. -/
theorem drain_stepDispatch (h : ∀ d' c', c.stepDispatch S tid d ≠ .answered d' c') :
    (c.stepDispatch S tid d).state.drain = c.drain := by
  match d, h with
  | .arriving, h => exact absurd rfl (h _ _)
  | .inLine, h =>
    rw [stepDispatch] at h ⊢
    split at h
    · exact absurd rfl (h _ _)
    · rename_i hhead
      rw [if_neg hhead]
      rfl
  | .holding t, h => exact absurd rfl (h _ _)
  | .processing t (.done o), h => exact absurd rfl (h _ _)
  | .processing t (.ask q next), h =>
    rw [stepDispatch, state_map]
    exact drain_ask q
  | .following (.done o), h => exact absurd rfl (h _ _)
  | .following (.ask q next), h =>
    rw [stepDispatch, state_map]
    exact drain_ask q
  | .done took, h => rfl

theorem tracks_dispatches {wrap : Dispatch → Thread} (hwrap : Thread.Dispatches wrap)
    (hth : c.threads[tid]? = some (wrap d)) :
    Tracks may c (resume S tid wrap (c.stepDispatch S tid d)).2 := by
  refine tracks_resume hth (threads_stepDispatch d) (fun d' c₁ hx => ?_) drain_stepDispatch
  rw [hwrap.isTracked, hwrap.isTracked]
  exact follows_stepDispatch hx

end

/-! ### What a move does -/

/-- Of the stages only one begins draining. -/
theorem drain_pass? {stage : Stage} {stages : List Stage} (h : c.pass? stage = some (stages, c')) :
    c'.drain = c.drain ∨ (stage = .beginDrain ∧ c'.drain = c.drain.begin) := by
  have hsignal : ∀ (c₁ : Control ω) (t : Nat), (c₁.signal t).drain = c₁.drain := by
    intro c₁ t
    unfold signal
    split <;> rfl
  cases stage with
  | beginDrain =>
    cases h
    exact .inr ⟨rfl, rfl⟩
  | signal t =>
    cases h
    exact .inl (hsignal c t)
  | dismissTicker =>
    rw [pass?] at h
    split at h <;> cases h
    · exact .inl rfl
    · exact .inl (hsignal _ _)
  | closeServer =>
    cases h
    exact .inl rfl
  | clearRunning =>
    cases h
    exact .inl rfl
  | awaitRequests =>
    rw [pass?] at h
    split at h <;> cases h
    exact .inl rfl
  | await t =>
    rw [pass?] at h
    split at h <;> cases h
    exact .inl rfl
  | awaitSettled =>
    rw [pass?] at h
    split at h <;> cases h
    exact .inl rfl

theorem tracks_passes {stage : Stage} {rest stages : List Stage} {e : Ending}
    (hth : c.threads[tid]? = some (.staged (stage :: rest) e))
    (hp : c.pass? stage = some (stages, c')) :
    Tracks (c.BeginsDrain (.step S tid choice)) c (c'.put tid (.staged (stages ++ rest) e)) := by
  have hflag : c.flags[tid]? = some false := flag_at hth
  have hflags : c'.flags = c.flags := by
    obtain ⟨c₁, hpassed, rfl | ⟨t, rfl⟩⟩ := pass?_cases hp
    · exact flags_eq hpassed.threads
    · rw [flags_signal, flags_eq hpassed.threads]
  have hput : (c'.put tid (.staged (stages ++ rest) e)).flags = c.flags := by
    obtain ⟨hlt, heq⟩ := List.getElem?_eq_some_iff.mp hflag
    rw [flags_put, hflags]
    show c.flags.set tid false = c.flags
    rw [← heq, List.set_getElem_self]
  obtain hd | ⟨rfl, hd⟩ := drain_pass? hp
  · exact .rests hput hd
  · exact .begins ⟨rest, e, hth⟩ hput hd

/-- What happens to tracked work with a step. -/
theorem tracks_step (S : Surroundings ω) (c : Control ω) (tid choice : Nat) :
    Tracks (c.BeginsDrain (.step S tid choice)) c (c.step S tid choice).2 := by
  have hsteps := steps S c tid choice
  generalize (c.step S tid choice).2 = c' at hsteps ⊢
  cases hsteps with
  | stays => exact .of_eq rfl rfl
  | @turns th th' drain hth h =>
    have hdrain : ({ c with drain } : Control ω).threads = c.threads := rfl
    exact .put hth hdrain h.follows
  | works hwrap hth _ => exact tracks_works hwrap hth
  | dispatches hwrap hth _ => exact tracks_dispatches hwrap hth
  | breaks _ _ => exact tracks_breakOff S c tid _
  | passes hth hp => exact tracks_passes hth hp

theorem tracks_spawn (h : th.isTracked = false) : Tracks may c (c.spawn th).1 := by
  refine .spawns ?_ rfl
  show (c.threads ++ [th]).map Thread.isTracked = c.threads.map Thread.isTracked ++ [false]
  rw [List.map_append, List.map_singleton, h]

/-- What happens to tracked work with a move. -/
theorem tracks_apply (c : Control ω) (m : Move ω) : Tracks (c.BeginsDrain m) c (c.apply m) := by
  cases m with
  | step S tid choice => exact tracks_step S c tid choice
  | begin tracked w => exact tracks_spawn rfl
  | receive w =>
    simp only [apply, receive]
    split
    · have hs : Tracks False c (c.spawn (.arriving true w)).1 := tracks_spawn rfl
      exact hs.congr rfl rfl rfl rfl
    · exact .of_eq rfl rfl
  | dispatch => exact tracks_spawn rfl
  | enqueue S o => exact .of_eq rfl rfl
  | register kind process => exact .of_eq rfl rfl
  | startQueue =>
    simp only [apply, startQueue]
    split
    · exact .of_eq rfl rfl
    · have hs : Tracks False c (c.spawn (.ticking {})).1 := tracks_spawn rfl
      exact hs.congr rfl rfl rfl rfl
  | startLoop p => exact tracks_spawn rfl
  | stop stages e => exact tracks_spawn rfl
  | pass millis => exact .of_eq rfl rfl

/-! ### The count -/

theorem Counted.iff_flags : Counted c ↔ c.drain.inFlight = c.flags.count true := by
  have hcount : c.flags.count true = c.threads.countP Thread.isTracked := by
    unfold flags
    rw [List.count, List.countP_map]
    refine List.countP_congr fun th _ => ?_
    simp
  unfold Counted
  rw [hcount]

/-- Threads come, and none goes. -/
theorem Tracks.length_le (h : Tracks may c c') : c.threads.length ≤ c'.threads.length := by
  have hlen : ∀ c : Control ω, c.flags.length = c.threads.length := fun c => List.length_map _
  rw [← hlen c, ← hlen c']
  cases h with
  | rests hf _ => exact Nat.le_of_eq (by rw [hf])
  | begins _ hf _ => exact Nat.le_of_eq (by rw [hf])
  | spawns hf _ =>
    rw [hf, List.length_append]
    exact Nat.le_add_right ..
  | starts _ hf _ => exact Nat.le_of_eq (by rw [hf, List.length_set])
  | settles _ hf _ => exact Nat.le_of_eq (by rw [hf, List.length_set])

/-- Work that ends was counted. -/
theorem Counted.pos (h : Counted c) (hb : c.flags[tid]? = some true) : 0 < c.drain.inFlight := by
  rw [Counted.iff_flags.mp h]
  exact List.count_pos_iff.mpr (List.mem_of_getElem? hb)

theorem isTracked_eq_true : c.isTracked tid = true ↔ c.flags[tid]? = some true := by
  unfold isTracked
  cases c.flags[tid]? with
  | none => exact ⟨nofun, nofun⟩
  | some b => exact ⟨congrArg some, Option.some.inj⟩

theorem isTracked_of_flags (h : c'.flags = c.flags) : c'.isTracked tid = c.isTracked tid := by
  unfold isTracked
  rw [h]

/-- Of a thread's flag after one was set, when it is not as it was. -/
theorem isTracked_of_set {k : Nat} {b : Bool} (hf : c'.flags = c.flags.set tid b)
    (hne : c'.isTracked k ≠ c.isTracked k) : c'.isTracked k = b := by
  have hk : tid = k := by
    refine Decidable.byContradiction fun hk => hne ?_
    unfold isTracked
    rw [hf, List.getElem?_set_ne hk]
  subst hk
  have hlt : tid < c.flags.length := by
    refine Decidable.byContradiction fun hlt => hne ?_
    unfold isTracked
    rw [hf, List.set_eq_of_length_le (Nat.le_of_not_lt hlt)]
  unfold isTracked
  rw [hf, List.getElem?_set_self hlt, Option.getD_some]

/-- A thread that comes does no tracked work, and the others go on as they did. -/
theorem isTracked_of_append (hf : c'.flags = c.flags ++ [false]) :
    c'.isTracked tid = c.isTracked tid := by
  unfold isTracked
  rw [hf]
  by_cases hlt : tid < c.flags.length
  · rw [List.getElem?_append_left hlt]
  · rw [List.getElem?_append_right (Nat.le_of_not_lt hlt), List.getElem?_singleton,
      List.getElem?_eq_none (Nat.le_of_not_lt hlt)]
    split <;> rfl

/-- When work starts in a thread, there is one piece more. -/
theorem Tracks.inFlight_of_starts (h : Tracks may c c') (hb : c.isTracked tid = false)
    (ha : c'.isTracked tid = true) : c'.drain.inFlight = c.drain.inFlight + 1 := by
  have hne : c'.isTracked tid ≠ c.isTracked tid := by
    rw [hb, ha]
    exact nofun
  cases h with
  | rests hf _ => exact absurd (isTracked_of_flags hf) hne
  | begins _ hf _ => exact absurd (isTracked_of_flags hf) hne
  | spawns hf _ => exact absurd (isTracked_of_append hf) hne
  | starts _ _ hd => rw [(Drain.enter?_eq_some hd).2]
  | settles _ hf _ =>
    rw [isTracked_of_set hf hne] at ha
    cases ha

/-- When work ends in a thread, there is one piece less: nothing is cut off at zero. -/
theorem Tracks.inFlight_of_settles (h : Tracks may c c') (hc : Counted c)
    (hb : c.isTracked tid = true) (ha : c'.isTracked tid = false) :
    c'.drain.inFlight + 1 = c.drain.inFlight := by
  have hne : c'.isTracked tid ≠ c.isTracked tid := by
    rw [hb, ha]
    exact nofun
  cases h with
  | rests hf _ => exact absurd (isTracked_of_flags hf) hne
  | begins _ hf _ => exact absurd (isTracked_of_flags hf) hne
  | spawns hf _ => exact absurd (isTracked_of_append hf) hne
  | starts _ hf _ =>
    rw [isTracked_of_set hf hne] at ha
    cases ha
  | settles _ _ hd =>
    have := hc.pos (isTracked_eq_true.mp hb)
    rw [hd]
    show c.drain.inFlight - 1 + 1 = _
    omega

/-- The count stays right whatever happens. -/
theorem Tracks.counted (h : Tracks may c c') (hc : Counted c) : Counted c' := by
  rw [Counted.iff_flags] at hc ⊢
  cases h with
  | rests hf hd => rw [hd, hf, hc]
  | begins _ hf hd => rw [hd, hf, Drain.inFlight_begin, hc]
  | spawns hf hd =>
    rw [hd, hf, List.count_append, hc]
    rfl
  | @starts tid hb hf hd =>
    obtain ⟨hlt, heq⟩ := List.getElem?_eq_some_iff.mp hb
    obtain ⟨-, hd⟩ := Drain.enter?_eq_some hd
    rw [hd, hf, List.count_set hlt, heq, ← hc]
    rfl
  | @settles tid hb hf hd =>
    obtain ⟨hlt, heq⟩ := List.getElem?_eq_some_iff.mp hb
    rw [hd, hf, List.count_set hlt, heq, ← hc]
    rfl

end Control

end GameFleet
