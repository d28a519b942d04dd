import GameFleet.Proofs.Queue.FirstCome

/-!
# How often a task is run (specification §4.1)

A task has a number for its next run. The number goes up with each run that fails, and the task is
given up once it has come to the highest that its policy allows. A run that says that the program
is being stopped is not counted, whoever says so: the task waits again with the number it had. So a
task is run as often as its policy allows, and besides once for every run that was not counted.

- `Deed.times`: how often something was done with a task.
- `Task.Tally`: the runs of a task and its number agree.
- `Control.Tallied`: the invariant; `Tallied.apply`: every move keeps it.
- `Control.runs_bounded`: the theorem.
- `Control.exists_overrun`: a task that may run once only is run twice.
-/

namespace GameFleet

namespace Deed

/-- The task of which a run starts. -/
def ran? : Deed → Option Task
  | ran t _ => some t
  | _ => none

/-- The task that waits again because its run says that the program is being stopped. -/
def uncounted? : Deed → Option Task
  | back t _ (some (.error .shuttingDown)) => some t
  | _ => none

/-- The task that ends in a failure. -/
def givenUp? : Deed → Option Task
  | ended t (.error _) _ => some t
  | _ => none

/-- How often something was done with the task that had a place when it came. -/
def times (f : Deed → Option Task) (n : Nat) : List Deed → Nat
  | [] => 0
  | e :: earlier => (f e).toList.countP (fun t => origin earlier t.seq == n) + times f n earlier

variable {f : Deed → Option Task} {n : Nat} {e : Deed} {ds : List Deed} {t : Task}

theorem times_of_none (h : f e = none) : times f n (e :: ds) = times f n ds := by
  rw [times, h]
  exact Nat.zero_add _

theorem times_of_some (h : f e = some t) (ht : origin ds t.seq = n) :
    times f n (e :: ds) = times f n ds + 1 := by
  simp [times, h, ht, Nat.add_comm]

/-- What is done with one task leaves the count of another. -/
theorem times_of_ne (h : ∀ t, f e = some t → origin ds t.seq ≠ n) :
    times f n (e :: ds) = times f n ds := by
  cases hf : f e with
  | none => exact times_of_none hf
  | some t => simp [times, hf, h t hf]

theorem handled?_of_ran? (h : e.ran? = some t) : e.handled? = some t := by
  cases e <;> first | exact h | cases h

theorem handled?_of_uncounted? (h : e.uncounted? = some t) : e.handled? = some t := by
  unfold uncounted? at h
  split at h
  · exact h
  · cases h

/-- Who does something with a task has it in hand. -/
theorem hand_of_dispatch? {d : Dispatch} (hd : e.dispatch? = some d) :
    ∃ t, e.handled? = some t ∧ d.hand = .busy (some t) := by
  unfold dispatch? at hd
  split at hd <;> cases hd <;> exact ⟨_, rfl, rfl⟩

end Deed

namespace Task

/-- How often a task was run. -/
def runs (ds : List Deed) (t : Task) : Nat := Deed.times Deed.ran? (origin ds t.seq) ds

/-- How many runs of a task were not counted. -/
def uncounted (ds : List Deed) (t : Task) : Nat := Deed.times Deed.uncounted? (origin ds t.seq) ds

/-- The number of a task is one that its policy allows, and it tells how often the task was run;
whether a run with this number has started. -/
structure Tally (ds : List Deed) (t : Task) (started : Bool) : Prop where
  pos : 1 ≤ t.attempt
  le : t.attempt ≤ max t.policy.maxRuns 1
  runs : t.runs ds + 1 = t.attempt + t.uncounted ds + started.toNat

namespace Tally

variable {ds : List Deed} {t t' : Task} {e : Deed} {started : Bool}

/-- What is done with one task leaves the tally of another. -/
theorem cons_of_ne (h : t.Tally ds started) (ho : origin (e :: ds) t.seq = origin ds t.seq)
    (hne : ∀ u, e.handled? = some u → origin ds u.seq ≠ origin ds t.seq) :
    t.Tally (e :: ds) started := by
  have hruns : t.runs (e :: ds) = t.runs ds := by
    unfold Task.runs
    rw [ho]
    exact Deed.times_of_ne fun u hu => hne u (Deed.handled?_of_ran? hu)
  have huncounted : t.uncounted (e :: ds) = t.uncounted ds := by
    unfold Task.uncounted
    rw [ho]
    exact Deed.times_of_ne fun u hu => hne u (Deed.handled?_of_uncounted? hu)
  exact ⟨h.pos, h.le, by rw [hruns, huncounted, h.runs]⟩

/-- Something is done with a task by which no run starts, and which leaves none uncounted. -/
theorem cons_of_not_ran (h : t.Tally ds started) (ho : origin (e :: ds) t.seq = origin ds t.seq)
    (hran : e.ran? = none) (huncounted : e.uncounted? = none) : t.Tally (e :: ds) started := by
  refine ⟨h.pos, h.le, ?_⟩
  unfold Task.runs Task.uncounted
  rw [ho, Deed.times_of_none hran, Deed.times_of_none huncounted]
  exact h.runs

/-- A run of a task starts. -/
theorem cons_ran (h : t.Tally ds false) (p : Running Json.Value) :
    t.Tally (.ran t p :: ds) true := by
  refine ⟨h.pos, h.le, ?_⟩
  have hruns : t.runs (.ran t p :: ds) = t.runs ds + 1 := Deed.times_of_some rfl rfl
  have huncounted : t.uncounted (.ran t p :: ds) = t.uncounted ds := Deed.times_of_none rfl
  have := h.runs
  simp only [Bool.toNat_false, Bool.toNat_true] at *
  omega

/-- A run of a task is not counted. -/
theorem cons_refused (h : t.Tally ds true) :
    t.Tally (.back t t (some (.error .shuttingDown)) :: ds) false := by
  refine ⟨h.pos, h.le, ?_⟩
  have ho : origin (.back t t (some (.error .shuttingDown)) :: ds) t.seq = origin ds t.seq := by
    simp [origin]
  have := h.runs
  unfold Task.runs Task.uncounted at *
  rw [ho, Deed.times_of_none rfl, Deed.times_of_some rfl rfl]
  simp only [Bool.toNat_false, Bool.toNat_true] at *
  omega

/-- A task is to be run again after a run that failed. -/
theorem cons_retried {f : Failure} (h : t.Tally ds true) (hf : f ≠ .shuttingDown)
    (hmore : t.attempt < t.policy.maxRuns) (hattempt : t'.attempt = t.attempt + 1)
    (hpolicy : t'.policy = t.policy) : t'.Tally (.back t t' (some (.error f)) :: ds) false := by
  have ho : origin (.back t t' (some (.error f)) :: ds) t'.seq = origin ds t.seq := by
    simp [origin]
  have huncounted : (Deed.back t t' (some (.error f))).uncounted? = none := by
    cases f <;> first | rfl | exact absurd rfl hf
  refine ⟨by omega, by rw [hpolicy]; omega, ?_⟩
  have := h.runs
  unfold Task.runs Task.uncounted at *
  rw [ho, Deed.times_of_none rfl, Deed.times_of_none huncounted]
  simp only [Bool.toNat_false, Bool.toNat_true] at *
  omega

end Tally

end Task

namespace Control

variable {ω : Type} {c c' : Control ω} {m : Move ω} {ms : List (Move ω)} {ds : List Deed}
  {t u : Task} {e : Deed} {d : Dispatch} {k : Nat}

/-- The runs of every task and its number agree. A run with this number has started of a task that
is processed or has ended. -/
structure Tallied (c : Control ω) (ds : List Deed) : Prop where
  unused : ∀ n, c.queue.nextSeq ≤ n →
    Deed.times Deed.ran? n ds = 0 ∧ Deed.times Deed.uncounted? n ds = 0
  waiting : ∀ t ∈ c.queue.tasks, t.Tally ds false
  holding : ∀ k t, c.dispatch? k = some (.holding t) → t.Tally ds false
  processing : ∀ k t p, c.dispatch? k = some (.processing t p) → t.Tally ds true
  dropped : ∀ t o, .dropped t o ∈ ds → t.Tally ds false
  ended : ∀ t o p, .ended t o p ∈ ds → t.Tally ds true
  givenUp : ∀ t f p, .ended t (.error f) p ∈ ds → t.attempt = max t.policy.maxRuns 1

/-! ### One task in hand -/

/-- While something is done with a task, no dispatch comes to hold one. -/
theorem not_holding_of_deed (hline : LineUp c.hands c.line) (he : c.deed? m = some e)
    (hd : e.dispatch? = some d) : (c.apply m).dispatch? k ≠ some (.holding u) := by
  intro hk
  obtain ⟨S, tid, choice, rfl, htid⟩ := step_of_deed he hd
  obtain hsame | hpick := holding_apply hk
  · obtain ⟨t, -, ht⟩ := Deed.hand_of_dispatch? hd
    obtain rfl := hline.eq_of_busy (hand_of_dispatch? hsame) (ht ▸ hand_of_dispatch? htid)
    change Deed.seen _ ((c.step S k choice).2.dispatch? k) _ = some e at he
    change (c.step S k choice).2.dispatch? k = _ at hk
    rw [hk, Deed.seen_holding] at he
    obtain ⟨s, -, rfl⟩ := Option.map_eq_some_iff.mp he
    cases hd
  · rw [(waiting_of_pick hpick).1] at he
    cases he

/-- While something is done with a task, no other is processed. -/
theorem eq_ran_of_processing {p : Running Json.Value} (hline : LineUp c.hands c.line)
    (he : c.deed? m = some e) (hd : e.dispatch? = some d)
    (hk : (c.apply m).dispatch? k = some (.processing u p)) : e = .ran u p := by
  obtain ⟨p', hsame, -⟩ | hran := processing_apply hk
  · obtain ⟨S, tid, choice, rfl, htid⟩ := step_of_deed he hd
    obtain ⟨t, -, ht⟩ := Deed.hand_of_dispatch? hd
    obtain rfl := hline.eq_of_busy (hand_of_dispatch? hsame) (ht ▸ hand_of_dispatch? htid)
    change Deed.seen (c.dispatch? k) ((c.step S k choice).2.dispatch? k) _ = some e at he
    change (c.step S k choice).2.dispatch? k = _ at hk
    rw [hk, hsame, Deed.seen_processing] at he
    obtain ⟨s, -, rfl⟩ := Option.map_eq_some_iff.mp he
    cases hd
  · exact Option.some.inj (he.symm.trans hran)

/-- A task in hand neither waits nor has ended. -/
theorem Accounted.origin_ne_of_inHand (ha : Accounted c ds) (ht : t ∈ c.inHand) :
    (∀ u ∈ c.queue.tasks, origin ds t.seq ≠ origin ds u.seq) ∧
      ∀ u ∈ ds.filterMap Deed.gone?, origin ds t.seq ≠ origin ds u.seq := by
  have hn := ha.nodup_origin
  unfold told at hn
  rw [List.map_append, List.nodup_append, List.map_append, List.nodup_append] at hn
  obtain ⟨-, ⟨-, -, hgone⟩, hwaiting⟩ := hn
  have hmem := List.mem_map_of_mem (f := fun t => origin ds t.seq) ht
  refine ⟨fun u hu heq => ?_, fun u hu => hgone _ hmem _ (List.mem_map_of_mem hu)⟩
  exact hwaiting _ (List.mem_map_of_mem hu) _ (List.mem_append_left _ hmem) heq.symm

/-- The origin of a task is the place of one that came. -/
theorem Accounted.origin_lt (ha : Accounted c ds) (ht : t ∈ c.told ds) :
    origin ds t.seq < c.queue.nextSeq := by
  obtain ⟨s, hs, heq⟩ := ha.exists_came ht
  have hseq : origin ds t.seq = s.seq := congrArg Prod.fst heq
  rw [hseq]
  exact ha.came_lt s (Deed.mem_came?.mpr hs)

/-- No place is given back. -/
theorem Does.le_nextSeq {e : Option Deed} (hd : Does c c' e) :
    c.queue.nextSeq ≤ c'.queue.nextSeq := by
  cases hd with
  | enqueues _ hc => exact hc.queue ▸ Nat.le_succ _
  | retries _ _ _ _ _ _ hc => exact hc.queue ▸ Nat.le_succ _
  | takes _ _ _ hc => exact hc.queue ▸ Nat.le_refl _
  | returns _ _ hc => exact hc.queue ▸ Nat.le_refl _
  | nothing hc => exact hc.queue ▸ Nat.le_refl _
  | spawns hc => exact hc.queue ▸ Nat.le_refl _
  | joins _ hc => exact hc.queue ▸ Nat.le_refl _
  | leaves _ _ hc => exact hc.queue ▸ Nat.le_refl _
  | runs _ _ _ hc => exact hc.queue ▸ Nat.le_refl _
  | drops _ _ hc => exact hc.queue ▸ Nat.le_refl _
  | succeeds _ hc => exact hc.queue ▸ Nat.le_refl _
  | fails _ _ _ hc => exact hc.queue ▸ Nat.le_refl _

namespace Tallied

/-- Nothing was done yet. -/
theorem of_unbegun (ho : Unbegun c) : Tallied c [] := by
  have hnone : ∀ k, c.dispatch? k = none := by
    intro k
    unfold dispatch?
    rw [ho.threads]
    rfl
  refine ⟨fun n _ => ⟨rfl, rfl⟩, fun t ht => ?_, fun k t hk => ?_, fun k t p hk => ?_,
    fun t o ht => ?_, fun t o p ht => ?_, fun t f p ht => ?_⟩
  · rw [ho.tasks] at ht
    cases ht
  · rw [hnone k] at hk
    cases hk
  · rw [hnone k] at hk
    cases hk
  · cases ht
  · cases ht
  · cases ht

/-- Nothing is done with a task, but perhaps one is picked. -/
theorem apply_of_no_deed (h : Tallied c ds) (hm : Steady c m) (he : c.deed? m = none) :
    Tallied (c.apply m) ds := by
  refine ⟨fun n hn => h.unused n (Nat.le_trans (does hm).le_nextSeq hn), fun t ht => ?_,
    fun k t hk => ?_, fun k t p hk => ?_, h.dropped, h.ended, h.givenUp⟩
  · obtain ht | ⟨e, he', -⟩ := waiting_cases hm ht
    · exact h.waiting t ht
    · rw [he] at he'
      cases he'
  · obtain hk | hp := holding_apply hk
    · exact h.holding k t hk
    · exact h.waiting t (TaskQueue.earliest?_mem (pick_cases hp).1.symm).1
  · obtain ⟨p', hk, -⟩ | hran := processing_apply hk
    · exact h.processing k t p' hk
    · rw [he] at hran
      cases hran

/-- A task comes. -/
theorem apply_of_came (h : Tallied c ds) (ha : Accounted c ds) (hm : Steady c m)
    (he : c.deed? m = some (.came t)) : Tallied (c.apply m) (.came t :: ds) := by
  have hnew := isNew_of_came hm he
  have hkeep : ∀ {u : Task} {started : Bool}, u.Tally ds started →
      u.Tally (.came t :: ds) started := fun hu => hu.cons_of_not_ran rfl rfl rfl
  refine ⟨fun n hn => ?_, fun u hu => ?_,
    fun k u hk => ?_, fun k u p hk => ?_, fun u o hu => ?_, fun u o p hu => ?_,
    fun u f p hu => ?_⟩
  · rw [Deed.times_of_none rfl, Deed.times_of_none rfl]
    exact h.unused n (Nat.le_trans (does hm).le_nextSeq hn)
  · obtain hu | ⟨e, he', hu⟩ := waiting_cases hm hu
    · exact hkeep (h.waiting u hu)
    · rw [he] at he'
      cases he'
      cases hu
      -- No run has ever started in a place that was not given before.
      obtain ⟨hran, huncounted⟩ := h.unused t.seq (Nat.le_of_eq hnew.seq.symm)
      refine hkeep ⟨Nat.le_of_eq hnew.attempt.symm, by rw [hnew.attempt]; omega, ?_⟩
      unfold Task.runs Task.uncounted
      rw [ha.origin_eq t.seq (Nat.le_of_eq hnew.seq.symm), hran, huncounted, hnew.attempt]
      rfl
  · obtain hk | hp := holding_apply hk
    · exact hkeep (h.holding k u hk)
    · rw [(waiting_of_pick hp).1] at he
      cases he
  · obtain ⟨p', hk, -⟩ | hran := processing_apply hk
    · exact hkeep (h.processing k u p' hk)
    · rw [he] at hran
      cases hran
  · rcases List.mem_cons.mp hu with hu | hu
    · cases hu
    · exact hkeep (h.dropped u o hu)
  · rcases List.mem_cons.mp hu with hu | hu
    · cases hu
    · exact hkeep (h.ended u o p hu)
  · rcases List.mem_cons.mp hu with hu | hu
    · cases hu
    · exact h.givenUp u f p hu

/-- What the tally of a task is once something has been done with it. -/
theorem tally_of_handled (h : Tallied c ds) (hm : Steady c m) (he : c.deed? m = some e) :
    match e with
    | .came _ => True
    | .ran t p => t.Tally (.ran t p :: ds) true
    | .back t t' o => t'.Tally (.back t t' o :: ds) false
    | .dropped t o => t.Tally (.dropped t o :: ds) false
    | .ended t o p => t.Tally (.ended t o p :: ds) true ∧
        ∀ f, o = .error f → t.attempt = max t.policy.maxRuns 1 := by
  have hholding : ∀ {t : Task}, e.dispatch? = some (.holding t) → t.Tally ds false := by
    intro t hd
    obtain ⟨S, k, choice, -, hk⟩ := step_of_deed he hd
    exact h.holding k t hk
  have hprocessing : ∀ {t : Task} {o : Outcome Json.Value},
      e.dispatch? = some (.processing t (.done o)) → t.Tally ds true := by
    intro t o hd
    obtain ⟨S, k, choice, -, hk⟩ := step_of_deed he hd
    exact h.processing k t _ hk
  have hdoes := does hm
  rw [he] at hdoes
  cases hdoes with
  | enqueues _ _ => trivial
  | runs _ _ _ _ => exact (hholding rfl).cons_ran _
  | drops _ _ _ => exact (hholding rfl).cons_of_not_ran rfl rfl rfl
  | @returns _ t o _ ho _ =>
    obtain ⟨rfl, -⟩ | rfl := ho
    · exact (hholding rfl).cons_of_not_ran (by simp [origin]) rfl rfl
    · exact (hprocessing rfl).cons_refused
  | retries _ hf hmore hattempt hsame _ _ =>
    exact (hprocessing rfl).cons_retried hf hmore hattempt (congrArg TaskOrder.policy hsame.2)
  | succeeds _ _ =>
    refine ⟨(hprocessing rfl).cons_of_not_ran rfl rfl rfl, fun f hf => ?_⟩
    cases hf
  | @fails _ t f _ _ hlast _ =>
    have ht := hprocessing (t := t) rfl
    refine ⟨ht.cons_of_not_ran rfl rfl rfl, fun _ _ => ?_⟩
    have := ht.pos
    have := ht.le
    omega

/-- Something is done with a task in hand. -/
theorem apply_of_handled (h : Tallied c ds) (hline : LineUp c.hands c.line) (ha : Accounted c ds)
    (hm : Steady c m) (he : c.deed? m = some e) (hd : e.dispatch? = some d) :
    Tallied (c.apply m) (e :: ds) := by
  have hdone := h.tally_of_handled hm he
  obtain ⟨S, k, choice, rfl, hk⟩ := step_of_deed he hd
  obtain ⟨t, ht, hhand⟩ := Deed.hand_of_dispatch? hd
  have hin : t ∈ c.inHand := mem_inHand (hhand ▸ hand_of_dispatch? hk)
  have hdoes := does hm
  rw [he] at hdoes
  -- Of the other tasks nothing changes.
  have hframe : ∀ {u : Task} {started : Bool}, u ∈ c.told ds →
      origin ds t.seq ≠ origin ds u.seq → u.Tally ds started → u.Tally (e :: ds) started := by
    intro u started hu hne htally
    refine htally.cons_of_ne (hdoes.origin_eq ds (ha.told_lt u hu)) fun v hv => ?_
    rw [ht] at hv
    exact Option.some.inj hv ▸ hne
  obtain ⟨hwaiting, hgone⟩ := ha.origin_ne_of_inHand hin
  have hended : ∀ {u : Task} {started : Bool}, u ∈ ds.filterMap Deed.gone? → u.Tally ds started →
      u.Tally (e :: ds) started :=
    fun hu => hframe (List.mem_append_right _ (List.mem_append_right _ hu)) (hgone _ hu)
  refine ⟨fun n hn => ?_, fun u hu => ?_, fun j u hj => absurd hj (not_holding_of_deed hline he hd),
    fun j u p hj => ?_, fun u o hu => ?_, fun u o p hu => ?_, fun u f p hu => ?_⟩
  · have hlt := ha.origin_lt (List.mem_append_right _ (List.mem_append_left _ hin))
    have hle := Nat.le_trans hdoes.le_nextSeq hn
    have hne : ∀ v, e.handled? = some v → origin ds v.seq ≠ n := by
      intro v hv
      obtain rfl := Option.some.inj (ht.symm.trans hv)
      omega
    rw [Deed.times_of_ne fun v hv => hne v (Deed.handled?_of_ran? hv),
      Deed.times_of_ne fun v hv => hne v (Deed.handled?_of_uncounted? hv)]
    exact h.unused n hle
  · obtain hu | ⟨e', he', hu⟩ := waiting_cases hm hu
    · exact hframe (List.mem_append_left _ hu) (hwaiting u hu) (h.waiting u hu)
    · obtain rfl := Option.some.inj (he.symm.trans he')
      cases e with
      | came _ => cases hd
      | back _ _ _ =>
        cases hu
        exact hdone
      | _ => cases hu
  · obtain rfl := eq_ran_of_processing hline he hd hj
    exact hdone
  · rcases List.mem_cons.mp hu with rfl | hu
    · exact hdone
    · exact hended (List.mem_filterMap.mpr ⟨_, hu, rfl⟩) (h.dropped u o hu)
  · rcases List.mem_cons.mp hu with rfl | hu
    · exact hdone.1
    · exact hended (List.mem_filterMap.mpr ⟨_, hu, rfl⟩) (h.ended u o p hu)
  · rcases List.mem_cons.mp hu with rfl | hu
    · exact hdone.2 f rfl
    · exact h.givenUp u f p hu

/-- With every move the runs of every task and its number agree. -/
theorem apply (h : Tallied c ds) (hline : LineUp c.hands c.line) (ha : Accounted c ds)
    (hm : Steady c m) : Tallied (c.apply m) ((c.deed? m).toList ++ ds) := by
  cases he : c.deed? m with
  | none => exact h.apply_of_no_deed hm he
  | some e =>
    cases hd : e.dispatch? with
    | none =>
      cases e with
      | came t => exact h.apply_of_came ha hm he
      | ran _ _ => cases hd
      | back _ _ o => cases o <;> cases hd
      | dropped _ o => cases o <;> cases hd
      | ended _ _ _ => cases hd
    | some d => exact h.apply_of_handled hline ha hm he hd

end Tallied

/-- The runs of every task and its number agree after every run. -/
theorem tallied_after (ho : Unbegun c) (hrun : Control.Run Steady c ms) :
    Tallied (c.after ms) (c.deeds ms) := by
  induction ms with
  | nil => exact .of_unbegun ho
  | cons m earlier ih =>
    obtain ⟨hline, ha⟩ := accounted_after ho hrun.1
    exact (ih hrun.1).apply hline ha hrun.2

/-- A task in any place has a tally. -/
theorem Tallied.exists_tally (h : Tallied c ds) (ht : t ∈ c.told ds) :
    ∃ started, t.Tally ds started := by
  unfold told at ht
  rw [List.mem_append, List.mem_append] at ht
  obtain ht | ht | ht := ht
  · exact ⟨_, h.waiting t ht⟩
  · obtain ⟨hand, hmem, ht⟩ := List.mem_filterMap.mp ht
    obtain ⟨k, hk⟩ := List.mem_iff_getElem?.mp hmem
    obtain rfl : hand = .busy (some t) := by
      cases hand with
      | busy s =>
        obtain rfl : s = some t := ht
        rfl
      | _ => cases ht
    obtain hd | ⟨p, hd⟩ := dispatch?_of_hand_busy hk
    · exact ⟨_, h.holding k t hd⟩
    · exact ⟨_, h.processing k t p hd⟩
  · obtain ⟨e, he, ht⟩ := List.mem_filterMap.mp ht
    cases e with
    | dropped _ o =>
      cases ht
      exact ⟨_, h.dropped t o he⟩
    | ended _ o p =>
      cases ht
      exact ⟨_, h.ended t o p he⟩
    | _ => cases ht

/-- Besides the runs that were not counted, a task is run as often as its policy allows at most, or
once where that allows no run. A task that was given up was run just as often. -/
theorem runs_bounded (ho : Unbegun c) (hrun : Control.Run Steady c ms)
    (ht : .came t ∈ c.deeds ms) :
    t.runs (c.deeds ms) ≤ max t.policy.maxRuns 1 + t.uncounted (c.deeds ms) ∧
    ∀ u ∈ (c.deeds ms).filterMap Deed.givenUp?, origin (c.deeds ms) u.seq = t.seq →
      t.runs (c.deeds ms) = max t.policy.maxRuns 1 + t.uncounted (c.deeds ms) := by
  have h := tallied_after ho hrun
  have ha := (accounted_after ho hrun).2
  have hself := (inTurn_after ho hrun).origin_eq t ht
  -- Whatever the task is now, it has the same runs and the same policy.
  have hsame : ∀ {u : Task}, u ∈ (c.after ms).told (c.deeds ms) →
      origin (c.deeds ms) u.seq = t.seq → u.runs (c.deeds ms) = t.runs (c.deeds ms) ∧
        u.uncounted (c.deeds ms) = t.uncounted (c.deeds ms) ∧ u.policy = t.policy := by
    intro u hu horigin
    obtain ⟨s, hs, heq⟩ := ha.exists_came hu
    have hseq : origin (c.deeds ms) u.seq = s.seq := congrArg Prod.fst heq
    obtain rfl : s = t := List.inj_on_of_nodup_map ha.nodup (Deed.mem_came?.mpr hs)
      (Deed.mem_came?.mpr ht) (hseq.symm.trans horigin)
    refine ⟨?_, ?_, congrArg (fun e => e.2.2.policy) heq⟩
    · rw [Task.runs, Task.runs, hself, horigin]
    · rw [Task.uncounted, Task.uncounted, hself, horigin]
  constructor
  · obtain ⟨u, hu, heq⟩ := List.mem_map.mp
      (ha.perm.mem_iff.mpr (List.mem_map_of_mem (Deed.mem_came?.mpr ht)))
    obtain ⟨hruns, huncounted, hpolicy⟩ := hsame hu (congrArg Prod.fst heq)
    obtain ⟨started, htally⟩ := h.exists_tally hu
    have hle := htally.le
    have hcount := htally.runs
    rw [hruns, huncounted] at hcount
    rw [hpolicy] at hle
    have := Bool.toNat_le started
    omega
  · intro u hu horigin
    obtain ⟨e, he, hu⟩ := List.mem_filterMap.mp hu
    unfold Deed.givenUp? at hu
    split at hu
    · rename_i s f p
      cases hu
      have hgone : u ∈ (c.after ms).told (c.deeds ms) :=
        List.mem_append_right _ (List.mem_append_right _ (List.mem_filterMap.mpr ⟨_, he, rfl⟩))
      obtain ⟨hruns, huncounted, hpolicy⟩ := hsame hgone horigin
      have hlast := h.givenUp u f p he
      have hcount := (h.ended u _ p he).runs
      rw [hruns, huncounted, hlast, hpolicy, Bool.toNat_true] at hcount
      omega
    · cases hu

/-- The first task, which may run twice, fails again and is given up. -/
theorem runs_bounded_secondTry :
    let c : Control Unit := { world := () }
    let ms := List.replicate 2 (.step silent 2 0) ++ secondTry
    ∃ t, .came t ∈ c.deeds ms ∧ t.kind = "fail" ∧ t.policy.maxRuns = 2 ∧
      t.uncounted (c.deeds ms) = 0 ∧ t.runs (c.deeds ms) = 2 := by
  intro c ms
  obtain ⟨t, hcame, hseq⟩ : ∃ t ∈ (c.deeds ms).filterMap Deed.came?, t.seq = 1 := by
    decide +kernel
  have hfacts : ∀ t ∈ (c.deeds ms).filterMap Deed.came?, t.seq = 1 →
      t.kind = "fail" ∧ t.policy.maxRuns = 2 ∧ t.uncounted (c.deeds ms) = 0 := by decide +kernel
  obtain ⟨u, hu, horigin⟩ : ∃ u ∈ (c.deeds ms).filterMap Deed.givenUp?,
      origin (c.deeds ms) u.seq = 1 := by decide +kernel
  obtain ⟨hkind, hmax, huncounted⟩ := hfacts t hcame hseq
  have ht := Deed.mem_came?.mp hcame
  have hrun : Control.Run Steady c ms :=
    .append run_secondTry ⟨⟨trivial, silent_ne_panicked⟩, silent_ne_panicked⟩
  have hruns := (runs_bounded ⟨rfl, rfl, rfl⟩ hrun ht).2 u hu (horigin.trans hseq.symm)
  rw [hmax, huncounted] at hruns
  exact ⟨t, ht, hkind, hmax, huncounted, hruns⟩

/-- A task comes that may run once. Its run says that the program is being stopped, which it is not,
and then a run starts again. -/
def runAgain : List (Move Unit) :=
  let turns (steps tid : Nat) : List (Move Unit) := List.replicate steps (.step silent tid 0)
  turns 3 1 ++ .dispatch :: turns 4 0 ++
    [.dispatch, .enqueue silent { kind := "stop", payload := .null, policy := { maxRuns := 1 } },
      .register "stop" fun _ => throw .shuttingDown]

theorem run_runAgain : Control.Run Steady { world := () } runAgain := by
  simp [runAgain, Control.Run, Steady, silent_ne_panicked]

/-- A task may be run more often than its policy allows, though nobody drains. -/
theorem exists_overrun :
    ¬∀ (c : Control Unit) (ms : List (Move Unit)), Unbegun c → Control.Run Steady c ms →
      ∀ t, .came t ∈ c.deeds ms → t.runs (c.deeds ms) ≤ max t.policy.maxRuns 1 := by
  intro hclaim
  let c : Control Unit := { world := () }
  obtain ⟨t, hcame, hruns, hmax⟩ : ∃ t ∈ (c.deeds runAgain).filterMap Deed.came?,
      t.runs (c.deeds runAgain) = 2 ∧ t.policy.maxRuns = 1 := by decide +kernel
  have hle := hclaim c runAgain ⟨rfl, rfl, rfl⟩ run_runAgain t (Deed.mem_came?.mp hcame)
  rw [hruns, hmax] at hle
  omega

end Control

end GameFleet
