import GameFleet.Proofs.Queue.Faithful
import GameFleet.Proofs.Queue.Precedence

/-!
# First come, first picked (specification §4.1)

The tasks that wait are told apart by their places. Whenever it is the turn of a dispatch, it picks
the task that comes first of those that are due, so no task is run before it is due. Of two tasks
that came one after the other the first is picked before the second, whatever becomes of the other
tasks: until it is picked it waits as it came, and whoever came later comes after it.

- `Control.taken`: the tasks that were picked in a run.
- `Control.InTurn`: the invariant; `InTurn.apply_of_pick`, `InTurn.apply_of_no_pick`: every move
  keeps it.
- `Control.PicksRight`: a pick of the earliest task.
- `Control.first_come`: the theorem.
-/

namespace GameFleet.Control

variable {ω : Type} {c : Control ω} {m : Move ω} {ms : List (Move ω)} {ds : List Deed}
  {picked : List Nat} {o : Option Task}

/-- The tasks that were picked in a run, the last first, each by the place it had when it came. -/
def taken (c : Control ω) : List (Move ω) → List Nat
  | [] => []
  | m :: earlier =>
    (((c.after earlier).pick? m).join.map fun t => origin (c.deeds earlier) t.seq).toList
      ++ c.taken earlier

/-! ### Waiting to be picked -/

/-- A task waits as it came until it is picked, and those that came before it are picked before it.
A task that a dispatch holds is due. -/
structure InTurn (c : Control ω) (ds : List Deed) (picked : List Nat) : Prop where
  origin_eq : ∀ t, .came t ∈ ds → origin ds t.seq = t.seq
  due : ∀ t, .came t ∈ ds → t.due ≤ c.elapsed
  waits : ∀ t, .came t ∈ ds → t.seq ∉ picked → t ∈ c.queue.tasks
  before : ∀ s t, [.came t, .came s].Sublist ds → s.before t = true
  first : ∀ s t, [.came t, .came s].Sublist ds → t.seq ∈ picked → s.seq ∈ picked
  came : ∀ n ∈ picked, ∃ t, .came t ∈ ds ∧ t.seq = n
  held : ∀ k t, c.dispatch? k = some (.holding t) → t.due ≤ c.elapsed

/-- The task that comes is new. -/
theorem isNew_of_came {t : Task} (hm : Steady c m) (h : c.deed? m = some (.came t)) :
    c.IsNew t := by
  have hdoes := does hm
  rw [h] at hdoes
  cases hdoes with
  | enqueues hnew _ => exact hnew

/-- Of two deeds, one after the other, either both were done before, or the later one has only just
been done. -/
theorem sublist_toList_append {e : Option Deed} {d d' : Deed}
    (h : [d, d'].Sublist (e.toList ++ ds)) : [d, d'].Sublist ds ∨ e = some d ∧ d' ∈ ds := by
  cases e with
  | none => exact .inl h
  | some e =>
    cases h with
    | cons _ h => exact .inl h
    | cons_cons _ h => exact .inr ⟨rfl, List.singleton_sublist.mp h⟩

namespace InTurn

/-- Nothing has come yet, and nobody dispatches. -/
theorem of_unbegun (ho : Unbegun c) : InTurn c [] [] := by
  have hpair : ∀ s t, ¬[Deed.came t, .came s].Sublist [] := by
    intro s t h
    cases h
  refine ⟨fun t ht => ?_, fun t ht => ?_, fun t ht => ?_, fun s t hst => absurd hst (hpair s t),
    fun s t hst => absurd hst (hpair s t), fun n hn => ?_, fun k t hk => ?_⟩
  · cases ht
  · cases ht
  · cases ht
  · cases hn
  · unfold dispatch? at hk
    rw [ho.threads] at hk
    cases hk

theorem due_apply (h : InTurn c ds picked) {t : Task} (ht : .came t ∈ ds) :
    t.due ≤ (c.apply m).elapsed :=
  Nat.le_trans (h.due t ht) (le_elapsed_apply m)

theorem held_apply (h : InTurn c ds picked) {k : Nat} {t : Task}
    (hk : (c.apply m).dispatch? k = some (.holding t)) : t.due ≤ (c.apply m).elapsed := by
  refine Nat.le_trans ?_ (le_elapsed_apply m)
  obtain hsame | hpick := holding_apply hk
  · exact h.held k t hsame
  · have hfirst := (pick_cases hpick).1.symm
    exact Task.isDue_iff.mp (TaskQueue.earliest?_mem hfirst).2

/-- A task that is picked for the first time is picked after those that came before it. -/
theorem first_of_pick (h : InTurn c ds picked) (ha : Accounted c ds) {s t u : Task}
    (hu : TaskQueue.earliest? c.elapsed c.queue.tasks = some u)
    (hst : [.came t, .came s].Sublist ds) (ht : t.seq = origin ds u.seq) : s.seq ∈ picked := by
  have hs : .came s ∈ ds := hst.subset (List.mem_cons_of_mem _ (List.mem_singleton_self _))
  have hcame : .came t ∈ ds := hst.subset (List.mem_cons_self ..)
  by_contra hno
  -- Neither was picked before, so both wait as they came.
  have hswaits := h.waits s hs hno
  have htwaits := h.waits t hcame fun hpicked => hno (h.first s t hst hpicked)
  have humem := (TaskQueue.earliest?_mem hu).1
  have htu : t = u := by
    refine ha.eq_of_origin_eq (List.mem_append_left _ htwaits) (List.mem_append_left _ humem) ?_
    rw [h.origin_eq t hcame, ht]
  have hnot := TaskQueue.not_before_of_earliest? hu s hswaits (h.due s hs)
  rw [← htu, h.before s t hst] at hnot
  cases hnot

/-- A dispatch picks a task, or finds none. -/
theorem apply_of_pick (h : InTurn c ds picked) (ha : Accounted c ds) (hp : c.pick? m = some o) :
    InTurn (c.apply m) ds ((o.map fun t => origin ds t.seq).toList ++ picked) := by
  obtain ⟨hfirst, -⟩ := pick_cases hp
  obtain ⟨-, hq⟩ := waiting_of_pick hp
  cases o with
  | none =>
    refine ⟨h.origin_eq, fun t => h.due_apply, fun t ht hno => ?_, h.before, h.first, h.came,
      fun k t => h.held_apply⟩
    rw [hq]
    exact h.waits t ht hno
  | some u =>
    change (c.apply m).queue.tasks = TaskQueue.without u.seq c.queue.tasks at hq
    show InTurn _ ds (origin ds u.seq :: picked)
    refine ⟨h.origin_eq, fun t => h.due_apply, fun t ht hno => ?_, h.before,
      fun s t hst ht => ?_, fun n hn => ?_, fun k t => h.held_apply⟩
    · rw [List.mem_cons, not_or] at hno
      have hne : t.seq ≠ u.seq := by
        intro heq
        rw [← heq, h.origin_eq t ht] at hno
        exact hno.1 rfl
      rw [hq]
      exact (List.mem_eraseP_of_neg (by simpa using hne)).mpr (h.waits t ht hno.2)
    · refine List.mem_cons_of_mem _ ?_
      rcases List.mem_cons.mp ht with ht | ht
      · exact h.first_of_pick ha hfirst.symm hst ht
      · exact h.first s t hst ht
    · rcases List.mem_cons.mp hn with rfl | hn
      · have hmem := (TaskQueue.earliest?_mem hfirst.symm).1
        obtain ⟨t, ht, heq⟩ := ha.exists_came (List.mem_append_left _ hmem)
        exact ⟨t, ht, (congrArg Prod.fst heq).symm⟩
      · exact h.came n hn

/-- No dispatch picks a task, and perhaps something is done with one. -/
theorem apply_of_no_pick (h : InTurn c ds picked) (ha : Accounted c ds) (hm : Steady c m)
    (hp : c.pick? m = none) : InTurn (c.apply m) ((c.deed? m).toList ++ ds) picked := by
  have hq := waiting_apply hm hp
  have hold : ∀ {t : Task}, .came t ∈ ds → t.seq < c.queue.nextSeq :=
    fun ht => ha.came_lt _ (Deed.mem_came?.mpr ht)
  -- A task that comes is new, and there is no other that came at the same time.
  have hcases : ∀ {t : Task}, .came t ∈ (c.deed? m).toList ++ ds →
      (c.deed? m = some (.came t) ∧ c.IsNew t) ∨ .came t ∈ ds := by
    intro t ht
    rcases List.mem_append.mp ht with ht | ht
    · have he := Option.mem_toList.mp ht
      exact .inl ⟨he, isNew_of_came hm he⟩
    · exact .inr ht
  refine ⟨fun t ht => ?_, fun t ht => ?_, fun t ht hno => ?_, fun s t hst => ?_,
    fun s t hst ht => ?_, fun n hn => ?_, fun k t => h.held_apply⟩
  · obtain ⟨he, hnew⟩ | ht := hcases ht
    · rw [he]
      exact ha.origin_eq _ (Nat.le_of_eq hnew.seq.symm)
    · exact ((does hm).origin_eq ds (hold ht)).trans (h.origin_eq t ht)
  · obtain ⟨-, hnew⟩ | ht := hcases ht
    · exact hnew.due ▸ le_elapsed_apply m
    · exact h.due_apply ht
  · rw [hq, List.mem_append]
    obtain ⟨he, -⟩ | ht := hcases ht
    · rw [he]
      exact .inr (List.mem_singleton_self _)
    · exact .inl (h.waits t ht hno)
  · obtain hst | ⟨he, hs⟩ := sublist_toList_append hst
    · exact h.before s t hst
    · have hnew := isNew_of_came hm he
      have hdue := h.due s hs
      have hlt := hold hs
      rw [Task.before_iff, hnew.due, hnew.seq]
      omega
  · obtain hst | ⟨he, -⟩ := sublist_toList_append hst
    · exact h.first s t hst ht
    · -- What has only just come was not picked yet.
      obtain ⟨u, hu, heq⟩ := h.came _ ht
      have hlt := hold hu
      have hnew := isNew_of_came hm he
      rw [heq, hnew.seq] at hlt
      exact absurd hlt (Nat.lt_irrefl _)
  · obtain ⟨t, ht, heq⟩ := h.came n hn
    exact ⟨t, List.mem_append_right _ ht, heq⟩

end InTurn

/-- Tasks are in turn after every run. -/
theorem inTurn_after (ho : Unbegun c) (hrun : Control.Run Steady c ms) :
    InTurn (c.after ms) (c.deeds ms) (c.taken ms) := by
  induction ms with
  | nil => exact .of_unbegun ho
  | cons m earlier ih =>
    have ha := (accounted_after ho hrun.1).2
    show InTurn ((c.after earlier).apply m)
      (((c.after earlier).deed? m).toList ++ c.deeds earlier)
      ((((c.after earlier).pick? m).join.map _).toList ++ c.taken earlier)
    cases hp : (c.after earlier).pick? m with
    | none => exact (ih hrun.1).apply_of_no_pick ha hrun.2 hp
    | some o =>
      rw [(waiting_of_pick hp).1]
      exact (ih hrun.1).apply_of_pick ha hp

/-! ### Picks -/

/-- A pick is right. Nothing is found to pick exactly when no task that waits is due. A task that is
picked is due and comes before all others that wait, which wait on. The same is picked in whatever
order the tasks are listed. -/
structure PicksRight (c : Control ω) (m : Move ω) (o : Option Task) : Prop where
  none_iff : o = none ↔ ∀ u ∈ c.queue.tasks, c.elapsed < u.due
  mem : ∀ t, o = some t → t ∈ c.queue.tasks ∧ t.due ≤ c.elapsed
  before : ∀ t, o = some t → ∀ u ∈ c.queue.tasks, u.seq ≠ t.seq → t.before u = true
  rest : c.queue.tasks.Perm (o.toList ++ (c.apply m).queue.tasks)
  anyOrder : ∀ tasks : List Task, tasks.Perm c.queue.tasks →
    ({ c with queue := ⟨tasks, c.queue.nextSeq⟩ } : Control ω).pick? m = some o

/-- Every pick is right. -/
theorem picksRight_of_pick (hn : (c.queue.tasks.map Task.seq).Nodup) (hp : c.pick? m = some o) :
    PicksRight c m o := by
  obtain ⟨hfirst, S, k, choice, rfl, hd, hhead⟩ := pick_cases hp
  obtain ⟨-, hq⟩ := waiting_of_pick hp
  refine ⟨?_, fun t ht => ?_, fun t ht u hu hne => ?_, ?_, fun tasks hperm => ?_⟩
  · rw [hfirst, TaskQueue.earliest?_eq_none_iff]
    simp [Task.isDue]
  · obtain ⟨hmem, hdue⟩ := TaskQueue.earliest?_mem (hfirst.symm.trans ht)
    exact ⟨hmem, Task.isDue_iff.mp hdue⟩
  · exact TaskQueue.before_of_earliest? (hfirst.symm.trans ht) hu hne
  · rw [hq]
    cases o with
    | none => exact .refl _
    | some t => exact TaskQueue.perm_without hn (TaskQueue.earliest?_mem hfirst.symm).1
  · rw [hfirst, ← TaskQueue.earliest?_perm hn hperm]
    exact pick?_step (c := { c with queue := ⟨tasks, c.queue.nextSeq⟩ }) hd hhead S choice

/-- The tasks that wait have different places. A dispatch whose turn it is picks a task or finds
none to pick, and every pick is right. No task is run before it is due. Of two tasks that came one
after the other the first was picked before the second is. -/
theorem first_come (ho : Unbegun c) (hrun : Control.Run Steady c ms) :
    ((c.after ms).queue.tasks.map Task.seq).Nodup ∧
    (∀ S k choice, (c.after ms).dispatch? k = some .inLine → (c.after ms).line.head? = some k →
      ∃ o, (c.after ms).pick? (.step S k choice) = some o) ∧
    ∀ m earlier, ms = m :: earlier →
      (∀ o, (c.after earlier).pick? m = some o → PicksRight (c.after earlier) m o) ∧
      (∀ t p, (c.after earlier).deed? m = some (.ran t p) → t.due ≤ (c.after earlier).elapsed) ∧
      ∀ s t u, [.came t, .came s].Sublist (c.deeds earlier) →
        (c.after earlier).pick? m = some (some u) → origin (c.deeds earlier) u.seq = t.seq →
        s.seq ∈ c.taken earlier := by
  refine ⟨(accounted_after ho hrun).2.nodup_seq,
    fun S k choice hd hhead => ⟨_, pick?_step hd hhead S choice⟩, ?_⟩
  rintro m earlier rfl
  have ha := (accounted_after ho hrun.1).2
  have hturn := inTurn_after ho hrun.1
  refine ⟨fun o hp => picksRight_of_pick ha.nodup_seq hp, fun t p he => ?_,
    fun s t u hst hp hu => ?_⟩
  · obtain ⟨S, k, choice, -, hk⟩ := step_of_deed he rfl
    exact hturn.held k t hk
  · exact hturn.first_of_pick ha (pick_cases hp).1.symm hst hu.symm

/-- Two tasks come that may run twice. The run of the first fails and that of the second does not,
and then the first is picked again. -/
def secondTry : List (Move Unit) :=
  let task (kind : String) : Move Unit :=
    .enqueue silent { kind, payload := .null, policy := { maxRuns := 2 } }
  let turns (steps tid : Nat) : List (Move Unit) := List.replicate steps (.step silent tid 0)
  turns 2 2 ++ .dispatch :: turns 6 1 ++ .dispatch :: .pass 1000 :: turns 6 0 ++
    [.dispatch, task "echo", task "fail", .register "echo" pure,
      .register "fail" fun _ => throw (.internal "no")]

theorem run_secondTry : Control.Run Steady { world := () } secondTry := by
  simp [secondTry, Control.Run, Steady, silent_ne_panicked]

/-- The second task is picked before the first is picked again. -/
theorem first_come_secondTry :
    let c : Control Unit := { world := () }
    c.taken secondTry = [1, 2, 1] ∧
    ∀ o, (c.after secondTry.tail).pick? (.step silent 2 0) = some o →
      PicksRight (c.after secondTry.tail) (.step silent 2 0) o :=
  ⟨by decide +kernel, ((first_come ⟨rfl, rfl, rfl⟩ run_secondTry).2.2 _ _ rfl).1⟩

end GameFleet.Control
