import GameFleet.Proofs.Idle.Scene
import GameFleet.Proofs.Work.Trace

/-!
# The steps of work in any order

What a cycle asks is what its survey asks, and then what its steps ask, one among the other. To each
step it is as if it went on alone.

- `Work.Returns`, `Work.returns`: work ends, in whatever order its steps go on.
- `Work.Goes`: some work goes on, and gets certain answers.
- `Work.Goes.survey`, `Work.Goes.steps`: what a cycle that has ended is to its survey, and to each
  of its steps.
- `Asked.perm_ofStep`: all that is asked is what the steps ask.
-/

namespace GameFleet

namespace Work

/-- Work ends, in whatever order its steps go on and whatever the answers are. -/
inductive Returns : Work → Prop where
  | ended {w : Work} {o : Outcome Yield} (h : w.outcome? = some o) : Returns w
  | goes {w : Work} (hpose : ∃ k r next, w.pose? k = some ⟨r, next⟩)
    (h : ∀ k r next, w.pose? k = some ⟨r, next⟩ → ∀ a, Returns (next a)) : Returns w

/-- One of several programs was answered. -/
def Answered (l' l : List (Running Unit)) : Prop :=
  ∃ k r next a, l[k]? = some (.ask r next) ∧ l' = l.set k (next a)

/-- Another program does not go on forever, nor do the others. -/
theorem acc_cons (p : Running Unit) {l : List (Running Unit)} (hl : Acc Answered l) :
    Acc Answered (p :: l) := by
  -- The outer induction is on the program, the inner one on how the others go on.
  induction p generalizing l with
  | done v =>
    induction hl with
    | intro l _ ih =>
      refine ⟨_, ?_⟩
      rintro _ ⟨_ | k, r, next, a, hk, rfl⟩
      · cases hk
      · exact ih _ ⟨k, r, next, a, hk, rfl⟩
  | ask r next ihp =>
    induction hl with
    | intro l hl ih =>
      refine ⟨_, ?_⟩
      rintro _ ⟨_ | k, r', next', a, hk, rfl⟩
      · cases hk
        exact ihp a ⟨_, hl⟩
      · exact ih _ ⟨k, r', next', a, hk, rfl⟩

theorem acc_answered (l : List (Running Unit)) : Acc Answered l := by
  induction l with
  | nil =>
    refine ⟨_, ?_⟩
    rintro _ ⟨k, r, next, a, hk, -⟩
    cases hk
  | cons p l ih => exact acc_cons p ih

/-- As long as a step is open, the cycle asks for something. -/
theorem exists_pose {b : Batch} (h : b.openSteps ≠ []) :
    ∃ k r next, (Work.cycle (.done (.ok b))).pose? k = some ⟨r, next⟩ := by
  obtain ⟨k, hk⟩ := List.exists_mem_of_ne_nil _ h
  obtain ⟨⟨s, j⟩, hs, hopen⟩ := List.mem_filterMap.mp hk
  rw [List.mem_zipIdx_iff_getElem?] at hs
  obtain ⟨id, label, work⟩ := s
  cases work with
  | done v => cases hopen
  | ask r next =>
    refine ⟨j, r, fun a => .cycle (.done (.ok (b.setBranch j (next a)))), ?_⟩
    simp only [Work.pose?, hs]

/-- The works of the steps once one of them was answered. -/
theorem works_setBranch (b : Batch) (k : Nat) (work : Running Unit) :
    (b.setBranch k work).branches.map Branch.work = (b.branches.map Branch.work).set k work := by
  refine List.ext_getElem? fun j => ?_
  rw [Batch.setBranch, List.getElem?_map, List.getElem?_modify, List.getElem?_set,
    List.getElem?_map]
  by_cases hkj : k = j
  · subst hkj
    cases hb : b.branches[k]? with
    | none => simp [List.getElem?_eq_none_iff.mp hb]
    | some s => simp [(List.getElem?_eq_some_iff.mp hb).1]
  · simp [hkj]

theorem returns_steps (b : Batch) : (Work.cycle (.done (.ok b))).Returns := by
  generalize hl : b.branches.map Branch.work = l
  have hacc := acc_answered l
  induction hacc generalizing b with
  | intro l _ ih =>
    by_cases hopen : b.openSteps = []
    · refine .ended (o := b.outcome.map fun _ => .nothing) ?_
      rw [Work.outcome?, hopen]
      rfl
    · refine .goes (exists_pose hopen) ?_
      intro k r next hpose a
      obtain ⟨s, next', hk, hs, rfl⟩ := Batch.exists_of_pose hpose
      refine ih _ ⟨k, r, next', a, ?_, rfl⟩ _ ?_
      · rw [← hl, List.getElem?_map, hk, ← hs]
        rfl
      · rw [works_setBranch, hl]

theorem returns (w : Work) : w.Returns := by
  cases w with
  | plain p =>
    induction p with
    | done o => exact .ended rfl
    | ask r next ih =>
      refine .goes ⟨0, r, _, rfl⟩ ?_
      intro k r next hpose a
      cases hpose
      exact ih a
  | cycle p =>
    induction p with
    | done o =>
      cases o with
      | error f => exact .ended rfl
      | ok b => exact returns_steps b
    | ask r next ih =>
      refine .goes ⟨0, r, _, rfl⟩ ?_
      intro k r next hpose a
      cases hpose
      exact ih a

/-- Work goes on, its steps in any order, and gets certain answers. -/
inductive Goes : Work → List Asked → Work → Prop where
  | rest (w : Work) : Goes w [] w
  | step {w v : Work} {tr : List Asked} {k : Nat} {r : Request} {next : r.Answer → Work}
      (a : r.Answer) (hpose : w.pose? k = some ⟨r, next⟩) (h : Goes (next a) tr v) :
      Goes w (⟨w.treats? k, r, a⟩ :: tr) v

end Work

/-- What was asked, with the answer. -/
def Asked.reply (e : Asked) : Program.Reply Request Request.Answer := ⟨e.request, e.answer⟩

/-- A batch once all of its steps have ended. -/
def Batch.ended (b : Batch) (ends : InstanceId → Outcome Unit) : Batch :=
  { b with branches := b.branches.map fun s => { s with work := .done (ends s.id) } }

theorem Batch.ended_setBranch (b : Batch) (k : Nat) (work : Running Unit)
    (ends : InstanceId → Outcome Unit) : (b.setBranch k work).ended ends = b.ended ends := by
  simp only [Batch.ended, Batch.setBranch]
  refine congrArg (Batch.mk b.policy b.failures) (List.ext_getElem? fun j => ?_)
  rw [List.getElem?_map, List.getElem?_modify, List.getElem?_map]
  by_cases hkj : k = j
  · cases b.branches[j]? <;> simp [hkj]
  · simp [hkj]

namespace Work.Goes

variable {tr : List Asked} {w : Work} {o : Outcome Yield} {b : Batch}

/-- A cycle that has ended has ended its survey first. -/
theorem survey {p : Running Batch} (h : Goes (.cycle p) tr w) (ho : w.outcome? = some o) :
    ∃ tr₁ v tr₂, tr = tr₁ ++ tr₂ ∧ (∀ e ∈ tr₁, e.step = none) ∧
      p.Gives (tr₁.map Asked.reply) v ∧ Goes (.cycle (.done v)) tr₂ w := by
  generalize hw : Work.cycle p = u at h
  induction h generalizing p with
  | rest w =>
    subst hw
    cases p with
    | done v => exact ⟨[], v, [], rfl, List.forall_mem_nil _, .done v, .rest _⟩
    | ask r next => cases ho
  | @step _ _ tr k r _ a hpose h ih =>
    subst hw
    cases p with
    | done v => exact ⟨[], v, _, rfl, List.forall_mem_nil _, .done v, .step a hpose h⟩
    | ask r next =>
      cases hpose
      obtain ⟨tr₁, v, tr₂, rfl, hnone, hgives, hrest⟩ := ih ho rfl
      exact ⟨_ :: tr₁, v, tr₂, rfl, List.forall_mem_cons.mpr ⟨rfl, hnone⟩,
        .ask r next a hgives, hrest⟩

/-- When a cycle has ended, every step has ended as if it had gone on alone. -/
theorem steps (h : Goes (.cycle (.done (.ok b))) tr w) (ho : w.outcome? = some o)
    (hnodup : (b.branches.map Branch.id).Nodup) :
    ∃ ends : InstanceId → Outcome Unit, w = .cycle (.done (.ok (b.ended ends))) ∧
      (∀ s ∈ b.branches, s.work.Gives ((Asked.ofStep s.id tr).map Asked.reply) (ends s.id)) ∧
      ∀ e ∈ tr, ∃ id ∈ b.branches.map Branch.id, e.step = some id := by
  generalize hw : Work.cycle (.done (.ok b)) = u at h
  induction h generalizing b with
  | rest w =>
    subst hw
    have hdone : ∀ id, ∃ v, ∀ s ∈ b.branches, s.id = id → s.work = .done v := by
      intro id
      by_cases hid : ∃ s ∈ b.branches, s.id = id
      · obtain ⟨s, hs, rfl⟩ := hid
        obtain ⟨v, hv⟩ := Batch.done_of_outcome ho hs
        refine ⟨v, fun s' hs' hid => ?_⟩
        rwa [List.inj_on_of_nodup_map hnodup hs' hs hid]
      · exact ⟨.ok (), fun s hs h => absurd ⟨s, hs, h⟩ hid⟩
    choose ends hends using hdone
    have hended : b.ended ends = b := by
      refine congrArg (Batch.mk b.policy b.failures) ?_
      refine (List.map_congr_left fun s hs => ?_).trans (List.map_id _)
      rw [← hends s.id s hs rfl]
      rfl
    refine ⟨ends, by rw [hended], fun s hs => ?_, List.forall_mem_nil _⟩
    rw [hends s.id s hs rfl]
    exact .done (ends s.id)
  | @step _ _ tr k r _ a hpose h ih =>
    subst hw
    obtain ⟨s, next, hk, hs, rfl⟩ := Batch.exists_of_pose hpose
    have hids := b.ids_setBranch k (next a)
    obtain ⟨ends, rfl, hgives, hsteps⟩ := ih ho (hids ▸ hnodup) rfl
    rw [hids] at hsteps
    rw [Work.treats?_of_branch hk]
    refine ⟨ends, by rw [Batch.ended_setBranch], fun s' hs' => ?_, ?_⟩
    · by_cases hid : s.id = s'.id
      · -- It is this step that was answered.
        obtain rfl : s = s' :=
          List.inj_on_of_nodup_map hnodup (List.mem_of_getElem? hk) hs' hid
        have hrest := hgives _ (Batch.mem_setBranch_self hk)
        rw [Asked.ofStep, List.filter_cons_of_pos (by simp), List.map_cons, hs]
        exact .ask r next a hrest
      · rw [Asked.ofStep, List.filter_cons_of_neg (by simpa using hid)]
        exact hgives s' (Batch.mem_setBranch_of_ne hk hs' hid)
    · have hmem : s.id ∈ b.branches.map Branch.id := List.mem_map_of_mem (List.mem_of_getElem? hk)
      exact List.forall_mem_cons.mpr ⟨⟨s.id, hmem, rfl⟩, hsteps⟩

end Work.Goes

/-- All that is asked is what the steps ask, in some order. -/
theorem Asked.perm_ofStep {ids : List InstanceId} (hnodup : ids.Nodup) {tr : List Asked}
    (h : ∀ e ∈ tr, ∃ id ∈ ids, e.step = some id) :
    tr.Perm (ids.flatMap fun id => Asked.ofStep id tr) := by
  induction ids generalizing tr with
  | nil =>
    cases tr with
    | nil => exact .nil
    | cons e tr =>
      obtain ⟨id, hid, -⟩ := h e List.mem_cons_self
      cases hid
  | cons id ids ih =>
    obtain ⟨hid, hnodup⟩ := List.nodup_cons.mp hnodup
    let others := tr.filter fun e => !decide (e.step = some id)
    have hothers : ∀ e ∈ others, ∃ id' ∈ ids, e.step = some id' := by
      intro e he
      obtain ⟨hmem, hne⟩ := List.mem_filter.mp he
      obtain ⟨id', hid', hstep⟩ := h e hmem
      obtain rfl | hid' := List.mem_cons.mp hid'
      · simp [hstep] at hne
      · exact ⟨id', hid', hstep⟩
    have hsame : ∀ id' ∈ ids, Asked.ofStep id' others = Asked.ofStep id' tr := by
      intro id' hid'
      rw [Asked.ofStep, Asked.ofStep, List.filter_filter]
      refine List.filter_congr fun e _ => ?_
      by_cases hstep : e.step = some id'
      · have hne : id' ≠ id := fun heq => hid (heq ▸ hid')
        simp [hstep, hne]
      · simp [hstep]
    have hrest : others.Perm (ids.flatMap fun id' => Asked.ofStep id' tr) := by
      refine (ih hnodup hothers).trans (List.Perm.of_eq ?_)
      exact List.flatMap_congr hsame
    exact (List.filter_append_perm (fun e => decide (e.step = some id)) tr).symm.trans
      (hrest.append_left _)

end GameFleet
