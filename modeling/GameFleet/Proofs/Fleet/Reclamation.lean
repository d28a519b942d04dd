import GameFleet.Proofs.Fleet.Termination
import GameFleet.Control.Dispatch
import GameFleet.Reclaim
import Mathlib.Data.List.Nodup

/-!
# Reclamation cycles behave

The survey of a cycle behaves, and gives steps that treat different instances and behave whatever
the others do.

- `Branch.Fits`: the step of a cycle behaves.
- `Batch.Fits`: the steps of a cycle behave and treat different instances.
- `Policy.survey_behaves`: the survey of every policy gives such steps.
- `FollowUp.plain_work`: what follows a task is plain.
-/

namespace GameFleet

open Registry Program

/-- The step of a cycle behaves. -/
def Branch.Fits (tid : Nat) (s : Branch) : Prop :=
  ∀ own b, b.Sane → b.Calm tid → Behaves ⟨tid, some s.id⟩ (fun _ b => b.Calm tid) own s.work b

/-- The steps of a cycle behave and treat different instances. -/
structure Batch.Fits (tid : Nat) (t : Batch) : Prop where
  nodup : (t.branches.map Branch.id).Nodup
  fits : ∀ s ∈ t.branches, s.Fits tid

variable {tid : Nat} {own : List Uuid} {b : Registry}

/-- A plain step behaves. -/
theorem Branch.fits_of_plain {s : Branch} (h : s.work.Plain) : s.Fits tid := by
  intro own b hs hc
  exact (Behaves.of_plain hs h hc.1).mono fun _ _ hb => Calm.beside hc hb

/-- A step that tells the players of its instance and then terminates it behaves. -/
theorem Branch.fits_of_evict {i : Instance} {label reason notice : String} {timeout : Span}
    {f : Bool → Op Unit} (hf : ∀ deleted, (f deleted).run.Plain) :
    (Branch.of i label do
      Op.bestEffort (Op.say i notice timeout)
      f (← Termination.remove i.id reason)).Fits tid := by
  intro own b hs hc
  have hnotice : (Op.bestEffort (Op.say i notice timeout)).run.Plain :=
    .bestEffort (.say Request.isPlain_of_isRemark ..)
  refine Behaves.andThen hs (Q := fun _ b => b.Calm tid)
    ((Behaves.of_plain hs hnotice hc.1).mono fun _ _ hb => Calm.beside hc hb) ?_ fun _ _ h => h
  intro own _ b _ _ hs hc
  refine Behaves.andThen hs (Termination.remove_behaves hs hc (fun k hk => ?_) reason)
    ?_ fun _ _ h => h
  · cases hk
    rfl
  · intro own deleted b _ _ hs hc
    exact (Behaves.of_plain hs (hf deleted) hc.1).mono fun _ _ hb => Calm.beside hc hb

/-- Two choices of items that have nothing in common hold each key once. -/
theorem nodup_filter_append {α κ : Type} {key : α → κ} {p q : α → Bool} {items : List α}
    (h : (items.map key).Nodup) (hpq : ∀ a, p a = true → q a = false) :
    ((items.filter p ++ items.filter q).map key).Nodup := by
  rw [List.map_append, List.nodup_append]
  refine ⟨h.sublist (List.filter_sublist.map key), h.sublist (List.filter_sublist.map key), ?_⟩
  intro k hk l hl hkl
  obtain ⟨a, ha, rfl⟩ := List.mem_map.mp hk
  obtain ⟨c, hc, rfl⟩ := List.mem_map.mp hl
  rw [List.mem_filter] at ha hc
  obtain rfl : a = c := List.inj_on_of_nodup_map h ha.1 hc.1 hkl
  have := hpq a ha.2
  rw [hc.2] at this
  cases this

/-- Steps for different instances, of two kinds, that behave. -/
theorem Batch.fits_append {p : Policy} {failures : List String} {ss ts : List Branch}
    (hn : ((ss ++ ts).map Branch.id).Nodup) (hss : ∀ s ∈ ss, s.Fits tid)
    (hts : ∀ s ∈ ts, s.Fits tid) : Batch.Fits tid ⟨p, failures, ss ++ ts⟩ :=
  ⟨hn, fun s hs => (List.mem_append.mp hs).elim (hss s) (hts s)⟩

/-- What a survey ends in. -/
def Surveyed (tid : Nat) (o : Outcome Batch) (b : Registry) : Prop :=
  b.Calm tid ∧ ∀ t, o = .ok t → t.Fits tid

/-- A call that lists instances gives different ones. -/
theorem listed (hc : b.Calm tid) (status : Option Status) :
    Behaves ⟨tid, none⟩ (fun o b => b.Calm tid ∧
      ∀ rows : List Instance, o = .ok rows → (rows.map Instance.id).Nodup) own
      (Op.call (.listInstances status)).run b := by
  refine .call fun b' hb => ⟨?_, fun locking o b'' h b₃ hb₃ => ⟨?_, ?_⟩⟩
  · exact .of_mild (hc.beside hb).1 rfl (fun k id hk he => nomatch he) trivial
  · exact ((hc.beside hb).answers h rfl).beside hb₃
  · rintro rows rfl
    rw [h.read_eq rfl]
    have hperm := (Sorting.sorted_perm (fun a b => a.createdAt.le b.createdAt)
      (b'.rows.filter fun i => (status.map (· == i.status)).getD true)).map Instance.id
    exact hperm.nodup_iff.mpr (hb.sane.nodup.sublist (List.filter_sublist.map _))

/-- A plain operation leaves a thread calm. -/
theorem calm_of_plain {α : Type} {op : Op α} (hs : b.Sane) (hc : b.Calm tid)
    (hp : op.run.Plain) : Behaves ⟨tid, none⟩ (fun _ b => b.Calm tid) own op.run b :=
  (Behaves.of_plain hs hp hc.1).mono fun _ _ hb => Calm.beside hc hb

namespace Lifetime

theorem survey_behaves (s : FleetSettings) (hs : b.Sane) (hc : b.Calm tid) :
    Behaves ⟨tid, none⟩ (Surveyed tid) own (survey s).run b := by
  refine Behaves.andThen hs (calm_of_plain hs hc (.ask rfl)) ?_ fun _ _ h => ⟨h, nofun⟩
  intro own now b _ _ hs hc
  refine Behaves.andThen hs (listed hc none) ?_ fun _ _ h => ⟨h.1, nofun⟩
  intro own rows b _ _ hs hcr b' hb
  refine ⟨hcr.1.beside hb, fun t ht => ?_⟩
  cases ht
  refine Batch.fits_append ?_ (fun x hx => ?_) fun x hx => ?_
  · have hid : ∀ ws es : List Instance,
        ((ws.map fun i => Branch.of i "warn" (warn s i)) ++
            es.map fun i => Branch.of i "terminate" (evict s i)).map Branch.id =
          (ws ++ es).map Instance.id := by
      intro ws es
      simp [Branch.of, Function.comp_def]
    rw [hid]
    refine nodup_filter_append (hcr.2 rows rfl) fun i hi => ?_
    rw [decide_eq_true_eq] at hi
    simp [hi]
  · obtain ⟨i, -, rfl⟩ := List.mem_map.mp hx
    exact Branch.fits_of_plain (.say Request.isPlain_of_isRemark ..)
  · obtain ⟨i, -, rfl⟩ := List.mem_map.mp hx
    exact Branch.fits_of_evict (f := fun _ => pure ()) fun _ => .pure trivial

end Lifetime

namespace Stuck

theorem reclaim_behaves (minutes : Nat) (i : Instance) (hs : b.Sane) (hc : b.Calm tid) :
    Behaves ⟨tid, none⟩ (fun _ b => b.Calm tid) own (reclaim minutes i).run b := by
  refine Behaves.andThen hs (Q := fun _ b => b.Calm tid)
    (Meets.attempt (Termination.remove_behaves hs hc (fun _ h => by cases h) _)) ?_
    fun _ _ h => h
  intro own o b _ _ hs hc
  match o with
  | .ok true =>
    exact calm_of_plain hs hc
      (.andThen (.tell Request.isPlain_of_isRemark ..) fun _ _ => .pure trivial)
  | .ok false => exact fun b' hb => Calm.beside hc hb
  | .error f => exact fun b' hb => Calm.beside hc hb

theorem reclaimAll_behaves (maxAge : Span) (now : Timestamp) (rows : List Instance) (hs : b.Sane)
    (hc : b.Calm tid) :
    Behaves ⟨tid, none⟩ (fun _ b => b.Calm tid) own (reclaimAll maxAge now rows).run b := by
  induction rows generalizing own b with
  | nil => exact fun b' hb => Calm.beside hc hb
  | cons i rest ih =>
    unfold reclaimAll
    split
    · refine Behaves.andThen hs (reclaim_behaves _ i hs hc) ?_ fun _ _ h => h
      intro own failure b _ _ hs hc
      refine Behaves.andThen hs (ih hs hc) ?_ fun _ _ h => h
      exact fun own failures b _ _ hs hc b' hb => Calm.beside hc hb
    · exact ih hs hc

theorem survey_behaves (s : FleetSettings) (hs : b.Sane) (hc : b.Calm tid) :
    Behaves ⟨tid, none⟩ (Surveyed tid) own (survey s).run b := by
  refine Behaves.andThen hs (calm_of_plain hs hc (.ask rfl)) ?_ fun _ _ h => ⟨h, nofun⟩
  intro own now b _ _ hs hc
  refine Behaves.andThen hs (listed hc _) ?_ fun _ _ h => ⟨h.1, nofun⟩
  intro own rows b _ _ hs hcr
  refine Behaves.andThen hs (reclaimAll_behaves _ now rows hs hcr.1) ?_ fun _ _ h => ⟨h, nofun⟩
  intro own failures b _ _ hs hc b' hb
  refine ⟨Calm.beside hc hb, fun t ht => ?_⟩
  cases ht
  exact ⟨List.nodup_nil, nofun⟩

end Stuck

namespace Idle

theorem plain_refresh (i : Instance) (previous : Option Activity) (timeout : Span) :
    (refresh i previous timeout).run.Plain := by
  have hplayers : (players i timeout).run.Plain :=
    .andThen (.command Request.isPlain_of_isRemark ..) fun _ _ => .pure trivial
  refine .andThen (.attempt hplayers) fun seen _ => ?_
  refine .andThen (.ask rfl) fun now _ => .andThen (.call rfl) fun row _ => ?_
  cases row
  · exact .pure trivial
  · exact .call rfl

theorem plain_enqueueRemoval (i : Instance) (threshold : Span) :
    (enqueueRemoval i threshold).run.Plain := by
  refine .andThen (.ask rfl) fun queued _ => ?_
  cases queued
  · exact .ask rfl
  · exact .pure trivial

/-- The steps for the instances that stay are plain, and at most one is for each. -/
theorem judge_behaves (s : FleetSettings) (activities : List Activity) (now : Timestamp)
    (rows : List Instance) (hs : b.Sane) (hc : b.Calm tid) :
    Behaves ⟨tid, none⟩ (fun o b => b.Calm tid ∧ ∀ steps, o = .ok steps →
      (steps.map Branch.id).Sublist (rows.map Instance.id) ∧ ∀ x ∈ steps, x.Fits tid) own
      (judge s activities now rows).run b := by
  induction rows generalizing own b with
  | nil =>
    refine fun b' hb => ⟨Calm.beside hc hb, fun steps ht => ?_⟩
    cases ht
    exact ⟨.slnil, nofun⟩
  | cons i rest ih =>
    unfold judge
    dsimp only
    split
    · refine Behaves.andThen hs (calm_of_plain hs hc (plain_enqueueRemoval ..)) ?_
        fun _ _ h => ⟨h, nofun⟩
      intro own _ b _ _ hs hc
      refine (ih hs hc).mono fun o b h => ⟨h.1, fun steps ht => ?_⟩
      exact ⟨(h.2 steps ht).1.cons i.id, (h.2 steps ht).2⟩
    · refine Behaves.andThen hs (ih hs hc) ?_ fun _ _ h => ⟨h.1, nofun⟩
      intro own steps b _ _ hs hcr b' hb
      refine ⟨hcr.1.beside hb, fun more ht => ?_⟩
      cases ht
      obtain ⟨hsub, hfits⟩ := hcr.2 steps rfl
      refine ⟨hsub.cons_cons i.id, fun x hx => ?_⟩
      rcases List.mem_cons.mp hx with rfl | hx
      · exact Branch.fits_of_plain (plain_refresh ..)
      · exact hfits x hx

theorem survey_behaves (s : FleetSettings) (hs : b.Sane) (hc : b.Calm tid) :
    Behaves ⟨tid, none⟩ (Surveyed tid) own (survey s).run b := by
  refine Behaves.andThen hs (listed hc _) ?_ fun _ _ h => ⟨h.1, nofun⟩
  intro own rows b _ _ hs hcr
  obtain ⟨hc, hrows⟩ := hcr
  refine Behaves.andThen hs (calm_of_plain hs hc (.call rfl)) ?_ fun _ _ h => ⟨h, nofun⟩
  intro own activities b _ _ hs hc
  refine Behaves.andThen hs (calm_of_plain hs hc (.ask rfl)) ?_ fun _ _ h => ⟨h, nofun⟩
  intro own now b _ _ hs hc
  refine Behaves.andThen hs (judge_behaves s activities now rows hs hc) ?_
    fun _ _ h => ⟨h.1, nofun⟩
  intro own steps b _ _ hs hcr b' hb
  refine ⟨hcr.1.beside hb, fun t ht => ?_⟩
  cases ht
  obtain ⟨hsub, hfits⟩ := hcr.2 steps rfl
  exact ⟨(hrows rows rfl).sublist hsub, hfits⟩

end Idle

namespace Credit

/-- The balance of an owner is found out by plain calls. -/
theorem plain_balanceOf (known : Balances) (owner : OwnerId) :
    (balanceOf known owner).run.Plain := by
  unfold balanceOf
  split
  · exact .pure trivial
  · refine .andThen (.attempt (.call rfl)) fun o _ => ?_
    cases o <;> exact .pure trivial

/-- The instances that are to be treated. -/
def Found.treated (f : Found) : List InstanceId :=
  f.warned.map (·.1.id) ++ f.evicted.map Instance.id

/-- Each instance is treated at most once. -/
theorem judge_behaves (s : FleetSettings) (known : Balances) (rows : List Instance)
    (hn : (rows.map Instance.id).Nodup) (hs : b.Sane) (hc : b.Calm tid) :
    Behaves ⟨tid, none⟩ (fun o b => b.Calm tid ∧ ∀ found, o = .ok found →
      found.treated.Nodup ∧ ∀ id ∈ found.treated, id ∈ rows.map Instance.id) own
      (judge s known rows).run b := by
  induction rows generalizing own b known with
  | nil =>
    refine fun b' hb => ⟨Calm.beside hc hb, fun found ht => ?_⟩
    cases ht
    exact ⟨List.nodup_nil, nofun⟩
  | cons i rest ih =>
    obtain ⟨hi, hrest⟩ := List.nodup_cons.mp hn
    refine Behaves.andThen hs (calm_of_plain hs hc (plain_balanceOf known i.owner)) ?_
      fun _ _ h => ⟨h, nofun⟩
    rintro own ⟨balance, known⟩ b _ _ hs hc
    refine Behaves.andThen hs (ih known hrest hs hc) ?_ fun _ _ h => ⟨h.1, nofun⟩
    intro own found b _ _ hs hcr
    obtain ⟨hc, hfound⟩ := hcr
    obtain ⟨hnodup, hmem⟩ := hfound found rfl
    have hfresh : i.id ∉ found.treated := fun h => hi (hmem _ h)
    have htail : ∀ id ∈ found.treated, id ∈ (i :: rest).map Instance.id :=
      fun id hid => List.mem_cons_of_mem _ (hmem id hid)
    cases balance with
    | error f =>
      refine fun b' hb => ⟨Calm.beside hc hb, fun more ht => ?_⟩
      cases ht
      exact ⟨hnodup, htail⟩
    | ok balance =>
      dsimp only
      split
      · refine fun b' hb => ⟨Calm.beside hc hb, fun more ht => ?_⟩
        cases ht
        refine ⟨List.nodup_middle.mpr (List.nodup_cons.mpr ⟨hfresh, hnodup⟩), fun id hid => ?_⟩
        rcases List.mem_cons.mp (List.perm_middle.mem_iff.mp hid) with rfl | hid
        · exact List.mem_cons_self ..
        · exact htail id hid
      · refine fun b' hb => ⟨Calm.beside hc hb, fun more ht => ?_⟩
        cases ht
        refine ⟨List.nodup_cons.mpr ⟨hfresh, hnodup⟩, fun id hid => ?_⟩
        rcases List.mem_cons.mp hid with rfl | hid
        · exact List.mem_cons_self ..
        · exact htail id hid
      · refine fun b' hb => ⟨Calm.beside hc hb, fun more ht => ?_⟩
        cases ht
        exact ⟨hnodup, htail⟩

theorem survey_behaves (s : FleetSettings) (hs : b.Sane) (hc : b.Calm tid) :
    Behaves ⟨tid, none⟩ (Surveyed tid) own (survey s).run b := by
  refine Behaves.andThen hs (listed hc _) ?_ fun _ _ h => ⟨h.1, nofun⟩
  intro own rows b _ _ hs hcr
  obtain ⟨hc, hrows⟩ := hcr
  refine Behaves.andThen hs (judge_behaves s [] rows (hrows rows rfl) hs hc) ?_
    fun _ _ h => ⟨h.1, nofun⟩
  intro own found b _ _ hs hcr b' hb
  refine ⟨hcr.1.beside hb, fun t ht => ?_⟩
  cases ht
  refine Batch.fits_append ?_ (fun x hx => ?_) fun x hx => ?_
  · have h := (hcr.2 found rfl).1
    rw [Found.treated] at h
    simpa [Branch.of, Function.comp_def] using h
  · obtain ⟨⟨i, balance⟩, -, rfl⟩ := List.mem_map.mp hx
    exact Branch.fits_of_plain (.say Request.isPlain_of_isRemark ..)
  · obtain ⟨i, -, rfl⟩ := List.mem_map.mp hx
    refine Branch.fits_of_evict (f := fun deleted => if deleted then Op.tell _ _ else pure ())
      fun deleted => ?_
    cases deleted
    · exact .pure trivial
    · exact .tell Request.isPlain_of_isRemark ..

end Credit

/-- The survey of every policy behaves, and so do the steps that it gives. -/
theorem Policy.survey_behaves (p : Policy) (s : FleetSettings) (hs : b.Sane) (hc : b.Calm tid) :
    Behaves ⟨tid, none⟩ (Surveyed tid) own (p.survey s).run b := by
  cases p with
  | idle => exact Idle.survey_behaves s hs hc
  | stuck => exact Stuck.survey_behaves s hs hc
  | lifetime => exact Lifetime.survey_behaves s hs hc
  | credit => exact Credit.survey_behaves s hs hc

/-- What follows a task is plain. -/
theorem FollowUp.plain_work (f : FollowUp) (o : Outcome Json.Value) : (f.work o).run.Plain := by
  cases f with
  | evictionNotice owner id minutes =>
    cases o with
    | ok v =>
      dsimp only [FollowUp.work]
      split
      · exact .tell Request.isPlain_of_isRemark ..
      · exact .pure trivial
    | error e => exact Only.pure trivial
  | report name => exact .bestEffort (.call rfl)

end GameFleet
