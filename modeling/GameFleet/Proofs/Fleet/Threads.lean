import GameFleet.Proofs.Fleet.Admission
import GameFleet.Proofs.Fleet.Reclamation
import GameFleet.Control.State

/-!
# Threads of the fleet

What a thread of the fleet still has to do behaves, at any point of its way.

- `Work.Fits`, `Dispatch.Fits`, `Thread.Fits`: what is left to do behaves.
- `Registry.Aside`: what a thread may find changed by the others; `Thread.Fits.aside`: what is left
  to do behaves nevertheless.
- `Work.Fits.pose`: what work asks for next is allowed, and it fits with any answer.
- `Behaves.refused_cases`: a thread that was refused only gives up its transaction and says so.
- `Fleet.IsWork`, `Fleet.IsProcessor`: the work of the fleet; `Fleet.IsWork.fits`: it fits when it
  starts.
-/

namespace GameFleet

open Registry

namespace Registry

/-- What a thread may find changed by the others, whatever step of it looks. -/
def Aside (tid : Nat) (own : List Uuid) (b b' : Registry) : Prop :=
  ∀ r : Role, r.thread = tid → Beside r own b b'

/-- A thread that was refused has ended in saying so, and it has decided about all that it
deployed. -/
def Settled (tid : Nat) (e : Ending) (b : Registry) : Prop :=
  undecided tid b.ledger = [] ∧
    (Refused tid b.ledger → e = .finished (.error (.user Admission.alreadyRunning)))

variable {α : Type} {locking : Bool} {r : Role} {own : List Uuid} {b b' : Registry} {tid : Nat}

theorem Calm.settled (hc : b.Calm tid) (e : Ending) : b.Settled tid e :=
  ⟨hc.undecided_eq, fun hr => absurd hr hc.1⟩

theorem Over.settled {o : Outcome Yield} (h : Over tid o b) : b.Settled tid (.finished o) := by
  refine ⟨h.1, fun hr => ?_⟩
  rw [h.2 hr]

theorem Settled.aside {e : Ending} (h : b.Settled tid e) (ha : Aside tid own b b') :
    b'.Settled tid e := by
  have hb := ha ⟨tid, none⟩ rfl
  refine ⟨List.eq_nil_iff_forall_not_mem.mpr fun id hid => ?_, fun hr => ?_⟩
  · have := hb.mem_undecided hid
    rw [h.1] at this
    cases this
  · exact h.2 (hb.refused_iff.mp hr)

theorem Calm.aside (hc : b.Calm tid) (ha : Aside tid own b b') : b'.Calm tid :=
  Calm.beside hc (ha ⟨tid, none⟩ rfl)

namespace Behaves

/-- A program that ends calmly has not been refused. -/
theorem not_refused {p : Program Request Request.Answer α} (hs : b.Sane)
    (h : Behaves r (fun _ b => b.Calm r.thread) own p b) : ¬Refused r.thread b.ledger := by
  induction p generalizing own b with
  | done a => exact (h b (.refl hs)).1
  | ask q next ih =>
    obtain ⟨ha, hn⟩ := h.asks hs
    cases q with
    | abandon =>
      have hnext := hn false () (b.abandon r.thread) rfl
      have := ih () (hs.abandon _) hnext
      rwa [abandon_eq.2.1] at this
    | call c => exact ha.1
    | freshId => exact ha.1
    | now => exact ha
    | isQueued => exact ha
    | enqueue => exact ha

/-- A thread that was refused has only to say so, perhaps once it has given up its transaction. -/
theorem refused_cases {p : Running α} (hs : b.Sane)
    (h : Behaves r (fun o b => Over r.thread o b) own p b) (hr : Refused r.thread b.ledger) :
    p = .done (.error (.user Admission.alreadyRunning)) ∨
      ∃ next, p = .ask .abandon next ∧
        next () = .done (.error (.user Admission.alreadyRunning)) := by
  cases p with
  | done o =>
    left
    rw [(h b (.refl hs)).2 hr]
  | ask q next =>
    right
    obtain ⟨ha, hn⟩ := h.asks hs
    cases q with
    | abandon =>
      refine ⟨next, rfl, ?_⟩
      have hnext := hn false () (b.abandon r.thread) rfl
      have hs' := hs.abandon r.thread
      have hr' : Refused r.thread (b.abandon r.thread).ledger := by rwa [abandon_eq.2.1]
      -- Nothing is allowed to a thread that was refused and is in no transaction.
      cases hp : next () with
      | done o =>
        rw [hp] at hnext
        rw [(hnext _ (.refl hs')).2 hr']
      | ask q next' =>
        rw [hp] at hnext
        obtain ⟨ha', -⟩ := hnext.asks hs'
        cases q with
        | abandon =>
          have := ha'.2 hr'
          rw [own?_abandon_self] at this
          cases this
        | call c => exact absurd hr' ha'.1
        | freshId => exact absurd hr' ha'.1
        | now => exact absurd hr' ha'
        | isQueued => exact absurd hr' ha'
        | enqueue => exact absurd hr' ha'
    | call c => exact absurd hr ha.1
    | freshId => exact absurd hr ha.1
    | now => exact absurd hr ha
    | isQueued => exact absurd hr ha
    | enqueue => exact absurd hr ha

end Behaves

end Registry

/-! ### What is left to do -/

/-- The steps of a cycle behave from where they are, and treat different instances. -/
structure Batch.Runs (tid : Nat) (own : List Uuid) (t : Batch) (b : Registry) : Prop where
  calm : b.Calm tid
  nodup : (t.branches.map Branch.id).Nodup
  runs : ∀ s ∈ t.branches, Behaves ⟨tid, some s.id⟩ (fun _ b => b.Calm tid) own s.work b

/-- What is left of some work behaves. -/
def Work.Fits (tid : Nat) (own : List Uuid) (b : Registry) : Work → Prop
  | .plain p => Behaves ⟨tid, none⟩ (fun o b => Over tid o b) own p b
  | .cycle (.done (.ok t)) => t.Runs tid own b
  | .cycle p => Behaves ⟨tid, none⟩ (Surveyed tid) own p b

/-- What is left of a dispatch behaves. -/
def Dispatch.Fits (tid : Nat) (own : List Uuid) (b : Registry) : Dispatch → Prop
  | .processing _ p => Behaves ⟨tid, none⟩ (fun _ b => b.Calm tid) own p b
  | .following p => Behaves ⟨tid, none⟩ (fun _ b => b.Calm tid) own p b
  | _ => b.Calm tid

/-- What is left of a thread behaves. -/
def Thread.Fits (tid : Nat) (own : List Uuid) (b : Registry) : Thread → Prop
  | .arriving _ w => b.Calm tid ∧ w.Fits tid own b
  | .working _ w => w.Fits tid own b
  | .dispatching d => d.Fits tid own b
  | .ticking ⟨_, _, some d⟩ => d.Fits tid own b
  | .ticking ⟨_, _, none⟩ => b.Calm tid
  | .looping ⟨_, _, _, some w⟩ => (∃ p, w = .cycle p) ∧ w.Fits tid own b
  | .looping ⟨_, _, _, none⟩ => b.Calm tid
  | .staged .. => b.Calm tid
  | .ended e => b.Settled tid e

section

variable {locking : Bool} {own : List Uuid} {b b' : Registry} {tid : Nat} {q : Request}

theorem Batch.Runs.aside {t : Batch} (h : t.Runs tid own b) (ha : Aside tid own b b') :
    t.Runs tid own b' :=
  ⟨Calm.aside h.calm ha, h.nodup, fun s hs => (h.runs s hs).beside (ha ⟨tid, some s.id⟩ rfl)⟩

theorem Batch.Fits.runs {t : Batch} (h : t.Fits tid) (hs : b.Sane) (hc : b.Calm tid) :
    t.Runs tid own b :=
  ⟨hc, h.nodup, fun s hmem => h.fits s hmem own b hs hc⟩

/-- A cycle fits whose survey behaves. -/
theorem Work.fits_cycle {p : Running Batch} (hs : b.Sane)
    (h : Behaves ⟨tid, none⟩ (Surveyed tid) own p b) : (Work.cycle p).Fits tid own b := by
  match p, h with
  | .done (.ok t), h =>
    obtain ⟨hc, ht⟩ := h b (.refl hs)
    exact (ht t rfl).runs hs hc
  | .done (.error f), h => exact h
  | .ask q next, h => exact h

theorem Work.Fits.aside {w : Work} (h : w.Fits tid own b) (ha : Aside tid own b b') :
    w.Fits tid own b' := by
  match w, h with
  | .plain p, h => exact Behaves.beside h (ha ⟨tid, none⟩ rfl)
  | .cycle (.done (.ok t)), h => exact Batch.Runs.aside h ha
  | .cycle (.done (.error f)), h => exact Behaves.beside h (ha ⟨tid, none⟩ rfl)
  | .cycle (.ask q next), h => exact Behaves.beside h (ha ⟨tid, none⟩ rfl)

theorem Dispatch.Fits.aside {d : Dispatch} (h : d.Fits tid own b) (ha : Aside tid own b b') :
    d.Fits tid own b' := by
  cases d with
  | processing t p => exact Behaves.beside h (ha ⟨tid, none⟩ rfl)
  | following p => exact Behaves.beside h (ha ⟨tid, none⟩ rfl)
  | arriving => exact Calm.aside h ha
  | inLine => exact Calm.aside h ha
  | holding t => exact Calm.aside h ha
  | done took => exact Calm.aside h ha

/-- Whatever the others do, what is left of a thread behaves. -/
theorem Thread.Fits.aside {th : Thread} (h : th.Fits tid own b) (ha : Aside tid own b b') :
    th.Fits tid own b' := by
  match th, h with
  | .arriving _ w, h => exact ⟨Calm.aside h.1 ha, h.2.aside ha⟩
  | .working _ w, h => exact Work.Fits.aside h ha
  | .dispatching d, h => exact Dispatch.Fits.aside h ha
  | .ticking ⟨_, _, some d⟩, h => exact Dispatch.Fits.aside h ha
  | .ticking ⟨_, _, none⟩, h => exact Calm.aside h ha
  | .looping ⟨_, _, _, some w⟩, h => exact ⟨h.1, h.2.aside ha⟩
  | .looping ⟨_, _, _, none⟩, h => exact Calm.aside h ha
  | .staged _ _, h => exact Calm.aside h ha
  | .ended e, h => exact Settled.aside h ha

/-- A thread that is told to stop has the same left to do. -/
theorem Thread.Fits.signalled {th : Thread} (h : th.Fits tid own b) :
    th.signalled.Fits tid own b := by
  match th, h with
  | .arriving _ w, h => exact h
  | .working _ w, h => exact h
  | .dispatching d, h => exact h
  | .ticking ⟨_, _, some d⟩, h => exact h
  | .ticking ⟨_, _, none⟩, h => exact h
  | .looping ⟨_, _, _, some w⟩, h => exact h
  | .looping ⟨_, _, _, none⟩, h => exact h
  | .staged _ _, h => exact h
  | .ended e, h => exact h

/-- A cycle that has ended leaves its thread calm. -/
theorem Work.Fits.calm {p : Running Batch} {o : Outcome Yield} (hs : b.Sane)
    (h : (Work.cycle p).Fits tid own b) (ho : (Work.cycle p).outcome? = some o) : b.Calm tid := by
  cases p with
  | done o' =>
    cases o' with
    | ok t => exact Batch.Runs.calm h
    | error f => exact (h b (.refl hs)).1
  | ask q next => cases ho

/-- Work that has ended has settled everything. -/
theorem Work.Fits.settled {w : Work} {o : Outcome Yield} (hs : b.Sane) (h : w.Fits tid own b)
    (ho : w.outcome? = some o) : b.Settled tid (.finished o) := by
  cases w with
  | plain p =>
    cases p with
    | done o' =>
      cases ho
      exact (h b (.refl hs)).settled
    | ask q next => cases ho
  | cycle p => exact (h.calm hs ho).settled _

/-- A role may ask for something, and what is left of the thread fits with any answer. -/
def Poses (tid : Nat) (own : List Uuid) (b : Registry) (q : Request)
    (Fits : q.Answer → List Uuid → Registry → Prop) : Prop :=
  ∃ r : Role, r.thread = tid ∧ b.Allows r own q ∧
    ∀ locking a b', b.Serves locking tid q a b' → Fits a (grown own q a) b'

/-- The step of a cycle leaves its thread calm. -/
theorem Registry.Calm.step {r : Role} {k : InstanceId} {a : q.Answer} (hc : b.Calm r.thread)
    (hk : r.treats = some k) (ha : b.Allows r own q) (h : b.Serves locking r.thread q a b') :
    b'.Calm r.thread := by
  cases q with
  | call c => exact hc.answers h (ha.2.1 k hk).1
  | now =>
    obtain rfl : b' = b := h
    exact hc
  | freshId =>
    obtain ⟨-, rfl⟩ := h
    exact hc
  | abandon =>
    rw [ha.1] at hk
    cases hk
  | isQueued =>
    obtain rfl : b' = b := h
    exact hc
  | enqueue =>
    obtain ⟨id, -, rfl⟩ := h
    exact hc

/-- The step of a cycle comes to own nothing. -/
theorem Registry.Allows.grown_eq {r : Role} {k : InstanceId} (hk : r.treats = some k)
    (ha : b.Allows r own q) (a : q.Answer) : grown own q a = own := by
  cases q with
  | freshId =>
    rw [ha.2] at hk
    cases hk
  | _ => rfl

/-- The step of a cycle asks for what is allowed, and leaves the other steps alone. -/
theorem Batch.Runs.pose {t : Batch} {n : Nat} {s : Branch} {next : q.Answer → Running Unit}
    (hs : b.Sane) (h : t.Runs tid own b) (hn : t.branches[n]? = some s)
    (hw : s.work = .ask q next) :
    Poses tid own b q fun a own b => (t.setBranch n (next a)).Runs tid own b := by
  have hrun := h.runs s (List.mem_of_getElem? hn)
  rw [hw] at hrun
  obtain ⟨ha, hnext⟩ := hrun.asks hs
  refine ⟨⟨tid, some s.id⟩, rfl, ha, fun locking a b' hserves => ?_⟩
  have hrun' := hnext locking a b' hserves
  rw [ha.grown_eq rfl] at hrun' ⊢
  refine ⟨Calm.step (r := ⟨tid, some s.id⟩) h.calm rfl ha hserves, ?_, fun x hx => ?_⟩
  · rw [Batch.ids_setBranch]
    exact h.nodup
  · obtain rfl | ⟨hx, hne⟩ := Batch.mem_setBranch h.nodup hn hx
    · exact hrun'
    · exact (h.runs x hx).beside (ha.beside hs hserves (.inr ⟨rfl, _, _, rfl, rfl, hne⟩))

/-- Work asks for what is allowed, and fits with any answer. -/
theorem Work.Fits.pose {w : Work} {choice : Nat} {next : q.Answer → Work} (hs : b.Sane)
    (h : w.Fits tid own b) (hp : w.pose? choice = some ⟨q, next⟩) :
    Poses tid own b q fun a own b => (next a).Fits tid own b := by
  cases w with
  | plain p =>
    cases p with
    | done o => cases hp
    | ask q next =>
      cases hp
      obtain ⟨ha, hnext⟩ := Behaves.asks hs h
      exact ⟨⟨tid, none⟩, rfl, ha, hnext⟩
  | cycle p =>
    cases p with
    | done o =>
      cases o with
      | error f => cases hp
      | ok t =>
        simp only [Work.pose?] at hp
        split at hp
        · rename_i id label q' next' hn
          cases hp
          exact Batch.Runs.pose hs h hn rfl
        · cases hp
    | ask q next =>
      cases hp
      obtain ⟨ha, hnext⟩ := Behaves.asks hs h
      refine ⟨⟨tid, none⟩, rfl, ha, fun locking a b' hserves => ?_⟩
      exact Work.fits_cycle (ha.sane hs hserves) (hnext locking a b' hserves)

/-- A cycle that goes on is a cycle. -/
theorem Work.cycle_of_pose {p : Running Batch} {choice : Nat} {next : q.Answer → Work}
    (hp : (Work.cycle p).pose? choice = some ⟨q, next⟩) (a : q.Answer) :
    ∃ p', next a = .cycle p' := by
  match p, hp with
  | .ask q next, hp =>
    cases hp
    exact ⟨_, rfl⟩
  | .done (.ok t), hp =>
    simp only [Work.pose?] at hp
    split at hp
    · cases hp
      exact ⟨_, rfl⟩
    · cases hp

/-! ### What starts -/

/-- The work of the fleet. -/
inductive Fleet.IsWork : Work → Prop where
  | admission (billing : Bool) (r : AdmissionRequest) :
    IsWork (.of (Admission.grant billing r) .admitted)
  | removal (owner : OwnerId) : IsWork (.of (Termination.removeOwned owner) .removed)
  | deletion (id : InstanceId) (reason : String) :
    IsWork (.of (Termination.remove id reason) .flag)
  | task (payload : Json.Value) : IsWork (.of (Termination.process payload) .value)
  | cycle (p : Policy) (s : FleetSettings) : IsWork (.ofPolicy p s)

/-- What processes tasks: they remove instances, or they have nothing to do with the fleet. -/
def Fleet.IsProcessor (process : Json.Value → Op Json.Value) : Prop :=
  process = Termination.process ∨ ∀ payload, (process payload).run.Plain

/-- Work that leaves its thread calm fits. -/
theorem Work.fits_of {α : Type} {op : Op α} {encode : α → Yield}
    (h : Behaves ⟨tid, none⟩ (fun _ b => b.Calm tid) own op.run b) :
    (Work.of op encode).Fits tid own b :=
  Program.Meets.map (h.mono fun _ _ hc => hc.over _)

/-- The work of the fleet fits when it starts. -/
theorem Fleet.IsWork.fits {w : Work} (hw : Fleet.IsWork w) (hs : b.Sane) (hc : b.Calm tid)
    (hu : Unstarted tid b.ledger) : w.Fits tid own b := by
  cases hw with
  | admission billing q =>
    refine Program.Meets.map ((Admission.grant_behaves billing q hs rfl hc hu).mono fun o b h => ?_)
    cases o with
    | ok i =>
      refine ⟨h.1, fun hr => ?_⟩
      cases h.2 hr
    | error f => exact h.as_error
  | removal owner => exact Work.fits_of (Termination.removeOwned_behaves owner hs hc rfl)
  | deletion id reason =>
    exact Work.fits_of (Termination.remove_behaves hs hc (fun _ h => by cases h) reason)
  | task payload => exact Work.fits_of (Termination.process_behaves payload hs hc rfl)
  | cycle p s => exact Work.fits_cycle hs (Policy.survey_behaves p s hs hc)

/-- What processes tasks behaves. -/
theorem Fleet.IsProcessor.behaves {process : Json.Value → Op Json.Value}
    (hp : Fleet.IsProcessor process) (payload : Json.Value) (hs : b.Sane) (hc : b.Calm tid) :
    Behaves ⟨tid, none⟩ (fun _ b => b.Calm tid) own (process payload).run b := by
  obtain rfl | hp := hp
  · exact Termination.process_behaves payload hs hc rfl
  · exact calm_of_plain hs hc (hp payload)

end

end GameFleet
