import GameFleet.Proofs.Control.Frame
import GameFleet.Proofs.Fleet.Turns

/-!
# One place for each owner (specification §4.3)

However admissions, terminations, tasks and cycles take turns, and whatever fails: no owner ever has
two active rows; an instance is deployed only by the thread that reserved its owner's place; and an
admission that finds the place taken says so and does nothing else.

- `OnePerOwner`: every owner has at most one active row.
- `Fleet.Spread`: the invariant behind it, which also speaks of the rows that the open transaction
  found.
- `Thread.Asks`: a thread asks for something with its next step.
- `Thread.Refusing`: how many steps a thread that was refused still takes.
- `Fleet.one_place`: the theorem.
-/

namespace GameFleet

open Registry

/-- Every owner has at most one active row. -/
def OnePerOwner (rows : List Instance) : Prop :=
  ∀ owner, (rows.countP fun i => i.isActive && decide (i.owner = owner)) ≤ 1

/-! ### Rows -/

/-- Rows of one owner are rows of one instance. -/
def Spread (rows : List Instance) : Prop :=
  ∀ i ∈ rows, ∀ j ∈ rows, i.owner = j.owner → i.id = j.id

theorem OnePerOwner.spread {rows : List Instance} (h : OnePerOwner rows) : Spread rows := by
  intro i hi j hj hij
  have hlen := h i.owner
  rw [List.countP_eq_length_filter] at hlen
  have hmem : ∀ k ∈ rows, k.owner = i.owner →
      k ∈ rows.filter fun k => k.isActive && decide (k.owner = i.owner) := by
    intro k hk ho
    rw [List.mem_filter, Bool.and_eq_true, decide_eq_true_eq]
    exact ⟨hk, k.isActive_eq_true, ho⟩
  have hi' := hmem i hi rfl
  have hj' := hmem j hj hij.symm
  generalize (rows.filter fun k => k.isActive && decide (k.owner = i.owner)) = own at hlen hi' hj'
  match own, hlen with
  | [], _ => cases hi'
  | [k], _ => rw [List.mem_singleton.mp hi', List.mem_singleton.mp hj']
  | _ :: _ :: _, hlen =>
    simp only [List.length_cons] at hlen
    omega

theorem Spread.onePerOwner {rows : List Instance} (h : Spread rows)
    (hn : (rows.map Instance.id).Nodup) : OnePerOwner rows := by
  intro owner
  rw [List.countP_eq_length_filter]
  have hown : ∀ i ∈ rows.filter fun i => i.isActive && decide (i.owner = owner),
      i ∈ rows ∧ i.owner = owner := by
    intro i hi
    rw [List.mem_filter, Bool.and_eq_true, decide_eq_true_eq] at hi
    exact ⟨hi.1, hi.2.2⟩
  have hn' : ((rows.filter fun i => i.isActive && decide (i.owner = owner)).map
      Instance.id).Nodup := hn.sublist (List.filter_sublist.map _)
  generalize (rows.filter fun i => i.isActive && decide (i.owner = owner)) = own at hown hn'
  match own, hown, hn' with
  | [], _, _ => exact Nat.zero_le _
  | [_], _, _ => exact Nat.le_refl _
  | i :: j :: _, hown, hn' =>
    obtain ⟨hi, hio⟩ := hown i (List.mem_cons_self ..)
    obtain ⟨hj, hjo⟩ := hown j (List.mem_cons_of_mem _ (List.mem_cons_self ..))
    have hid : i.id = j.id := h i hi j hj (hio.trans hjo.symm)
    rw [List.map_cons, List.map_cons, List.nodup_cons] at hn'
    exact absurd (hid ▸ List.mem_cons_self ..) hn'.1

theorem Spread.put {rows : List Instance} {row : Instance} (h : Spread rows)
    (hrow : ∀ i ∈ rows, i.owner = row.owner → i.id = row.id) :
    Spread (Rows.put Instance.id row rows) := by
  intro i hi j hj hij
  obtain rfl | hi' := Rows.eq_or_mem_of_mem_put hi
  · obtain rfl | hj' := Rows.eq_or_mem_of_mem_put hj
    · rfl
    · exact (hrow j hj' hij.symm).symm
  · obtain rfl | hj' := Rows.eq_or_mem_of_mem_put hj
    · exact hrow i hi' hij
    · exact h i hi' j hj' hij

namespace Fleet

/-- No owner has two rows, neither now nor when the open transaction was opened. -/
structure OnePlace (b : Registry) : Prop where
  rows : Spread b.rows
  opened : ∀ t, b.transaction = some t → Spread t.opened

variable {locking : Bool} {b b' : Registry} {c c' : Control Registry} {ms : List (Move Registry)}
  {tid : Nat} {th : Thread} {own : List Uuid} {q : Request} {S : Surroundings Registry}

/-- A row that may come to stand takes no place that another row has. -/
theorem OnePlace.of_rightful {t : Transaction} {row : Instance} (h : OnePlace b) (hs : b.Sane)
    (ht : b.transaction = some t) (hrow : b.Rightful own t row) :
    ∀ i ∈ b.rows, i.owner = row.owner → i.id = row.id := by
  intro i hi hio
  obtain hrow | hrow := hrow
  · exact absurd hio (hrow.free i hi)
  · -- The row that the transaction found has the same owner, and there was no other.
    obtain ⟨j, hj, hp⟩ := hrow.same
    have hopen := h.opened t ht i ((hs.opened t ht).1 i hi) j hj
    rw [← Instance.id_eq hp]
    exact hopen (hio.trans (Instance.owner_eq hp).symm)

/-- No move takes a place twice. -/
theorem OnePlace.moves (h : OnePlace b) (hs : b.Sane) (hm : b.Moves locking b') : OnePlace b' := by
  obtain ⟨r, own, c, o, ha, hans⟩ | ⟨hr, -, ht⟩ := hm.cases
  · constructor
    · obtain hr | ⟨t, row, -, ht, -, hrow, hr, -⟩ | ⟨id, -, -, -, hr⟩ := ha.rows_cases hans
      · rw [hr]
        exact h.rows
      · rw [hr]
        exact h.rows.put (h.of_rightful hs (own?_eq_some.mp ht).1 hrow)
      · rw [hr]
        intro i hi j hj
        exact h.rows i (Rows.mem_drop.mp hi).1 j (Rows.mem_drop.mp hj).1
    · intro t' ht'
      obtain ⟨-, hopen, -⟩ | ⟨t, ht, hopen, -⟩ := hans.transaction_cases ht'
      · rw [hopen]
        exact h.rows
      · rw [hopen]
        exact h.opened t ht
  · exact ⟨hr ▸ h.rows, fun t' ht' => h.opened t' (ht t' ht')⟩

end Fleet

/-! ### What threads ask for -/

/-- Work asks for something with a step. -/
def Work.Asks (q : Request) (w : Work) : Prop := ∃ choice next, w.pose? choice = some ⟨q, next⟩

/-- A dispatch asks for something with its next step. -/
def Dispatch.Asks (q : Request) : Dispatch → Prop
  | .processing _ p => ∃ next, p = .ask q next
  | .following p => ∃ next, p = .ask q next
  | _ => False

/-- A thread asks for something with its next step. -/
def Thread.Asks (q : Request) : Thread → Prop
  | .working _ w => w.Asks q
  | .dispatching d => d.Asks q
  | .ticking t => ∃ d, t.current = some d ∧ d.Asks q
  | .looping l => ∃ w, l.current = some w ∧ w.Asks q
  | _ => False

section

variable {b : Registry} {tid : Nat} {own : List Uuid} {q : Request}

/-- What work asks for is allowed. -/
theorem Work.Fits.allows {w : Work} (hs : b.Sane) (h : w.Fits tid own b) (hq : w.Asks q) :
    ∃ r : Role, r.thread = tid ∧ b.Allows r own q := by
  obtain ⟨choice, next, hpose⟩ := hq
  obtain ⟨r, hr, ha, -⟩ := h.pose hs hpose
  exact ⟨r, hr, ha⟩

theorem Dispatch.Fits.allows {d : Dispatch} (hs : b.Sane) (h : d.Fits tid own b)
    (hq : d.Asks q) : ∃ r : Role, r.thread = tid ∧ b.Allows r own q := by
  cases d with
  | processing t p =>
    obtain ⟨next, rfl⟩ := hq
    exact ⟨⟨tid, none⟩, rfl, (Behaves.asks hs h).1⟩
  | following p =>
    obtain ⟨next, rfl⟩ := hq
    exact ⟨⟨tid, none⟩, rfl, (Behaves.asks hs h).1⟩
  | arriving => cases hq
  | inLine => cases hq
  | holding t => cases hq
  | done took => cases hq

/-- What a thread asks for is allowed. -/
theorem Thread.Fits.allows {th : Thread} (hs : b.Sane) (h : th.Fits tid own b) (hq : th.Asks q) :
    ∃ r : Role, r.thread = tid ∧ b.Allows r own q := by
  cases th with
  | working tracked w => exact Work.Fits.allows hs h hq
  | dispatching d => exact Dispatch.Fits.allows hs h hq
  | ticking t =>
    obtain ⟨due, stopping, current⟩ := t
    obtain ⟨d, rfl, hq⟩ := hq
    exact Dispatch.Fits.allows hs h hq
  | looping l =>
    obtain ⟨policy, due, stopping, current⟩ := l
    obtain ⟨w, rfl, hq⟩ := hq
    exact Work.Fits.allows hs h.2 hq
  | arriving tracked w => cases hq
  | staged stages e => cases hq
  | ended e => cases hq

/-! ### Threads that were refused -/

/-- A thread that was refused still takes some steps at most: it gives up its transaction, it ends,
or it has ended. -/
inductive Thread.Refusing : Nat → Thread → Prop where
  | leaving {tracked : Bool} {next : Unit → Running Yield}
    (h : next () = .done (.error (.user Admission.alreadyRunning))) :
    Refusing 2 (.working tracked (.plain (.ask .abandon next)))
  | ending {tracked : Bool} :
    Refusing 1 (.working tracked (.plain (.done (.error (.user Admission.alreadyRunning)))))
  | ended : Refusing 0 (.ended (.finished (.error (.user Admission.alreadyRunning))))

/-- A cycle is not refused. -/
theorem Work.Fits.not_refused {p : Running Batch} (hs : b.Sane)
    (h : (Work.cycle p).Fits tid own b) : ¬Refused tid b.ledger := by
  match p, h with
  | .done (.ok t), h => exact (Batch.Runs.calm h).1
  | .done (.error f), h => exact Behaves.not_refused hs (Behaves.mono h fun _ _ hs => hs.1)
  | .ask q next, h => exact Behaves.not_refused hs (Behaves.mono h fun _ _ hs => hs.1)

/-- A dispatch is not refused. -/
theorem Dispatch.Fits.not_refused {d : Dispatch} (hs : b.Sane) (h : d.Fits tid own b) :
    ¬Refused tid b.ledger := by
  cases d with
  | processing t p => exact Behaves.not_refused hs h
  | following p => exact Behaves.not_refused hs h
  | arriving => exact h.1
  | inLine => exact h.1
  | holding t => exact h.1
  | done took => exact h.1

/-- A thread that was refused has nothing left to do but to say so. -/
theorem Thread.Fits.refusing {th : Thread} (hs : b.Sane) (h : th.Fits tid own b)
    (hr : Refused tid b.ledger) : ∃ n ≤ 2, th.Refusing n := by
  have hcalm : ¬b.Calm tid := fun hc => hc.1 hr
  match th, h with
  | .arriving _ w, h => exact absurd h.1 hcalm
  | .working _ (.plain p), h =>
    obtain rfl | ⟨next, rfl, hnext⟩ := Behaves.refused_cases hs h hr
    · exact ⟨1, by decide, .ending⟩
    · exact ⟨2, by decide, .leaving hnext⟩
  | .working _ (.cycle p), h => exact absurd hr (Work.Fits.not_refused hs h)
  | .dispatching d, h => exact absurd hr (Dispatch.Fits.not_refused hs h)
  | .ticking ⟨_, _, some d⟩, h => exact absurd hr (Dispatch.Fits.not_refused hs h)
  | .ticking ⟨_, _, none⟩, h => exact absurd h hcalm
  | .looping ⟨_, _, _, some _⟩, ⟨⟨p, rfl⟩, h⟩ => exact absurd hr (h.not_refused hs)
  | .looping ⟨_, _, _, none⟩, h => exact absurd h hcalm
  | .staged _ _, h => exact absurd h hcalm
  | .ended e, h =>
    rw [h.2 hr]
    exact ⟨0, by decide, .ended⟩

end

section

variable {ω : Type} {c : Control ω} {S : Surroundings ω} {tid n : Nat} {th : Thread}

/-- A thread that was refused calls nobody any more. -/
theorem Thread.Refusing.not_asks (h : th.Refusing n) (call : Call) : ¬th.Asks (.call call) := by
  cases h with
  | leaving h =>
    rintro ⟨choice, next, hp⟩
    cases hp
  | ending =>
    rintro ⟨choice, next, hp⟩
    cases hp
  | ended => exact id

theorem Thread.Refusing.signalled (h : th.Refusing n) : th.signalled = th := by
  cases h <;> rfl

/-- With each of its own steps a thread that was refused comes nearer to its end. -/
theorem Thread.Refusing.step (h : th.Refusing n) (hth : c.threads[tid]? = some th)
    (choice : Nat) :
    ∃ th', (c.step S tid choice).2.threads[tid]? = some th' ∧ th'.Refusing (n - 1) := by
  have hlt := (List.getElem?_eq_some_iff.mp hth).1
  have hput : ∀ {c' : Control ω} (x : Thread), c'.threads = c.threads →
      (c'.put tid x).threads[tid]? = some x := by
    intro c' x hc
    show (c'.threads.set tid x)[tid]? = some x
    rw [hc, List.getElem?_set_self hlt]
  unfold Control.step
  rw [hth]
  cases h with
  | @leaving tracked next h =>
    refine ⟨_, hput _ rfl, ?_⟩
    show Thread.Refusing 1 (.working tracked (.plain (next ())))
    rw [h]
    exact .ending
  | ending => exact ⟨_, hput _ (Control.threads_settle _), .ended⟩
  | ended => exact ⟨_, hth, .ended⟩

/-- Whatever happens, a thread that was refused stays on its way, and its own steps bring it nearer
to its end. -/
theorem Thread.Refusing.after (h : th.Refusing n) (hth : c.threads[tid]? = some th)
    (ms : List (Move ω)) :
    ∃ th', (c.after ms).threads[tid]? = some th' ∧
      th'.Refusing (n - ms.countP (Move.isStepOf tid)) := by
  induction ms with
  | nil => exact ⟨th, hth, h⟩
  | cons m ms ih =>
    obtain ⟨x, hx, hrx⟩ := ih
    by_cases hm : m.isStepOf tid = true
    · rw [List.countP_cons_of_pos hm, ← Nat.sub_sub]
      cases m with
      | step S t choice =>
        obtain rfl : t = tid := by simpa [Move.isStepOf] using hm
        exact hrx.step hx choice
      | _ => cases hm
    · rw [List.countP_cons_of_neg hm]
      have hlt := (List.getElem?_eq_some_iff.mp hx).1
      obtain hsame | hsame :=
        Control.apply_leaves (m := m) hlt (Bool.eq_false_iff.mpr hm)
      · exact ⟨x, hsame.trans hx, hrx⟩
      · refine ⟨x, hsame.trans ?_, hrx⟩
        rw [hx, Option.map_some, hrx.signalled]

end

namespace Fleet

variable {locking : Bool} {b b' : Registry} {c : Control Registry} {ms : List (Move Registry)}

/-- A thread that was refused has not started, and never will. -/
theorem unstarted_moves (h : ∀ tid, Refused tid b.ledger → Unstarted tid b.ledger)
    (hm : b.Moves locking b') (tid : Nat) (hr : Refused tid b'.ledger) :
    Unstarted tid b'.ledger := by
  obtain ⟨r, own, c, o, ha, hans⟩ | ⟨-, hl, -⟩ := hm.cases
  · rw [hans.ledger_eq.1] at hr ⊢
    by_cases ht : r.thread = tid
    · subst ht
      -- Nobody who was refused makes a call, so the call itself was refused.
      obtain ⟨-, hrefuses⟩ | hr := refused_cons.mp hr
      · cases c with
        | ownersInTransaction owner => exact unstarted_cons.mpr ⟨fun _ => rfl, ha.2.2⟩
        | _ => cases hrefuses
      · exact absurd hr ha.1
    · obtain ⟨he, -⟩ | hr := refused_cons.mp hr
      · exact absurd he ht
      · exact unstarted_cons.mpr ⟨fun he => absurd he ht, h tid hr⟩
  · rw [hl] at hr ⊢
    exact h tid hr

/-- However the threads of the fleet take turns, and whatever fails: every owner has at most one
active row; whoever asks for a deployment has committed the pending row of that instance before,
while its owner had no other active row; and whoever finds the place of an owner taken has changed
nothing, asks nobody for anything any more, and after two more steps has ended in saying so. -/
theorem one_place (ho : Opening c) (hone : OnePerOwner c.world.rows)
    (hrun : Control.Run (May locking) c ms) :
    OnePerOwner (c.after ms).world.rows ∧
    (∀ tid th order, (c.after ms).threads[tid]? = some th → th.Asks (.call (.deploy order)) →
      ∃ i, order.IsFor i ∧ Reserved tid i (c.after ms).world.ledger) ∧
    ∀ tid later earlier, ms = later ++ earlier → Refused tid (c.after earlier).world.ledger →
      Unstarted tid (c.after ms).world.ledger ∧
      (∀ th call, (c.after ms).threads[tid]? = some th → ¬th.Asks (.call call)) ∧
      (2 ≤ later.countP (Move.isStepOf tid) → (c.after ms).threads[tid]? =
        some (.ended (.finished (.error (.user Admission.alreadyRunning))))) := by
  obtain ⟨own, horder⟩ := order_after ho hrun
  refine ⟨?_, fun tid th order hth hasks => ?_, fun tid later earlier hms hr => ?_⟩
  · have h₀ : OnePlace c.world := by
      refine ⟨hone.spread, fun t ht => ?_⟩
      rw [ho.transaction] at ht
      cases ht
    have := registry_after ho hrun h₀ fun b b' hs h hm => h.moves hs hm
    exact this.rows.onePerOwner horder.sane.nodup
  · obtain ⟨r, hr, ha⟩ := (horder.fits tid th hth).allows horder.sane hasks
    obtain ⟨i, hi, hres⟩ := ha.2.2
    exact ⟨i, hi, hr ▸ hres⟩
  · subst hms
    obtain ⟨own', hearlier⟩ := order_after ho (hrun.of_append)
    obtain ⟨⟨newer, hl⟩, -⟩ := grows_after ho hrun
    have hr' : Refused tid (c.after (later ++ earlier)).world.ledger := by
      obtain ⟨e, he, h⟩ := hr
      exact ⟨e, hl ▸ List.mem_append_right _ he, h⟩
    -- The thread is there, since it has made a call.
    obtain ⟨th, hth⟩ : ∃ th, (c.after earlier).threads[tid]? = some th := by
      obtain ⟨e, he, rfl, -⟩ := hr
      exact ⟨_, List.getElem?_eq_getElem (hearlier.entered e he)⟩
    obtain ⟨n, hn, hrefusing⟩ := (hearlier.fits tid th hth).refusing hearlier.sane hr
    obtain ⟨th', hth', hrefusing'⟩ := hrefusing.after hth later
    rw [← Control.after_append] at hth'
    refine ⟨?_, fun x call hx => ?_, fun htwo => ?_⟩
    · refine registry_after (I := fun b => ∀ tid, Refused tid b.ledger → Unstarted tid b.ledger)
        ho hrun ?_ (fun b b' _ h hm => unstarted_moves h hm) tid hr'
      intro tid h
      rw [ho.ledger] at h
      obtain ⟨e, he, -⟩ := h
      cases he
    · rw [hth'] at hx
      cases hx
      exact hrefusing'.not_asks call
    · have hzero : n - later.countP (Move.isStepOf tid) = 0 := by omega
      rw [hzero] at hrefusing'
      cases hrefusing'
      exact hth'

/-- Two admissions for one owner. The second finds the place taken, since the first has reserved
it. -/
def twoAdmissions : List (Move Registry) :=
  turns true [.begin true oneAdmission, .begin true oneAdmission]
    (List.replicate 9 (1, false) ++ List.replicate 9 (0, false))

theorem run_twoAdmissions : Control.Run (May true) bare twoAdmissions := by
  have hbegin : Control.Run (May true) bare [.begin true oneAdmission, .begin true oneAdmission] :=
    ⟨⟨trivial, .admission ..⟩, .admission ..⟩
  exact run_turns hbegin (by decide +kernel)

theorem refused_twoAdmissions :
    Refused 1 (bare.after (twoAdmissions.drop 2)).world.ledger := by
  have hany : (bare.after (twoAdmissions.drop 2)).world.ledger.any
      (fun e => e.thread == 1 && e.refuses) = true := by decide +kernel
  obtain ⟨e, he, h⟩ := List.any_eq_true.mp hany
  rw [Bool.and_eq_true, beq_iff_eq] at h
  exact ⟨e, he, h⟩

/-- The second admission is refused, and the owner has one active row. -/
theorem one_place_twoAdmissions :
    OnePerOwner (bare.after twoAdmissions).world.rows ∧
    (bare.after twoAdmissions).world.rows.length = 1 ∧
    Unstarted 1 (bare.after twoAdmissions).world.ledger ∧
    (bare.after twoAdmissions).threads[1]? =
      some (.ended (.finished (.error (.user Admission.alreadyRunning)))) := by
  obtain ⟨hone, -, hrefused⟩ :=
    one_place bare_opening (fun _ => Nat.zero_le _) run_twoAdmissions
  obtain ⟨hun, -, hend⟩ :=
    hrefused 1 (twoAdmissions.take 2) (twoAdmissions.drop 2) rfl refused_twoAdmissions
  exact ⟨hone, by decide +kernel, hun, hend (by decide +kernel)⟩

end Fleet

end GameFleet
