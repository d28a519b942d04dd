import GameFleet.Proofs.Registry.Behaviour
import GameFleet.Termination

/-!
# Termination behaves

Whoever terminates an instance destroys it where its row says it is before the row is removed, and
leaves nothing undecided.

- `Registry.Owes`: a thread has not been refused, and still has to decide about some instances.
- `Registry.Calm`: a thread has not been refused, and has decided about all that it deployed.
- `Termination.terminate_behaves`: an instance that is known is terminated.
- `Termination.remove_behaves`, `Termination.removeOwned_behaves`, `Termination.process_behaves`:
  whoever wants instances terminated finds out first which are known.
-/

namespace GameFleet

namespace Registry

/-- A thread has not been refused, and has decided about all that it deployed but some instances. -/
def Owes (tid : Nat) (ids : List InstanceId) (b : Registry) : Prop :=
  ¬Refused tid b.ledger ∧ ∀ id ∈ undecided tid b.ledger, id ∈ ids

/-- A thread has not been refused, and has decided about all that it deployed. -/
def Calm (tid : Nat) (b : Registry) : Prop := b.Owes tid []

variable {locking : Bool} {r : Role} {own : List Uuid} {b b' : Registry} {c : Call}
  {o : Outcome c.Result} {ids : List InstanceId} {tid : Nat}

theorem Owes.beside (ho : b.Owes r.thread ids) (hb : Beside r own b b') : b'.Owes r.thread ids :=
  ⟨fun hr => ho.1 (hb.refused_iff.mp hr), fun id hid => ho.2 id (hb.mem_undecided hid)⟩

theorem Calm.beside (hc : b.Calm r.thread) (hb : Beside r own b b') : b'.Calm r.thread :=
  Owes.beside hc hb

/-- A thread that is not refused with a call that deploys nothing owes no more than before. -/
theorem Owes.answers (ho : b.Owes tid ids) (h : b.Answers locking tid c o b')
    (hr : Entry.refuses ⟨tid, c, o, b.rows, b'.rows⟩ = false)
    (hd : Entry.deployed? ⟨tid, c, o, b.rows, b'.rows⟩ = none) : b'.Owes tid ids := by
  have hl := h.ledger_eq.1
  refine ⟨?_, fun id hid => ?_⟩
  · rw [hl, refused_cons]
    rintro (⟨-, hr'⟩ | hr')
    · rw [hr] at hr'
      cases hr'
    · exact ho.1 hr'
  · rw [hl] at hid
    exact ho.2 id (mem_undecided_of_cons (fun _ => hd) hid)

/-- What a call decides about is owed no more. -/
theorem Owes.decided {id : InstanceId} (ho : b.Owes tid [id]) (h : b.Answers locking tid c o b')
    (hr : Entry.refuses ⟨tid, c, o, b.rows, b'.rows⟩ = false)
    (hd : Entry.deployed? ⟨tid, c, o, b.rows, b'.rows⟩ = none)
    (hid : Entry.decides id ⟨tid, c, o, b.rows, b'.rows⟩ = true) : b'.Calm tid := by
  refine ⟨(ho.answers h hr hd).1, fun i hi => ?_⟩
  rw [h.ledger_eq.1, undecided_cons_self (e := ⟨tid, c, o, b.rows, b'.rows⟩) rfl, hd] at hi
  obtain ⟨hi, hni⟩ := List.mem_filter.mp hi
  rw [List.mem_singleton.mp (ho.2 i hi), hid] at hni
  cases hni

/-- A mild call leaves a thread calm. -/
theorem Calm.answers (hc : b.Calm tid) (h : b.Answers locking tid c o b')
    (hm : c.isMild = true) : b'.Calm tid :=
  Owes.answers hc h (Entry.refuses_eq_false hm) (Entry.deployed?_eq_none hm)

/-- A mild call that ends no instance but the one that its role treats. -/
theorem Allows.of_mild (hr : ¬Refused r.thread b.ledger) (hm : c.isMild = true)
    (hid : ∀ k id, r.treats = some k → c.ends? = some id → id = k) (hp : b.Permits r own c) :
    b.Allows r own (.call c) :=
  ⟨hr, fun k hk => ⟨hm, fun id => hid k id hk⟩, hp⟩

end Registry

namespace Termination

open Registry

variable {r : Role} {own : List Uuid} {b : Registry}

/-- An instance that is known is terminated. -/
theorem terminate_behaves {i : Instance} (hs : b.Sane) (hc : b.Calm r.thread) (hk : b.Known i)
    (hid : ∀ k, r.treats = some k → i.id = k) (reason : String) :
    Behaves r (fun _ b => b.Calm r.thread) own (terminate i reason).run b := by
  refine Behaves.andThen hs
    (Q := fun o b => b.Calm r.thread ∧ ∀ a, o = .ok a → b.Razed r.thread i.id)
    (.call fun b' hb => ⟨?_, fun locking o b'' h b₃ hb₃ => ⟨?_, ?_⟩⟩) ?_ fun _ _ h => h.1
  · refine .of_mild (hc.beside hb).1 rfl (fun k id hk he => ?_) trivial
    cases he
    exact hid k hk
  · exact ((hc.beside hb).answers h rfl).beside hb₃
  · rintro a rfl
    refine Beside.razed hb₃ hid ⟨i, ⟨r.thread, .destroy i.id i.region, .ok a, b'.rows, b''.rows⟩,
      h.known_iff.mpr (.inl (hb.known i hk)), rfl, ?_, rfl, rfl⟩
    rw [h.ledger_eq.1]
    exact lastEnd_cons_self rfl rfl
  · intro own a b hown hg hs hcr
    obtain ⟨hc, hraze⟩ := hcr
    refine Behaves.andThen hs (Q := fun _ b => b.Calm r.thread)
      (.call fun b' hb => ⟨?_, fun locking o b'' h b₃ hb₃ => ?_⟩) ?_ fun _ _ h => h
    · refine .of_mild (hc.beside hb).1 rfl (fun k id hk he => ?_) (hb.razed hid (hraze a rfl))
      cases he
      exact hid k hk
    · exact ((hc.beside hb).answers h rfl).beside hb₃
    · intro own a b hown hg hs hc
      refine (Behaves.of_plain hs ?_ hc.1).mono fun _ _ hb => hc.beside hb
      exact .andThen (.call rfl) fun _ _ => .record Request.isPlain_of_isRemark _ _

/-- An instance is terminated if it has a row. -/
theorem remove_behaves {id : InstanceId} (hs : b.Sane) (hc : b.Calm r.thread)
    (hid : ∀ k, r.treats = some k → id = k) (reason : String) :
    Behaves r (fun _ b => b.Calm r.thread) own (remove id reason).run b := by
  refine Behaves.andThen hs
    (Q := fun o b => b.Calm r.thread ∧
      ∀ i : Instance, o = .ok (some i) → b.Known i ∧ i.id = id)
    (.call fun b' hb => ⟨?_, fun locking o b'' h b₃ hb₃ => ⟨?_, ?_⟩⟩) ?_ fun _ _ h => h.1
  · exact .of_mild (hc.beside hb).1 rfl (fun k id hk he => nomatch he) trivial
  · exact ((hc.beside hb).answers h rfl).beside hb₃
  · rintro i rfl
    obtain ⟨hi, hii⟩ := Rows.mem_of_find? (h.read_eq rfl).symm
    exact ⟨hb₃.known i (h.known_iff.mpr (.inl (.inl hi))), hii⟩
  · intro own row b hown hg hs hcr
    obtain ⟨hc, hrow⟩ := hcr
    cases row with
    | none => exact fun b' hb => hc.beside hb
    | some i =>
      obtain ⟨hk, rfl⟩ := hrow i rfl
      exact Behaves.andThen hs (terminate_behaves hs hc hk hid reason)
        (fun own a b hown hg hs hc b' hb => hc.beside hb) fun _ _ h => h

/-- Instances that are known are terminated one after another. -/
theorem terminateAll_behaves {rows : List Instance} (hs : b.Sane) (hc : b.Calm r.thread)
    (hk : ∀ i ∈ rows, b.Known i) (hr : r.treats = none) (reason : String) :
    Behaves r (fun _ b => b.Calm r.thread) own (terminateAll reason rows).run b := by
  have hid : ∀ id k, r.treats = some k → id = k := by
    intro id k h
    rw [hr] at h
    cases h
  induction rows generalizing own b with
  | nil => exact fun b' hb => hc.beside hb
  | cons i rest ih =>
    refine Behaves.andThen hs
      (terminate_behaves hs hc (hk i (List.mem_cons_self ..)) (hid i.id) reason) ?_ fun _ _ h => h
    intro own a b hown hg hs hc
    refine Behaves.andThen hs
      (ih hs hc fun j hj => hg.known j (hk j (List.mem_cons_of_mem _ hj))) ?_ fun _ _ h => h
    exact fun own ids b hown hg hs hc b' hb => hc.beside hb

/-- All instances of an owner are terminated. -/
theorem removeOwned_behaves (owner : OwnerId) (hs : b.Sane) (hc : b.Calm r.thread)
    (hr : r.treats = none) :
    Behaves r (fun _ b => b.Calm r.thread) own (removeOwned owner).run b := by
  refine Behaves.andThen hs
    (Q := fun o b => b.Calm r.thread ∧
      ∀ rows : List Instance, o = .ok rows → ∀ i ∈ rows, b.Known i)
    (.call fun b' hb => ⟨?_, fun locking o b'' h b₃ hb₃ => ⟨?_, ?_⟩⟩) ?_ fun _ _ h => h.1
  · exact .of_mild (hc.beside hb).1 rfl (fun k id hk he => nomatch he) trivial
  · exact ((hc.beside hb).answers h rfl).beside hb₃
  · rintro rows rfl i hi
    rw [h.read_eq rfl, Registry.owned, Rows.mem_oldestFirst, List.mem_filter] at hi
    exact hb₃.known i (h.known_iff.mpr (.inl (.inl hi.1)))
  · intro own rows b hown hg hs hcr
    obtain ⟨hc, hrow⟩ := hcr
    cases rows with
    | nil =>
      refine (Behaves.of_plain hs ?_ hc.1).mono fun _ _ hb => hc.beside hb
      exact .andThen (.record Request.isPlain_of_isRemark _ _) fun _ _ => .throw _
    | cons i rest =>
      exact terminateAll_behaves hs hc (hrow _ rfl) hr _

/-- The instance that a payload names is terminated if it has a row. -/
theorem process_behaves (payload : Json.Value) (hs : b.Sane) (hc : b.Calm r.thread)
    (hr : r.treats = none) :
    Behaves r (fun _ b => b.Calm r.thread) own (process payload).run b := by
  unfold process
  split
  · exact fun b' hb => hc.beside hb
  · refine Behaves.andThen hs (remove_behaves hs hc (fun k h => ?_) _) ?_ fun _ _ h => h
    · rw [hr] at h
      cases h
    · exact fun own deleted b hown hg hs hc b' hb => hc.beside hb

end Termination

end GameFleet
