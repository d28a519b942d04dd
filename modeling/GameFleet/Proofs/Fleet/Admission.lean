import GameFleet.Proofs.Fleet.Termination

/-!
# Admission behaves

An admission writes the pending row of an instance that it alone may name while the owner has no
row, deploys that instance, and makes the row a ready one while it holds it.

- `Registry.Fresh`: no row of an instance ever was there, and only its owner may name it.
- `Registry.Placed`: what a reservation ends in.
- `Registry.Over`: what an admission ends in: it has decided about what it deployed, and when it was
  refused it says so.
- `Admission.reserve_behaves`, `Admission.promote_behaves`: the two transactions.
- `Admission.grant_behaves`: the whole admission.
-/

namespace GameFleet

namespace Registry

/-- No row of an instance ever was there, and only a role that owns its identifier may name it. -/
def Fresh (own : List Uuid) (i : Instance) (b : Registry) : Prop :=
  i.id.uuid ∈ own ∧ i.id.uuid ∈ b.given ∧ b.Unused i.id

/-- The place of an owner was reserved. -/
def Placed (tid : Nat) (i : Instance) (b : Registry) : Prop :=
  b.Calm tid ∧ Reserved tid i b.ledger ∧ b.Known i

/-- An admission is over: the thread has decided about what it deployed, and when it was refused it
says so. -/
def Over {α : Type} (tid : Nat) (o : Outcome α) (b : Registry) : Prop :=
  undecided tid b.ledger = [] ∧
    (Refused tid b.ledger → o = .error (.user Admission.alreadyRunning))

/-- A reservation fails, and its transaction is still to be given up. -/
def Failing (tid : Nat) (f : Failure) (b : Registry) : Prop :=
  undecided tid b.ledger = [] ∧
    (Refused tid b.ledger → (b.own? tid).isSome = true ∧ f = .user Admission.alreadyRunning)

/-- A thread is in a transaction and has written nothing. -/
def Opened (tid : Nat) (b : Registry) : Prop := ∃ t, b.own? tid = some t ∧ t.written = []

variable {α : Type} {locking : Bool} {r : Role} {own others : List Uuid} {b b' : Registry}
  {i : Instance} {tid : Nat} {f : Failure}

theorem Calm.undecided_eq (hc : b.Calm tid) : undecided tid b.ledger = [] :=
  List.eq_nil_iff_forall_not_mem.mpr fun id hid => nomatch hc.2 id hid

theorem Calm.over (hc : b.Calm tid) (o : Outcome α) : Over tid o b :=
  ⟨hc.undecided_eq, fun hr => absurd hr hc.1⟩

theorem Calm.failing (hc : b.Calm tid) : b.Failing tid f :=
  ⟨hc.undecided_eq, fun hr => absurd hr hc.1⟩

theorem Over.as_error {β : Type} (h : Over tid (.error f : Outcome α) b) :
    Over tid (.error f : Outcome β) b := by
  refine ⟨h.1, fun hr => ?_⟩
  have := h.2 hr
  cases this
  rfl

theorem Fresh.beside (hf : b.Fresh own i) (hb : Beside r own b b') : b'.Fresh own i :=
  ⟨hf.1, hb.given _ hf.2.1, hb.unused _ hf.1 hf.2.2⟩

theorem Fresh.widen (hf : b.Fresh own i) (h : ∀ id ∈ own, id ∈ others) : b.Fresh others i :=
  ⟨h _ hf.1, hf.2⟩

/-- A call that changes no row makes no identifier known. -/
theorem Fresh.answers {c : Call} {o : Outcome c.Result} (hf : b.Fresh own i)
    (h : b.Answers locking tid c o b') (hr : b'.rows = b.rows) : b'.Fresh own i := by
  refine ⟨hf.1, h.ledger_eq.2 ▸ hf.2.1, fun j hj => ?_⟩
  obtain hj | hj := h.known_iff.mp hj
  · exact hf.2.2 j hj
  · exact hf.2.2 j (.inl (hr ▸ hj))

theorem Opened.beside (ho : b.Opened r.thread) (hb : Beside r own b b') : b'.Opened r.thread := by
  obtain ⟨t, ht, hw⟩ := ho
  exact ⟨t, hb.own.trans ht, hw⟩

theorem Failing.beside (hf : b.Failing r.thread f) (hb : Beside r own b b') :
    b'.Failing r.thread f := by
  refine ⟨List.eq_nil_iff_forall_not_mem.mpr fun id hid => ?_, fun hr => ?_⟩
  · have := hb.mem_undecided hid
    rw [hf.1] at this
    cases this
  · rw [hb.own]
    exact hf.2 (hb.refused_iff.mp hr)

/-- A thread that gives up its transaction is over. -/
theorem Failing.over (hf : b.Failing r.thread f)
    (hb : Beside r own (b.abandon r.thread) b') : Over r.thread (.error f : Outcome α) b' := by
  refine ⟨List.eq_nil_iff_forall_not_mem.mpr fun id hid => ?_, fun hr => ?_⟩
  · have := hb.mem_undecided hid
    rw [abandon_eq.2.1, hf.1] at this
    cases this
  · have := hb.refused_iff.mp hr
    rw [abandon_eq.2.1] at this
    rw [(hf.2 this).2]

theorem Rightful.beside {t : Transaction} {row : Instance} (h : b.Rightful own t row)
    (ht : b.own? r.thread = some t) (hb : Beside r own b b') : b'.Rightful own t row := by
  obtain h | h := h
  · obtain ⟨ho, hg, hu, hp, hw, hfree⟩ := h
    exact .inl ⟨ho, hb.given _ hg, hb.unused _ ho hu, hp, hw,
      fun j hj => hfree j (hb.rows t ht j hj)⟩
  · exact .inr h

theorem Rightful.widen {t : Transaction} {row : Instance} (h : b.Rightful own t row)
    (ho : ∀ id ∈ own, id ∈ others) : b.Rightful others t row :=
  h.imp_left fun h => { h with own := ho _ h.own }

/-- What a transaction has written so far has no part in whether a row may come to stand. -/
theorem Rightful.answers {t t' : Transaction} {row : Instance} {c : Call}
    {o : Outcome c.Result} (hrow : b.Rightful own t row) (h : b.Answers locking tid c o b')
    (hr : b'.rows = b.rows) (hl : t'.locked = t.locked) (ho : t'.opened = t.opened) :
    b'.Rightful own t' row := by
  obtain hrow | hrow := hrow
  · obtain ⟨hown, hg, hu⟩ := Fresh.answers ⟨hrow.own, hrow.given, hrow.unused⟩ h hr
    exact .inl ⟨hown, hg, hu, hrow.pending, hrow.whole, hr ▸ hrow.free⟩
  · exact .inr ⟨hrow.ready, hrow.whole, hl ▸ hrow.locked, ho ▸ hrow.same⟩

theorem Placed.beside (hp : b.Placed r.thread i) (hb : Beside r own b b') :
    b'.Placed r.thread i :=
  ⟨hp.1.beside hb, hb.reserved hp.2.1, hb.known i hp.2.2⟩

end Registry

namespace Admission

open Registry Program

variable {r : Role} {own : List Uuid} {b : Registry} {i : Instance}

/-- An owner passes the gates by plain calls. -/
theorem plain_gates (billing : Bool) (owner : OwnerId) : (gates billing owner).run.Plain := by
  refine .andThen (.call rfl) fun identity _ => ?_
  cases identity with
  | none => exact .throw _
  | some identity =>
    refine .andThen (.call rfl) fun ban _ => ?_
    cases ban with
    | some ban => exact .throw _
    | none =>
      cases billing with
      | false => exact .pure trivial
      | true =>
        refine .andThen (R := fun _ => True) (.andThen (.call rfl) fun (balance : Int) _ => ?_)
          fun _ _ => .pure trivial
        split
        · exact .andThen (.record Request.isPlain_of_isRemark ..) fun _ _ => .throw _
        · exact .pure trivial

/-- What was written in a transaction whose only row may come to stand. -/
theorem commit_behaves {row : Instance} {t : Transaction} (hr : r.treats = none)
    (hc : b.Calm r.thread) (ht : b.own? r.thread = some t) (hw : t.written = [row])
    (hrow : b.Rightful own t row) :
    Behaves r (fun o b => match o with
      | .ok _ => b.Calm r.thread ∧ (row.status = .pending → b.Placed r.thread row)
      | .error f => b.Failing r.thread f) own (Op.call .commit).run b := by
  refine .call fun b' hb => ⟨⟨(hc.beside hb).1, ?_, fun u hu => ?_⟩, ?_⟩
  · intro k hk
    rw [hr] at hk
    cases hk
  · obtain rfl : u = t := Option.some.inj ((hu.symm.trans hb.own).trans ht)
    exact ⟨row, hw, hrow.beside ht hb⟩
  · intro locking o b'' h b₃ hb₃
    have hc' : b''.Calm r.thread := Owes.answers (hc.beside hb) h rfl rfl
    cases o with
    | error f => exact (hc'.beside hb₃).failing
    | ok a =>
      refine ⟨hc'.beside hb₃, fun hp => Placed.beside ⟨hc', ?_, ?_⟩ hb₃⟩
      -- The commit itself is the reservation, and no other row of the owner stood then.
      · obtain hrow | hrow := hrow.beside ht hb
        · refine ⟨⟨r.thread, .commit, .ok a, b'.rows, b''.rows⟩, ?_, rfl, rfl, rfl, hp, ?_, ?_, ?_⟩
          · rw [h.ledger_eq.1]
            exact List.mem_cons_self ..
          · show row ∈ b''.rows
            rw [h.rows_commit (hb.own.trans ht), hw]
            exact Rows.mem_put_self ..
          · exact fun j hj => hrow.unused j (.inl hj)
          · exact fun j hj ho => absurd ho (hrow.free j hj)
        · have := hrow.ready
          rw [hp] at this
          cases this
      · refine h.known_iff.mpr (.inr ?_)
        rw [h.rows_commit (hb.own.trans ht), hw]
        exact Rows.mem_put_self ..

/-- A row that may come to stand is the only one that the transaction has written. -/
def Wrote (own : List Uuid) (tid : Nat) (row : Instance) (b : Registry) : Prop :=
  ∃ t, b.own? tid = some t ∧ t.written = [row] ∧ b.Rightful own t row

/-- A row that may come to stand is written. -/
theorem write_behaves {row : Instance} {t : Transaction} (hr : r.treats = none)
    (hc : b.Calm r.thread) (ht : b.own? r.thread = some t) (hw : t.written = [])
    (hrow : b.Rightful own t row) :
    Behaves r (fun o b => match o with
      | .ok _ => b.Calm r.thread ∧ Wrote own r.thread row b
      | .error f => b.Failing r.thread f) own (Op.call (.write row)).run b := by
  refine .call fun b' hb => ⟨⟨(hc.beside hb).1, ?_, trivial⟩, ?_⟩
  · intro k hk
    rw [hr] at hk
    cases hk
  · intro locking o b'' h b₃ hb₃
    have hc' : b''.Calm r.thread := Owes.answers (hc.beside hb) h rfl rfl
    cases o with
    | error f => exact (hc'.beside hb₃).failing
    | ok a =>
      obtain ⟨ht', hrows⟩ := h.own?_write (hb.own.trans ht)
      have hrow' : b''.Rightful own { t with written := t.written ++ [row] } row :=
        (hrow.beside ht hb).answers h hrows rfl rfl
      exact ⟨hc'.beside hb₃, _, hb₃.own.trans ht', by rw [hw]; rfl, hrow'.beside ht' hb₃⟩

/-- What a reservation finds out about the place of an owner. -/
def Rechecked (own : List Uuid) (tid : Nat) (i : Instance) (o : Outcome (List Instance))
    (b : Registry) : Prop :=
  match o with
  | .ok rows =>
    if rows.any Instance.isActive then b.Failing tid (.user alreadyRunning)
    else b.Calm tid ∧ b.Fresh own i ∧ b.Opened tid ∧ ∀ j ∈ b.rows, j.owner ≠ i.owner
  | .error f => b.Failing tid f

/-- The place of an owner is found free or taken. -/
theorem recheck_behaves (hr : r.treats = none) (hc : b.Calm r.thread)
    (hu : Unstarted r.thread b.ledger) (hf : b.Fresh own i) (ho : b.Opened r.thread) :
    Behaves r (Rechecked own r.thread i) own (Op.call (.ownersInTransaction i.owner)).run b := by
  refine .call fun b' hb => ⟨⟨(hc.beside hb).1, fun k hk => ?_, hb.unstarted hr hu⟩, ?_⟩
  · rw [hr] at hk
    cases hk
  intro locking o b'' h b₃ hb₃
  cases o with
  | error f => exact (Calm.beside (Owes.answers (hc.beside hb) h rfl rfl) hb₃).failing
  | ok rows =>
    obtain ⟨t, ht, hw⟩ := ho.beside hb
    obtain ⟨hrows, ht', hsame⟩ := h.own?_owners ht hw
    show if List.any (rows : List Instance) Instance.isActive = true then _ else _
    -- A row that is active refuses the owner. Otherwise there is none, since every row is active.
    split
    · refine Failing.beside ⟨?_, fun _ => ⟨?_, rfl⟩⟩ hb₃
      · refine List.eq_nil_iff_forall_not_mem.mpr fun id hid => ?_
        rw [h.ledger_eq.1] at hid
        have := (hc.beside hb).2 id (mem_undecided_of_cons (fun _ => rfl) hid)
        cases this
      · rw [ht']
        rfl
    · rename_i hany
      have hc' : b''.Calm r.thread := Owes.answers (hc.beside hb) h (Bool.eq_false_iff.mpr hany) rfl
      refine ⟨hc'.beside hb₃, ((hf.beside hb).answers h hsame).beside hb₃,
        Opened.beside ⟨t, ht', hw⟩ hb₃, fun j hj hown => hany ?_⟩
      have hj' : j ∈ b'.rows := hsame ▸ hb₃.rows t ht' j hj
      rw [hrows, List.any_eq_true]
      refine ⟨j, ?_, j.isActive_eq_true⟩
      rw [owned, Rows.mem_oldestFirst, List.mem_filter]
      exact ⟨hj', decide_eq_true hown⟩

theorem Rechecked.widen {others : List Uuid} {tid : Nat} {o : Outcome (List Instance)}
    (h : Rechecked own tid i o b) (ho : ∀ id ∈ own, id ∈ others) : Rechecked others tid i o b := by
  cases o with
  | error f => exact h
  | ok rows =>
    simp only [Rechecked] at h ⊢
    by_cases hany : rows.any Instance.isActive = true
    · rw [if_pos hany] at h ⊢
      exact h
    · rw [if_neg hany] at h ⊢
      exact ⟨h.1, h.2.1.widen ho, h.2.2⟩

/-- The pending row is written and committed unless the place is taken. -/
theorem fill_behaves {rows : List Instance} (hs : b.Sane) (hr : r.treats = none)
    (hp : i.status = .pending) (hi : i.IsWhole) (h : Rechecked own r.thread i (.ok rows) b) :
    Behaves r (fun o b => match o with
      | .ok _ => b.Placed r.thread i
      | .error f => b.Failing r.thread f) own
      (do
        if rows.any Instance.isActive then throw (.user alreadyRunning)
        Op.call (.write i)
        Op.call .commit : Op Unit).run b := by
  simp only [Rechecked] at h
  cases hany : rows.any Instance.isActive with
  | true =>
    rw [hany] at h
    exact fun b' hb => Failing.beside h hb
  | false =>
    rw [hany] at h
    obtain ⟨hc, hf, ⟨t, ht, hw⟩, hfree⟩ := h
    have hrow : b.Rightful own t i := .inl ⟨hf.1, hf.2.1, hf.2.2, hp, hi, hfree⟩
    refine Behaves.andThen hs (write_behaves hr hc ht hw hrow) ?_ fun _ _ h => h
    intro own' _ b ho _ hs hcr
    obtain ⟨hc, t, ht, hw, hrow⟩ := hcr
    refine (commit_behaves hr hc ht hw (hrow.widen ho)).mono fun o b h => ?_
    cases o with
    | error f => exact h
    | ok a => exact h.2 hp

/-- The place of an owner is reserved, or it is taken, or something fails. -/
theorem reserve_behaves (hs : b.Sane) (hr : r.treats = none) (hc : b.Calm r.thread)
    (hu : Unstarted r.thread b.ledger) (hf : b.Fresh own i) (hp : i.status = .pending)
    (hi : i.IsWhole) :
    Behaves r (fun o b => match o with
      | .ok _ => b.Placed r.thread i
      | .error f => Over r.thread (.error f : Outcome Unit) b) own (reserve i).run b := by
  have hnone : ∀ k, ¬r.treats = some k := by
    intro k hk
    rw [hr] at hk
    cases hk
  refine Behaves.transaction hs
    (I := fun o b => b.Calm r.thread ∧ ∀ a, o = .ok a →
      Unstarted r.thread b.ledger ∧ b.Fresh own i ∧ b.Opened r.thread)
    (P := fun o b => match o with
      | .ok _ => b.Placed r.thread i
      | .error f => b.Failing r.thread f)
    (.call fun b' hb => ⟨⟨(hc.beside hb).1, fun k hk => absurd hk (hnone k), trivial⟩, ?_⟩) ?_
    (fun _ _ h => h) (fun f b h => h.1.over _) ?_
  · intro locking o b'' h b₃ hb₃
    have hc' : b''.Calm r.thread := Owes.answers (hc.beside hb) h rfl rfl
    refine ⟨hc'.beside hb₃, ?_⟩
    rintro a rfl
    refine ⟨hb₃.unstarted hr ?_, Fresh.beside ?_ hb₃, Opened.beside ⟨_, h.own?_begin, rfl⟩ hb₃⟩
    · rw [h.ledger_eq.1]
      exact unstarted_cons.mpr ⟨fun _ => rfl, hb.unstarted hr hu⟩
    · exact (hf.beside hb).answers h (h.rows_eq nofun nofun)
  · intro own a b ho hg hs hcr
    obtain ⟨hc, hopen⟩ := hcr
    obtain ⟨hu, hf, hopened⟩ := hopen a rfl
    refine Behaves.andThen hs (recheck_behaves hr hc hu (hf.widen ho) hopened) ?_ fun _ _ h => h
    intro own' rows b ho' _ hs hq
    exact fill_behaves hs hr hp hi (hq.widen ho')
  · intro own' f b hs hfail
    exact ⟨⟨hr, fun h => (hfail.2 h).1⟩, fun b' hb => hfail.over hb⟩

/-- The place of an owner who passed the gates is reserved for an instance that is named anew. -/
theorem reserveFor_behaves (q : AdmissionRequest) (hr : r.treats = none)
    (hc : b.Calm r.thread) (hu : Unstarted r.thread b.ledger) :
    Behaves r (fun o b => match o with
      | .ok i => b.Placed r.thread i
      | .error f => Over r.thread (.error f : Outcome Unit) b) own (reserveFor q).run b := by
  refine Behaves.ask_iff.mpr fun b hb => ⟨⟨(hc.beside hb).1, hr⟩, fun locking id b' hserves => ?_⟩
  obtain ⟨hid, rfl⟩ : id ∉ b.given ∧ b' = b.give id := hserves
  have hf : ∀ i : Instance, i.id = ⟨id⟩ → (b.give id).Fresh (id :: own) i := by
    intro i hi
    refine ⟨hi ▸ List.mem_cons_self .., hi ▸ List.mem_cons_self .., fun j hj hji => hid ?_⟩
    have := hb.sane.given j hj
    rwa [hji, hi] at this
  have hgive : Beside r own b (b.give id) := .give hb.sane id
  show Behaves r _ (id :: own) (ExceptT.run (Op.ask .now >>= fun now => do
    reserve (Instance.pending ⟨id⟩ q.owner q.region q.variant q.guild now)
    return Instance.pending ⟨id⟩ q.owner q.region q.variant q.guild now)) (b.give id)
  have hc' := (hc.beside hb).beside hgive
  refine Behaves.andThen hgive.sane (Behaves.of_plain hgive.sane (.ask rfl) hc'.1) ?_
    fun _ _ h => (hc'.beside h).over _
  intro own' now b' ho _ hs hb'
  refine Behaves.andThen hs (reserve_behaves hs hr (hc'.beside hb')
    (hb'.unstarted hr (hgive.unstarted hr (hb.unstarted hr hu)))
    (((hf _ rfl).beside hb').widen ho) rfl ⟨rfl, rfl⟩) ?_ fun _ _ h => h
  exact fun own a b _ _ hs h b' hb => Placed.beside h hb

/-- A reserved instance is deployed, or something fails. -/
theorem deployPending_behaves (identity : String) (hs : b.Sane) (hr : r.treats = none)
    (hp : b.Placed r.thread i) :
    Behaves r (fun o b => match o with
      | .ok ready => (∃ d, ready = i.promoted d) ∧ b.Owes r.thread [i.id] ∧ b.Known i
      | .error _ => b.Calm r.thread) own (deployPending i identity).run b := by
  have hplain : (overridesOf i.guild).run.Plain := by
    cases i.guild with
    | none => exact .pure trivial
    | some guild => exact .call rfl
  refine Behaves.andThen hs (Behaves.of_plain hs hplain hp.1.1) ?_ fun _ _ h => hp.1.beside h
  intro own overrides b _ _ hs hb
  have hp := hp.beside hb
  refine Behaves.andThen hs (Q := fun o b => match o with
      | .ok _ => b.Owes r.thread [i.id] ∧ b.Known i
      | .error _ => b.Calm r.thread)
    (.call fun b' hb => ⟨⟨(hp.1.beside hb).1, fun k hk => ?_,
      ⟨i, ⟨rfl, rfl, rfl, rfl, rfl⟩, hb.reserved hp.2.1⟩⟩, ?_⟩) ?_ fun _ _ h => h
  · rw [hr] at hk
    cases hk
  · intro locking o b'' h b₃ hb₃
    -- Nothing is owed for an instance whose deployment failed.
    cases o with
    | error f => exact Calm.beside (Owes.answers (hp.1.beside hb) h rfl rfl) hb₃
    | ok d =>
      refine ⟨Owes.beside ⟨?_, fun id hid => ?_⟩ hb₃,
        hb₃.known i (h.known_iff.mpr (.inl (hb.known i hp.2.2)))⟩
      · rw [h.ledger_eq.1, refused_cons]
        rintro (⟨-, hr'⟩ | hr')
        · cases hr'
        · exact (hp.1.beside hb).1 hr'
      · rw [h.ledger_eq.1, undecided, if_pos rfl] at hid
        rcases List.mem_append.mp hid with hid | hid
        · exact hid
        · cases (hp.1.beside hb).2 id (List.mem_filter.mp hid).1
  · intro own d b _ _ hs h b' hb
    exact ⟨⟨d, rfl⟩, h.1.beside hb, hb.known i h.2⟩

/-- What the search for the row of a deployed instance ends in. -/
def Sought (own : List Uuid) (tid : Nat) (ready : Instance) (row : Option Instance)
    (b : Registry) : Prop :=
  match row with
  | some _ => b.Calm tid ∧ ∃ t, b.own? tid = some t ∧ t.written = [] ∧ b.Rightful own t ready
  | none => b.Owes tid [ready.id]

theorem Sought.widen {others : List Uuid} {tid : Nat} {ready : Instance} {row : Option Instance}
    (h : Sought own tid ready row b) (ho : ∀ id ∈ own, id ∈ others) :
    Sought others tid ready row b := by
  cases row with
  | none => exact h
  | some j =>
    obtain ⟨hc, t, ht, hw, hrow⟩ := h
    exact ⟨hc, t, ht, hw, hrow.widen ho⟩

/-- The row of a deployed instance is there, and locked, or it is not, or nobody knows. -/
theorem seek_behaves {ready : Instance} (hr : r.treats = none)
    (ho : b.Owes r.thread [ready.id]) (hopen : b.Opened r.thread) (hready : ready.status = .ready)
    (hw : ready.IsWhole) (hk : ∃ i, b.Known i ∧ i.particulars = ready.particulars) :
    Behaves r (fun o b => match o with
      | .ok row => Sought own r.thread ready row b
      | .error f => b.Failing r.thread f) own (Op.call (.lockInstance ready.id)).run b := by
  refine .call fun b' hb => ⟨⟨(ho.beside hb).1, fun k hk => ?_, fun u hu => ?_⟩, ?_⟩
  · rw [hr] at hk
    cases hk
  · obtain ⟨t, ht, hw⟩ := hopen.beside hb
    obtain rfl : u = t := Option.some.inj (hu.symm.trans ht)
    exact hw
  intro locking o b'' h b₃ hb₃
  have hid : decide (ready.id = ready.id) = true := decide_eq_true rfl
  cases o with
  | error f =>
    exact (Calm.beside ((ho.beside hb).decided h rfl rfl hid) hb₃).failing
  | ok row =>
    obtain ⟨t, ht, hwr⟩ := hopen.beside hb
    obtain ⟨hrow, ht'⟩ := h.own?_lock ht hwr
    cases row with
    | none => exact Owes.beside ((ho.beside hb).answers h rfl rfl) hb₃
    | some j =>
      obtain ⟨hj, hji⟩ := Rows.mem_of_find? hrow.symm
      obtain ⟨i, hi, hp⟩ := hk
      have hcalm : b''.Calm r.thread :=
        (ho.beside hb).decided h rfl rfl (by simp [Entry.decides])
      -- The row that is found is that of the reservation, so it says the same of the instance.
      have hsame : j.particulars = ready.particulars := by
        rw [← hp]
        exact hb.sane.agree j i (.inl hj) (hb.known i hi) (hji.trans (Instance.id_eq hp).symm)
      refine ⟨hcalm.beside hb₃, _, hb₃.own.trans ht', hwr, .inr ⟨hready, hw, ?_, j, ?_, hsame⟩⟩
      · exact List.mem_cons_self ..
      · exact (hb.sane.opened t (own?_eq_some.mp ht).1).1 j hj

/-- The row that was found is replaced; without one, the transaction is given up. -/
theorem replace_behaves {ready : Instance} {row : Option Instance} (hs : b.Sane)
    (hr : r.treats = none) (h : Sought own r.thread ready row b) :
    Behaves r (fun o b => match o with
      | .ok true => b.Calm r.thread
      | .ok false => b.Owes r.thread [ready.id]
      | .error f => b.Failing r.thread f) own
      (do
        if row.isNone then
          Op.ask .abandon
          return false
        Op.call (.write ready)
        Op.call .commit
        return true : Op Bool).run b := by
  cases row with
  | none =>
    have ho : b.Owes r.thread [ready.id] := h
    refine Behaves.ask_iff.mpr fun b' hb =>
      ⟨⟨hr, fun h => absurd h (ho.beside hb).1⟩, fun locking _ b'' hserves => ?_⟩
    obtain rfl : b'' = b'.abandon r.thread := hserves
    have ho' : (b'.abandon r.thread).Owes r.thread [ready.id] := by
      rw [Owes, abandon_eq.2.1]
      exact ho.beside hb
    exact fun b₃ hb₃ => ho'.beside hb₃
  | some j =>
    obtain ⟨hc, t, ht, hw, hrow⟩ := h
    refine Behaves.andThen hs (write_behaves hr hc ht hw hrow) ?_ fun _ _ h => h
    intro own' _ b ho _ hs hcr
    obtain ⟨hc, t, ht, hw, hrow⟩ := hcr
    refine Behaves.andThen hs (commit_behaves hr hc ht hw (hrow.widen ho)) ?_ fun _ _ h => h
    exact fun own a b _ _ hs h b' hb => Calm.beside h.1 hb

/-- The row of a deployed instance becomes a ready one, or it is not there, or nobody knows. -/
theorem promote_behaves {ready : Instance} (hs : b.Sane) (hr : r.treats = none)
    (ho : b.Owes r.thread [ready.id]) (hready : ready.status = .ready) (hw : ready.IsWhole)
    (hk : ∃ i, b.Known i ∧ i.particulars = ready.particulars) :
    Behaves r (fun o b => match o with
      | .ok true => b.Calm r.thread
      | .ok false => b.Owes r.thread [ready.id]
      | .error f => Over r.thread (.error f : Outcome Unit) b) own (promote ready).run b := by
  refine Behaves.transaction hs
    (I := fun o b => match o with
      | .ok _ => b.Owes r.thread [ready.id] ∧ b.Opened r.thread
      | .error _ => b.Calm r.thread)
    (P := fun o b => match o with
      | .ok true => b.Calm r.thread
      | .ok false => b.Owes r.thread [ready.id]
      | .error f => b.Failing r.thread f)
    (.call fun b' hb => ⟨⟨(ho.beside hb).1, fun k hk => ?_, trivial⟩, ?_⟩) ?_
    (fun a b h => by cases a <;> exact h) (fun f b h => h.over _) ?_
  · rw [hr] at hk
    cases hk
  · intro locking o b'' h b₃ hb₃
    cases o with
    | error f => exact Calm.beside ((ho.beside hb).decided h rfl rfl rfl) hb₃
    | ok a =>
      exact ⟨Owes.beside ((ho.beside hb).answers h rfl rfl) hb₃,
        Opened.beside ⟨_, h.own?_begin, rfl⟩ hb₃⟩
  · intro own a b _ hg hs hcr
    obtain ⟨i, hi, hp⟩ := hk
    refine Behaves.andThen hs
      (seek_behaves hr hcr.1 hcr.2 hready hw ⟨i, hg.known i hi, hp⟩) ?_ fun _ _ h => h
    intro own' row b ho' _ hs h
    exact replace_behaves hs hr (Sought.widen h ho')
  · intro own' f b hs hfail
    exact ⟨⟨hr, fun h => (hfail.2 h).1⟩, fun b' hb => hfail.over hb⟩

/-- An instance that was reclaimed while it was deployed is destroyed. -/
theorem discard_behaves {ready : Instance} (hr : r.treats = none)
    (ho : b.Owes r.thread [ready.id]) :
    Behaves r (fun _ b => b.Calm r.thread) own
      (Op.bestEffort (Op.call (.destroy ready.id ready.region))).run b := by
  refine Meets.bestEffort (Behaves.call fun b' hb =>
    ⟨.of_mild (ho.beside hb).1 rfl (fun k _ hk _ => ?_) trivial, ?_⟩)
  · rw [hr] at hk
    cases hk
  · intro locking o b'' h b₃ hb₃
    exact Calm.beside ((ho.beside hb).decided h rfl rfl (by simp [Entry.decides])) hb₃

/-- An admission behaves. -/
theorem grant_behaves (billing : Bool) (q : AdmissionRequest) (hs : b.Sane)
    (hr : r.treats = none) (hc : b.Calm r.thread) (hu : Unstarted r.thread b.ledger) :
    Behaves r (fun o b => Over r.thread o b) own (grant billing q).run b := by
  refine Behaves.andThen hs (Behaves.of_plain hs (plain_gates billing q.owner) hc.1) ?_
    fun _ _ h => (hc.beside h).over _
  intro own identity b _ _ hs hb
  refine Behaves.andThen hs (reserveFor_behaves q hr (hc.beside hb) (hb.unstarted hr hu)) ?_
    fun _ _ h => h.as_error
  intro own i b _ _ hs hp
  refine Behaves.andThen hs (deployPending_behaves identity hs hr hp) ?_ fun _ _ h => h.over _
  rintro own _ b _ _ hs ⟨⟨d, rfl⟩, ho, hk⟩
  refine Behaves.andThen hs (promote_behaves hs hr ho rfl ⟨rfl, rfl⟩ ⟨i, hk, rfl⟩) ?_
    fun _ _ h => h.as_error
  intro own promoted b _ _ hs h
  -- What is owed is settled by the row that is ready now, or by destroying the instance.
  cases promoted with
  | true =>
    have hc : b.Calm r.thread := h
    refine Behaves.andThen hs (Behaves.of_plain hs (.record Request.isPlain_of_isRemark ..) hc.1) ?_
      fun _ _ h => (hc.beside h).over _
    exact fun own _ b _ _ hs hb b' hb' => ((hc.beside hb).beside hb').over _
  | false =>
    refine Behaves.andThen hs (discard_behaves hr h) ?_ fun _ _ h => h.over _
    exact fun own _ b _ _ hs hc b' hb => (Calm.beside hc hb).over _

end Admission

end GameFleet
