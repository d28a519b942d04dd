import GameFleet.Proofs.Admission.Course

/-!
# What comes of an admission (specification §4.3)

Every part of an admission goes as planned, or is refused by one of its calls. An admission is one
part up to the reservation, and another after it.

- `Admission.gates_part`, `Admission.reserve_part`, `Admission.deployPending_part`: the parts.
- `Admission.promote_cases`: the transaction that replaces the row may also find that it has gone.
- `Admission.Ending`: how an admission ends, with what it called and what it changed.
- `Admission.grant_course`: every admission ends so.
-/

namespace GameFleet

namespace Admission

variable {α β : Type} {r : AdmissionRequest} {d : Course} {tid : Nat} {plan : List Call}
  {written : List Instance} {a : α} {b : β} {t : Trace}

/-! ### The gates -/

theorem creditGate_part (tid : Nat) {v : Outcome Unit}
    (hgate : (creditGate r.owner).run.Gives t v) :
    ∃ refusedAt, ∀ d : Course, d.refusedAt = refusedAt →
      Part r d tid [.balance r.owner] [] () t v := by
  obtain ⟨n, t', rfl, h⟩ | ⟨f, rfl, rfl⟩ := hgate.of_callThen
  · split at h
    · rename_i hn
      obtain ⟨t₁, _, t₂, rfl, h₁, h₂⟩ | ⟨f, -, h⟩ := h.of_andThen
      · obtain ⟨now, o, rfl, -⟩ := h₁.of_record
        obtain ⟨rfl, rfl⟩ := h₂.of_throw
        refine ⟨now, fun d hd => .refuses ?_ (fun b => b.rows_upon tid ?_) ?_⟩
        · subst hd
          exact ⟨[], ⟨.balance r.owner, .ok n⟩, [], [⟨.log _, o⟩], rfl, List.forall_mem_nil _,
            if_pos hn, rfl, rfl⟩
        · simp [Trace.calls, Called.Stores]
        · simp [Course.Agrees]
      · obtain ⟨_, _, -, h⟩ := h.of_record
        cases h
    · rename_i hn
      obtain ⟨rfl, rfl⟩ := h.of_pure
      have hnone : Called.refusal? ⟨.balance r.owner, .ok n⟩ = none := if_neg hn
      exact ⟨default, fun d _ => .call hnone not_false trivial⟩
  · exact ⟨default, fun d _ => .failed rfl rfl not_false⟩

/-- The gates once the owner's name is known. -/
theorem banGate_part (tid : Nat) {billing : Bool} {identity : String} {v : Outcome String}
    (hgates : (do
      let ban : Option Ban ← Op.call (.ban r.owner identity)
      if let some ban := ban then throw (.user (banned ban))
      if billing then creditGate r.owner
      return identity : Op String).run.Gives t v) :
    ∃ refusedAt, ∀ d : Course, d.refusedAt = refusedAt →
      Part r d tid (.ban r.owner identity :: if billing then [.balance r.owner] else []) []
        identity t v := by
  obtain ⟨answer, t', rfl, h⟩ | ⟨f, rfl, rfl⟩ := hgates.of_callThen
  · cases answer with
    | some ban =>
      obtain ⟨_, _, _, -, h, -⟩ | ⟨f, rfl, h⟩ := h.of_andThen
      · cases h.of_throw.2
      · obtain ⟨rfl, hf⟩ := h.of_throw
        cases hf
        exact ⟨default, fun d _ => .refusedBy rfl rfl not_false trivial⟩
    | none =>
      have hban : ∀ d : Course, Part r d tid [.ban r.owner identity] [] ()
          [⟨.call (.ban r.owner identity), .ok none⟩] (.ok ()) := fun d =>
        .call rfl not_false trivial
      cases billing with
      | false =>
        obtain ⟨rfl, rfl⟩ := h.of_pure
        exact ⟨default, fun d _ => (hban d).append (.nil identity)⟩
      | true =>
        obtain ⟨t₁, _, t₂, rfl, h₁, h₂⟩ | ⟨f, rfl, hcredit⟩ := h.of_andThen
        · obtain ⟨rfl, rfl⟩ := h₂.of_pure
          obtain ⟨refusedAt, h⟩ := creditGate_part tid h₁
          exact ⟨refusedAt, fun d hd => (hban d).append ((h d hd).append (.nil identity))⟩
        · obtain ⟨refusedAt, h⟩ := creditGate_part tid hcredit
          exact ⟨refusedAt, fun d hd => (hban d).append (h d hd).cutShort⟩
  · exact ⟨default, fun d _ => .failed rfl rfl not_false⟩

theorem gates_part (tid : Nat) {billing : Bool} {v : Outcome String}
    (hgates : (gates billing r.owner).run.Gives t v) :
    ∃ identity refusedAt, ∀ d : Course, d.identity = identity → d.refusedAt = refusedAt →
      Part r d tid (d.passing r billing) [] identity t v := by
  obtain ⟨answer, t', rfl, h⟩ | ⟨f, rfl, rfl⟩ := hgates.of_callThen
  · cases answer with
    | none =>
      obtain ⟨rfl, rfl⟩ := h.of_throw
      exact ⟨default, default, fun d _ _ => .refusedBy rfl rfl not_false trivial⟩
    | some identity =>
      obtain ⟨refusedAt, h⟩ := banGate_part tid h
      refine ⟨identity, refusedAt, ?_⟩
      rintro d rfl hd
      have hidentity : Part r d tid [.identity r.owner] [] ()
          [⟨.call (.identity r.owner), .ok (some d.identity)⟩] (.ok ()) :=
        .call rfl not_false rfl
      exact hidentity.append (h d hd)
  · exact ⟨default, default, fun d _ _ => .failed rfl rfl not_false⟩

/-! ### The deployment -/

theorem overrides_part (tid : Nat) {v : Outcome (List (String × String))}
    (hop : (overridesOf r.guild).run.Gives t v) :
    ∃ overrides, ∀ d : Course, d.overrides = overrides →
      Part r d tid (r.guild.map Call.overrides).toList []
        (r.guild.elim [] fun _ => d.overrides) t v := by
  obtain ⟨region, variant, owner, guild⟩ := r
  cases guild with
  | none =>
    obtain ⟨rfl, rfl⟩ := hop.of_pure
    exact ⟨default, fun d _ => .nil _⟩
  | some guild =>
    obtain rfl := Program.Gives.of_call (c := .overrides guild) hop
    cases v with
    | ok overrides =>
      refine ⟨overrides, ?_⟩
      rintro d rfl
      exact .call rfl not_false rfl
    | error f => exact ⟨default, fun d _ => .failed rfl rfl not_false⟩

/-- The reserved instance is deployed. -/
theorem deployPending_part (tid : Nat) {identity : String} {id : Uuid} {createdAt : Timestamp}
    {v : Outcome Instance} (hop : (deployPending
      (.pending ⟨id⟩ r.owner r.region r.variant r.guild createdAt) identity).run.Gives t v) :
    ∃ overrides deployment, ∀ d : Course, d.identity = identity → d.id = id →
      d.createdAt = createdAt → d.overrides = overrides → d.deployment = deployment →
      Part r d tid (d.supplying r) [] (d.ready r) t v := by
  obtain ⟨t₁, given, t₂, rfl, h₁, h₂⟩ | ⟨f, rfl, h⟩ := hop.of_andThen
  · obtain ⟨overrides, h⟩ := overrides_part tid h₁
    obtain ⟨deployment, t', rfl, hready⟩ | ⟨f, rfl, rfl⟩ := h₂.of_callThen
    · obtain ⟨rfl, rfl⟩ := hready.of_pure
      refine ⟨overrides, deployment, ?_⟩
      rintro d rfl rfl rfl hoverrides rfl
      obtain rfl := (h d hoverrides).eq_of_ok
      exact (h d hoverrides).append (.call rfl not_false rfl)
    · refine ⟨overrides, default, ?_⟩
      rintro d rfl rfl rfl hoverrides -
      obtain rfl := (h d hoverrides).eq_of_ok
      exact (h d hoverrides).append (.failed rfl rfl not_false)
  · obtain ⟨overrides, h⟩ := overrides_part tid h
    exact ⟨overrides, default, fun d _ _ _ hd _ => (h d hd).cutShort⟩

/-! ### The transactions -/

/-- A transaction is refused, or what is done in it is not. -/
theorem transaction_cases {op : Op β} {v : Outcome β} (hop : (Op.transaction op).run.Gives t v)
    (herror : ∀ t f, op.run.Gives t (.error f) → Part r d tid plan written a t (.error f)) :
    (∃ f, v = .error f ∧ Part r d tid (.begin :: plan) written a t (.error f)) ∨
    ∃ t' b, t = ⟨.call .begin, .ok ()⟩ :: t' ∧ op.run.Gives t' (.ok b) ∧ v = .ok b := by
  obtain ⟨f, rfl, rfl⟩ | h | ⟨t, f, rfl, h, rfl⟩ := hop.of_transaction
  · exact .inl ⟨f, rfl, .failed rfl rfl not_false⟩
  · exact .inr h
  · exact .inl ⟨f, rfl, (Part.call_begin tid).append (herror t f h).abandoned⟩

/-- An operation commits the transaction, and does nothing else. -/
def Commits (op : Op α) (a : α) : Prop :=
  ∀ t v, op.run.Gives t v →
    (∃ f, t = [⟨.call .commit, .error f⟩] ∧ v = .error f) ∨
    t = [⟨.call .commit, .ok ()⟩] ∧ v = .ok a

/-- A thread is in a transaction in which it wrote nothing so far. -/
def Unwritten (tid : Nat) (rows : List Instance) (b : Registry) : Prop :=
  (∃ own, b.own? tid = some own ∧ own.written = []) ∧ b.rows = rows

theorem Unwritten.change {rows : List Instance} {b : Registry} (hb : Unwritten tid rows b)
    {f : Transaction → Transaction} (hthread : ∀ own, (f own).thread = own.thread)
    (hwritten : ∀ own, (f own).written = own.written) : Unwritten tid rows (b.change tid f) := by
  obtain ⟨⟨own, hown, hw⟩, rfl⟩ := hb
  refine ⟨⟨f own, ?_, (hwritten own).trans hw⟩, (Registry.change_eq f).1⟩
  rw [Registry.change, hown]
  exact Registry.own?_eq_some.mpr ⟨rfl, (hthread own).trans (Registry.own?_eq_some.mp hown).2⟩

/-- The row stands that was written alone. -/
theorem rows_written {rows : List Instance} {b : Registry} (hb : Unwritten tid rows b)
    (row : Instance) :
    (b.upon tid [⟨.call (.write row), .ok ()⟩, ⟨.call .commit, .ok ()⟩]).rows =
      Rows.overlaid Instance.id rows [row] := by
  obtain ⟨⟨own, hown, hw⟩, rfl⟩ := hb
  show ((b.take tid (.write row)).commit tid).rows = _
  have hown' : (b.take tid (.write row)).own? tid =
      some { own with written := own.written ++ [row] } := by
    rw [Registry.take, Registry.change, hown]
    exact Registry.own?_eq_some.mpr ⟨rfl, (Registry.own?_eq_some.mp hown).2⟩
  have hrows : (b.take tid (.write row)).rows = b.rows := Registry.change_eq _ |>.1
  rw [Registry.commit, hown', hw]
  exact congrArg (Rows.overlaid Instance.id · [row]) hrows

section Committing

variable {look : Call} {found : look.Result} {row : Instance}

/-- A row is looked for and another written in a transaction that is committed. -/
theorem Part.committed (hnone : Called.refusal? ⟨look, .ok found⟩ = none)
    (hagrees : d.Agrees ⟨.call look, .ok found⟩)
    (hlook : ∀ rows b, Unwritten tid rows b →
      Unwritten tid rows (b.told tid ⟨.call look, .ok found⟩)) :
    Part r d tid [.begin, look, .write row, .commit] [row] a
      [⟨.call .begin, .ok ()⟩, ⟨.call look, .ok found⟩, ⟨.call (.write row), .ok ()⟩,
        ⟨.call .commit, .ok ()⟩] (.ok a) := by
  refine .passes ⟨rfl, fun e he => ?_⟩ (fun b => ?_) fun e he => ?_
  · simp only [Trace.calls, List.mem_cons, List.not_mem_nil, or_false] at he
    obtain rfl | rfl | rfl | rfl := he
    · rfl
    · exact hnone
    · rfl
    · rfl
  · have hbegin : Unwritten tid b.rows (b.take tid .begin) :=
      ⟨⟨_, Registry.own?_eq_some.mpr ⟨rfl, rfl⟩, rfl⟩, rfl⟩
    exact rows_written (hlook _ _ hbegin) row
  · simp only [List.mem_cons, List.not_mem_nil, or_false] at he
    obtain rfl | rfl | rfl | rfl := he
    · trivial
    · exact hagrees
    · trivial
    · trivial

/-- Once a row is looked for in a transaction, another is written and the transaction committed,
unless one of these calls fails. -/
theorem commits_part (look : Call) {found : look.Result} {op : Op β} {v : Outcome β}
    (hnone : Called.refusal? ⟨look, .ok found⟩ = none)
    (hstores : ¬Called.Stores ⟨look, .ok found⟩) (hagrees : d.Agrees ⟨.call look, .ok found⟩)
    (hlook : ∀ rows b, Unwritten tid rows b →
      Unwritten tid rows (b.told tid ⟨.call look, .ok found⟩))
    (hcommits : Commits op b) (hop : (Op.call (.write row) >>= fun _ => op).run.Gives t v)
    (a : α) :
    (∃ f, v = .error f ∧ Part r d tid [look, .write row, .commit] [row] a
      (⟨.call look, .ok found⟩ :: t) (.error f)) ∨
    v = .ok b ∧ Part r d tid [.begin, look, .write row, .commit] [row] a
      (⟨.call .begin, .ok ()⟩ :: ⟨.call look, .ok found⟩ :: t) (.ok a) := by
  have hfound : Part r d tid [look] [] () [⟨.call look, .ok found⟩] (.ok ()) :=
    .call hnone hstores hagrees
  obtain ⟨_, t', rfl, h⟩ | ⟨f, rfl, rfl⟩ := hop.of_callThen
  · obtain ⟨f, rfl, rfl⟩ | ⟨rfl, rfl⟩ := hcommits t' v h
    · have hwrite : Part r d tid [.write row] [] () [⟨.call (.write row), .ok ()⟩] (.ok ()) :=
        .call rfl not_false trivial
      exact .inl ⟨f, rfl, hfound.append (hwrite.append (.failed rfl rfl not_false))⟩
    · exact .inr ⟨rfl, .committed hnone hagrees hlook⟩
  · exact .inl ⟨f, rfl, hfound.append (.failed rfl rfl not_false)⟩

end Committing

/-- In the transaction that reserves a place. -/
theorem placing_cases (tid : Nat) {v : Outcome Unit} (hop : (do
      let rows : List Instance ← Op.call (.ownersInTransaction r.owner)
      if rows.any Instance.isActive then throw (.user alreadyRunning)
      Op.call (.write (d.pending r))
      Op.call .commit : Op Unit).run.Gives t v) :
    (∃ f, v = .error f ∧ Part r d tid (d.placing r).tail [d.pending r] () t (.error f)) ∨
    v = .ok () ∧ Part r d tid (d.placing r) [d.pending r] () (⟨.call .begin, .ok ()⟩ :: t)
      (.ok ()) := by
  obtain ⟨rows, t', rfl, h⟩ | ⟨f, rfl, rfl⟩ := hop.of_callThen
  · split at h
    · rename_i hactive
      obtain ⟨_, _, _, -, h, -⟩ | ⟨f, rfl, h⟩ := h.of_andThen
      · cases h.of_throw.2
      · obtain ⟨rfl, hf⟩ := h.of_throw
        cases hf
        have hstop : Called.refusal? ⟨.ownersInTransaction r.owner, .ok rows⟩ =
          some (.user alreadyRunning) := if_pos hactive
        exact .inl ⟨_, rfl, .refusedBy hstop rfl not_false trivial⟩
    · rename_i hactive
      refine commits_part (.ownersInTransaction r.owner) (if_neg hactive) not_false trivial
        (fun rows b h => h) ?_ h ()
      intro t v h
      obtain rfl := h.of_call
      cases v with
      | error f => exact .inl ⟨f, rfl, rfl⟩
      | ok u => exact .inr ⟨rfl, rfl⟩
  · exact .inl ⟨f, rfl, .failed rfl rfl not_false⟩

theorem reserve_part (tid : Nat) {v : Outcome Unit}
    (hop : (reserve (d.pending r)).run.Gives t v) :
    Part r d tid (d.placing r) [d.pending r] () t v := by
  obtain ⟨f, rfl, h⟩ | ⟨t, u, rfl, h, rfl⟩ := transaction_cases hop fun t f h => by
    obtain ⟨f', hf, h⟩ | ⟨hf, -⟩ := placing_cases tid h
    · cases hf
      exact h
    · cases hf
  · exact h
  · obtain ⟨f, hf, -⟩ | ⟨-, h⟩ := placing_cases tid h
    · cases hf
    · exact h

/-- A place is reserved for an instance that gets a new identifier. -/
theorem reserveFor_part (tid : Nat) {v : Outcome Instance} (hop : (reserveFor r).run.Gives t v) :
    ∃ id createdAt, ∀ d : Course, d.id = id → d.createdAt = createdAt →
      Part r d tid (d.placing r) [d.pending r] (d.pending r) t v := by
  obtain ⟨id, t₁, rfl, hnow⟩ := hop.of_askThen
  obtain ⟨createdAt, t₂, rfl, hreserve⟩ := hnow.of_askThen
  refine ⟨id, createdAt, ?_⟩
  rintro d rfl rfl
  have hasked : Part r d tid [] [] () [⟨.freshId, d.id⟩, ⟨.now, d.createdAt⟩] (.ok ()) :=
    .passes ⟨rfl, List.forall_mem_nil _⟩ (fun _ => rfl) (by simp [Course.Agrees])
  obtain ⟨t₃, _, t₄, rfl, h₃, h₄⟩ | ⟨f, rfl, h⟩ := hreserve.of_andThen
  · obtain ⟨rfl, rfl⟩ := h₄.of_pure
    rw [List.append_nil]
    exact hasked.append ((reserve_part tid h₃).replace_value _)
  · exact hasked.append (reserve_part tid h).cutShort

/-- In the transaction that replaces the row. -/
theorem promoting_cases (tid : Nat) {v : Outcome Bool} (hop : (do
      let row : Option Instance ← Op.call (.lockInstance ⟨d.id⟩)
      if row.isNone then
        Op.ask .abandon
        return false
      Op.call (.write (d.ready r))
      Op.call .commit
      return true : Op Bool).run.Gives t v) :
    (∃ f, v = .error f ∧
      Part r d tid (d.promoting r).tail [d.ready r] (d.ready r) t (.error f)) ∨
    (v = .ok true ∧ Part r d tid (d.promoting r) [d.ready r] (d.ready r)
      (⟨.call .begin, .ok ()⟩ :: t) (.ok (d.ready r))) ∨
    v = .ok false ∧ t = [⟨.call (.lockInstance ⟨d.id⟩), .ok none⟩, ⟨.abandon, ()⟩] := by
  obtain ⟨row, t', rfl, h⟩ | ⟨f, rfl, rfl⟩ := hop.of_callThen
  · cases row with
    | none =>
      obtain ⟨_, t'', rfl, hgone⟩ := h.of_askThen
      obtain ⟨rfl, rfl⟩ := hgone.of_pure
      exact .inr (.inr ⟨rfl, rfl⟩)
    | some row =>
      have hlook : ∀ rows b, Unwritten tid rows b → Unwritten tid rows
          (b.told tid ⟨.call (.lockInstance ⟨d.id⟩), .ok (some row)⟩) := by
        intro rows b hb
        show Unwritten tid rows (b.take tid (.lockInstance ⟨d.id⟩))
        rw [Registry.take]
        split
        · exact hb.change (fun _ => rfl) fun _ => rfl
        · exact hb
      have hcommits : Commits (do Op.call .commit; return true) true := by
        intro t v h
        obtain ⟨u, t', rfl, htrue⟩ | ⟨f, rfl, rfl⟩ := h.of_callThen
        · obtain ⟨rfl, rfl⟩ := htrue.of_pure
          exact .inr ⟨rfl, rfl⟩
        · exact .inl ⟨f, rfl, rfl⟩
      obtain h | h := commits_part (.lockInstance ⟨d.id⟩) rfl not_false trivial hlook
        hcommits h (d.ready r)
      · exact .inl h
      · exact .inr (.inl h)
  · exact .inl ⟨f, rfl, .failed rfl rfl not_false⟩

/-- The row is replaced, or has gone, or a call fails. -/
theorem promote_cases (tid : Nat) {v : Outcome Bool}
    (hop : (promote (d.ready r)).run.Gives t v) :
    (∃ f, v = .error f ∧ Part r d tid (d.promoting r) [d.ready r] (d.ready r) t (.error f)) ∨
    (v = .ok true ∧ Part r d tid (d.promoting r) [d.ready r] (d.ready r) t (.ok (d.ready r))) ∨
    v = .ok false ∧ t =
      [⟨.call .begin, .ok ()⟩, ⟨.call (.lockInstance ⟨d.id⟩), .ok none⟩, ⟨.abandon, ()⟩] := by
  obtain h | ⟨t, u, rfl, h, rfl⟩ := transaction_cases hop fun t f h => by
    obtain ⟨f', hf, h⟩ | ⟨hf, -⟩ | ⟨hf, -⟩ := promoting_cases tid h
    · cases hf
      exact h
    · cases hf
    · cases hf
  · exact .inl h
  · obtain ⟨f, hf, -⟩ | ⟨hu, h⟩ | ⟨hu, rfl⟩ := promoting_cases tid h
    · cases hf
    · exact .inr (.inl ⟨hu, h⟩)
    · exact .inr (.inr ⟨hu, rfl⟩)

/-- An event that is logged at last, whatever comes of it. -/
theorem Part.logged (h : Part r d tid plan written a t (.ok a)) (e : Event) (now : Timestamp)
    (o : Outcome Unit) :
    Part r d tid (plan ++ [.log e]) written a (t ++ [⟨.now, now⟩, ⟨.call (.log e), o⟩])
      (.ok a) := by
  cases h with
  | passes h hrows hagrees =>
    refine .passes ?_ (fun b => ?_) fun e he => ?_
    · rw [Trace.calls_append]
      exact h.append ⟨rfl, List.forall_mem_singleton.mpr rfl⟩
    · rw [Registry.upon_append, Registry.rows_upon _ _ (by simp [Trace.calls, Called.Stores]),
        hrows]
    · obtain he | he := List.mem_append.mp he
      · exact hagrees e he
      · simp only [List.mem_cons, List.not_mem_nil, or_false] at he
        obtain rfl | rfl := he <;> trivial

/-- What follows the deployment. -/
theorem settle_part (tid : Nat) {ready : Instance} {v : Outcome Instance} (hop : (do
      if ← promote ready then
        Op.record r.owner.text (createdMessage ready)
        return ready
      else
        Op.bestEffort (Op.call (.destroy ready.id ready.region))
        throw (.user reclaimedDuringDeploy) : Op Instance).run.Gives t v) :
    ∃ loggedAt, ∀ d : Course, d.ready r = ready → d.loggedAt = loggedAt →
      Part r d tid (d.promoting r ++ [.log (d.event r)]) [ready] ready t v := by
  obtain ⟨t₁, promoted, t₂, rfl, h₁, h₂⟩ | ⟨f, rfl, h⟩ := hop.of_andThen
  · cases promoted with
    | true =>
      obtain ⟨t₃, _, t₄, rfl, h₃, h₄⟩ | ⟨f, -, h⟩ := h₂.of_andThen
      · obtain ⟨now, o, rfl, -⟩ := h₃.of_record
        obtain ⟨rfl, rfl⟩ := h₄.of_pure
        refine ⟨now, ?_⟩
        rintro d rfl rfl
        obtain ⟨_, hv, -⟩ | ⟨-, h⟩ | ⟨hv, -⟩ := promote_cases tid h₁
        · cases hv
        · exact h.logged _ _ o
        · cases hv
      · obtain ⟨_, _, -, h⟩ := h.of_record
        cases h
    | false =>
      obtain ⟨t₃, _, t₄, rfl, h₃, h₄⟩ | ⟨f, -, h⟩ := h₂.of_andThen
      · obtain ⟨-, o, h₃⟩ := h₃.of_bestEffort
        obtain rfl := h₃.of_call
        obtain ⟨rfl, rfl⟩ := h₄.of_throw
        refine ⟨default, ?_⟩
        rintro d rfl -
        obtain ⟨_, hv, -⟩ | ⟨hv, -⟩ | ⟨-, rfl⟩ := promote_cases tid h₁
        · cases hv
        · cases hv
        · refine .refuses ?_ (fun b => ?_) fun e he => ?_
          · exact ⟨[⟨.begin, .ok ()⟩], ⟨.lockInstance ⟨d.id⟩, .ok none⟩, _,
              [⟨.destroy ⟨d.id⟩ r.region, o⟩], rfl, List.forall_mem_singleton.mpr rfl, rfl, rfl,
              rfl⟩
          · exact b.rows_upon tid (by simp [Trace.calls, Called.Stores])
          · simp only [List.cons_append, List.nil_append, List.mem_cons, List.not_mem_nil,
              or_false] at he
            obtain rfl | rfl | rfl | rfl := he <;> trivial
      · cases h.of_bestEffort.1
  · refine ⟨default, ?_⟩
    rintro d rfl -
    obtain ⟨_, hv, h⟩ | ⟨hv, -⟩ | ⟨hv, -⟩ := promote_cases tid h
    · cases hv
      exact h.cutShort
    · cases hv
    · cases hv

/-! ### The whole admission -/

/-- How an admission ends, with what it called and what it changed. -/
inductive Ending (r : AdmissionRequest) (billing : Bool) (d : Course) (tid : Nat) (b : Registry)
    (t : Trace) : Outcome Instance → Prop where
  /-- A call up to the reservation refuses. Nothing is changed or deployed. -/
  | unreserved {f : Failure} (h : Refused r d (d.reserving r billing) f t.calls)
    (hdeploy : ∀ e ∈ t.calls, ∀ order, e.call ≠ .deploy order)
    (hrows : (b.upon tid t).rows = b.rows) : Ending r billing d tid b t (.error f)
  /-- A later call refuses. The reserved row is left. -/
  | reserved {before after : List Called} {f : Failure} (ht : t.calls = before ++ after)
    (hbefore : Passed (d.reserving r billing) before) (hafter : Refused r d (d.deploying r) f after)
    (hrows : (b.upon tid t).rows = Rows.overlaid Instance.id b.rows [d.pending r]) :
    Ending r billing d tid b t (.error f)
  /-- No call refuses. -/
  | admitted (h : Passed (d.reserving r billing ++ d.deploying r) t.calls)
    (hrows : (b.upon tid t).rows = Rows.overlaid Instance.id b.rows [d.pending r, d.ready r]) :
    Ending r billing d tid b t (.ok (d.ready r))

namespace Ending

variable {billing : Bool} {v : Outcome Instance} {f : Failure} {registry : Registry}

/-- Refused up to the reservation. -/
theorem of_reserving (h : Part r d tid (d.reserving r billing) written a t (.error f)) :
    ∃ d : Course, (∀ e ∈ t, d.Agrees e) ∧ ∀ registry, Ending r billing d tid registry t
      (.error f) := by
  refine ⟨d, h.agrees, fun registry => ?_⟩
  cases h with
  | refuses h hrows =>
    refine .unreserved h (fun e he order hcall => ?_) (hrows registry)
    obtain hplan | ⟨stop, hafter⟩ := h.call_cases he
    · exact d.deploy_not_mem_reserving r billing order (hcall ▸ hplan)
    · exact deploy_not_mem_aftermath r d stop order (hcall ▸ hafter)

/-- Refused after the reservation, or not at all. -/
theorem of_deploying {t' : Trace}
    (h : Part r d tid (d.reserving r billing) [d.pending r] a t (.ok a))
    (h' : Part r d tid (d.deploying r) [d.ready r] (d.ready r) t' v) :
    ∃ d : Course, (∀ e ∈ t ++ t', d.Agrees e) ∧ ∀ registry, Ending r billing d tid registry
      (t ++ t') v := by
  refine ⟨d, fun e he => (List.mem_append.mp he).elim (h.agrees e) (h'.agrees e),
    fun registry => ?_⟩
  cases h with
  | passes h hrows =>
    cases h' with
    | refuses h' hrows' =>
      refine .reserved (Trace.calls_append t t') h h' ?_
      rw [Registry.upon_append, hrows', hrows]
    | passes h' hrows' =>
      refine .admitted (Trace.calls_append t t' ▸ h.append h') ?_
      rw [Registry.upon_append, hrows', hrows]
      rfl

/-- An owner is admitted when no call refuses, and only then. -/
theorem exists_ok_iff (h : Ending r billing d tid registry t v) :
    (∃ i, v = .ok i) ↔ ∀ e ∈ t.calls, e.refusal? = none := by
  have hrefused : ∀ {cs : List Called} {plan : List Call} {f : Failure},
      Refused r d plan f cs → ¬∀ e ∈ cs, e.refusal? = none := by
    intro cs plan f h hall
    obtain ⟨e, he, hstop⟩ := h.exists_refusal
    rw [hall e he] at hstop
    cases hstop
  cases h with
  | unreserved h => exact iff_of_false nofun (hrefused h)
  | reserved ht _ h =>
    refine iff_of_false nofun fun hall => hrefused h fun e he => hall e ?_
    exact ht ▸ List.mem_append_right _ he
  | admitted h => exact iff_of_true ⟨_, rfl⟩ h.refusal

end Ending

/-- Every admission ends in one of these ways. -/
theorem exists_ending (tid : Nat) {billing : Bool} {v : Outcome Instance}
    (hop : (grant billing r).run.Gives t v) :
    ∃ d : Course, (∀ e ∈ t, d.Agrees e) ∧ ∀ registry, Ending r billing d tid registry t v := by
  obtain ⟨t₁, identity, t₂, rfl, h₁, h₂⟩ | ⟨f, rfl, h⟩ := hop.of_andThen
  · obtain ⟨name, refusedAt, hgates⟩ := gates_part tid h₁
    obtain rfl := (hgates { (default : Course) with identity := name, refusedAt } rfl rfl).eq_of_ok
    obtain ⟨t₃, pending, t₄, rfl, h₃, h₄⟩ | ⟨f, rfl, h⟩ := h₂.of_andThen
    · obtain ⟨id, createdAt, hreserve⟩ := reserveFor_part tid h₃
      have hreserving : ∀ d : Course, d.identity = identity → d.refusedAt = refusedAt →
          d.id = id → d.createdAt = createdAt →
          Part r d tid (d.reserving r billing) [d.pending r] pending (t₁ ++ t₃) (.ok pending) := by
        intro d hidentity hrefused hid hcreated
        have hpart := (hgates d hidentity hrefused).append (hreserve d hid hcreated)
        exact hpart.eq_of_ok ▸ hpart
      rw [← List.append_assoc]
      obtain rfl := (hreserve { (default : Course) with id, createdAt } rfl rfl).eq_of_ok
      obtain ⟨t₅, ready, t₆, rfl, h₅, h₆⟩ | ⟨f, rfl, h⟩ := h₄.of_andThen
      · obtain ⟨overrides, deployment, hdeploy⟩ := deployPending_part tid h₅
        obtain ⟨loggedAt, hsettle⟩ := settle_part tid h₆
        let d : Course := ⟨identity, refusedAt, id, createdAt, overrides, deployment, loggedAt⟩
        have hready : ready = d.ready r := (hdeploy d rfl rfl rfl rfl rfl).eq_of_ok
        subst hready
        exact Ending.of_deploying (hreserving d rfl rfl rfl rfl)
          ((hdeploy d rfl rfl rfl rfl rfl).append (hsettle d rfl rfl))
      · obtain ⟨overrides, deployment, hdeploy⟩ := deployPending_part tid h
        let d : Course := ⟨identity, refusedAt, id, createdAt, overrides, deployment, default⟩
        exact Ending.of_deploying (hreserving d rfl rfl rfl rfl)
          (hdeploy d rfl rfl rfl rfl rfl).cutShort
    · obtain ⟨id, createdAt, hreserve⟩ := reserveFor_part tid h
      let d : Course := { (default : Course) with identity, refusedAt, id, createdAt }
      exact Ending.of_reserving ((hgates d rfl rfl).append (hreserve d rfl rfl))
  · obtain ⟨identity, refusedAt, h⟩ := gates_part tid h
    let d : Course := { (default : Course) with identity, refusedAt }
    have hpart : Part r d tid (d.reserving r billing) [] () t (.error f) := (h d rfl rfl).cutShort
    exact Ending.of_reserving hpart

/-- Whatever the answers are, an admission makes its calls in their order up to the first that
fails, or is answered so that the owner is not admitted. This call decides the failure. Up to the
reservation nothing is changed, and then nothing but the reserved row is there. -/
theorem grant_course {σ : Type} (billing : Bool) (r : AdmissionRequest)
    (answer : σ → (q : Request) → q.Answer × σ) (s : σ) (b : Registry) (tid : Nat) :
    let t : Trace := Program.trace answer s (grant billing r).run
    let v := ((grant billing r).run.answered answer s).1
    (∃ d : Course, (∀ e ∈ t, d.Agrees e) ∧ Ending r billing d tid b t v) ∧
      ((∃ i, v = .ok i) ↔ ∀ e ∈ t.calls, e.refusal? = none) := by
  have hgives := Program.gives_trace answer s (grant billing r).run
  obtain ⟨d, hagrees, hends⟩ := exists_ending tid hgives
  exact ⟨⟨d, hagrees, hends b⟩, (hends b).exists_ok_iff⟩

end Admission

end GameFleet
