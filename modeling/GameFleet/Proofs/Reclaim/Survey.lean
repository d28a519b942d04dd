import GameFleet.Proofs.Reclaim.Eviction

/-!
# What the surveys find

A survey judges the instances that are listed, and gives the steps for those that are to be warned
and those that are to be evicted. A survey of the stuck instances evicts them itself.

- `judged`: the instances that get a verdict; `sentenced`: the steps for them.
- `Credit.judge_gives`: the instances of one owner are judged on one balance.
- `Credit.survey_gives`, `Lifetime.survey_gives`, `Stuck.survey_gives`: what the surveys come to.
-/

namespace GameFleet

/-- The instances that get a verdict. There may be some on which none can be passed. -/
def judged (judge : Instance → Outcome Verdict) (verdict : Verdict) (listed : List Instance) :
    List Instance :=
  listed.filter fun i => (judge i).toOption = some verdict

/-- The text of a failure about an instance, if there is one. -/
def noted {α : Type} (i : Instance) (label : String) : Outcome α → Option String
  | .ok _ => none
  | .error f => some (stepFailure i.id label f)

/-- The steps for the instances that are to be warned, and for those that are to be evicted. -/
def sentenced (judge : Instance → Outcome Verdict) (warn evict : Instance → Op Unit)
    (listed : List Instance) : List Branch :=
  (judged judge .warn listed).map (fun i => .of i "warn" (warn i)) ++
    (judged judge .evict listed).map fun i => .of i "terminate" (evict i)

theorem judged_congr {judge judge' : Instance → Outcome Verdict} {listed : List Instance}
    (h : ∀ i ∈ listed, judge i = judge' i) (verdict : Verdict) :
    judged judge verdict listed = judged judge' verdict listed :=
  List.filter_congr fun i hi => by rw [h i hi]

variable {s : FleetSettings} {t : Trace} {listed : List Instance}

/-! ### Balances -/

namespace Credit

/-- The verdicts on instances whose owners have certain balances. -/
def verdict (s : FleetSettings) (balance : Instance → Outcome Int) (i : Instance) :
    Outcome Verdict :=
  (balance i).map (Verdict.credit · s.lowBalance)

/-- What the survey finds when owners have certain balances. -/
def found (s : FleetSettings) (balance : Instance → Outcome Int) (listed : List Instance) :
    Found where
  failures := listed.filterMap fun i => noted i "read balance" (balance i)
  warned := (judged (verdict s balance) .warn listed).map fun i => (i, (balance i).toOption.getD 0)
  evicted := judged (verdict s balance) .evict listed

theorem found_congr {balance balance' : Instance → Outcome Int}
    (h : ∀ i ∈ listed, balance i = balance' i) :
    found s balance listed = found s balance' listed := by
  have hverdict : ∀ i ∈ listed, verdict s balance i = verdict s balance' i := fun i hi => by
    rw [verdict, verdict, h i hi]
  have hwarned : ∀ i ∈ judged (verdict s balance') .warn listed,
      (i, (balance i).toOption.getD 0) = (i, (balance' i).toOption.getD 0) := fun i hi => by
    rw [h i (List.mem_filter.mp hi).1]
  rw [found, found, judged_congr hverdict, judged_congr hverdict, List.map_congr_left hwarned,
    List.filterMap_congr fun i hi => congrArg (noted i "read balance") (h i hi)]

/-- What is found with another instance, by the balance on which it is judged. -/
def Found.with (found : Found) (s : FleetSettings) (i : Instance) : Outcome Int → Found
  | .error f => { found with failures := stepFailure i.id "read balance" f :: found.failures }
  | .ok balance =>
    match Verdict.credit balance s.lowBalance with
    | .evict => { found with evicted := i :: found.evicted }
    | .warn => { found with warned := (i, balance) :: found.warned }
    | .keep => found

theorem found_cons (s : FleetSettings) (balance : Instance → Outcome Int) (i : Instance)
    (rest : List Instance) :
    found s balance (i :: rest) = (found s balance rest).with s i (balance i) := by
  cases hb : balance i with
  | error f => simp [found, Found.with, judged, verdict, noted, hb, Except.map, Except.toOption]
  | ok b =>
    cases hv : Verdict.credit b s.lowBalance <;>
      simp [found, Found.with, judged, verdict, noted, hb, hv, Except.map, Except.toOption]

/-- A balance was asked for, unless it was known, and it is known then. -/
structure Learnt (before : Balances) (owner : OwnerId) (o : Outcome Int) (after : Balances)
    (t : Trace) : Prop where
  idle : t.Idle
  known : ∀ b, before.lookup owner = some b → o = .ok b
  asked : before.lookup owner = none → ⟨.call (.balance owner), o⟩ ∈ t
  old : ∀ other b, before.lookup other = some b → after.lookup other = some b
  new : ∀ b, o = .ok b → after.lookup owner = some b
  only : ∀ other b, after.lookup other = some b → before.lookup other = some b ∨
    (other = owner ∧ o = .ok b)

variable {known : Balances} {owner : OwnerId}

/-- A balance that is known is not asked for. -/
theorem Learnt.of_known {b : Int} (hb : known.lookup owner = some b) :
    Learnt known owner (.ok b) known [] where
  idle := List.forall_mem_nil _
  known c hc := by rw [Option.some.inj (hb.symm.trans hc)]
  asked hnone := by
    rw [hb] at hnone
    cases hnone
  old _ _ := id
  new c hc := by rw [hb, Except.ok.inj hc]
  only _ _ := .inl

/-- A balance that was asked for is known, unless the call failed. -/
theorem Learnt.of_asked (hnone : known.lookup owner = none) (o : Outcome Int) :
    Learnt known owner o (o.toOption.elim known fun b => (owner, b) :: known)
      [⟨.call (.balance owner), o⟩] where
  idle := List.forall_mem_singleton.mpr ⟨rfl, rfl⟩
  known b hb := by
    rw [hnone] at hb
    cases hb
  asked _ := List.mem_singleton_self _
  old other c hc := by
    cases o with
    | error f => exact hc
    | ok b =>
      have hne : other ≠ owner := by
        rintro rfl
        rw [hnone] at hc
        cases hc
      show List.lookup other ((owner, b) :: known) = some c
      rw [List.lookup_cons, beq_false_of_ne hne]
      exact hc
  new b hb := by
    cases hb
    exact List.lookup_cons_self
  only other c hc := by
    cases o with
    | error f => exact .inl hc
    | ok b =>
      by_cases howner : other = owner
      · subst howner
        exact .inr ⟨rfl, congrArg Except.ok (Option.some.inj (List.lookup_cons_self.symm.trans hc))⟩
      · change List.lookup other ((owner, b) :: known) = some c at hc
        rw [List.lookup_cons, beq_false_of_ne howner] at hc
        exact .inl hc

theorem balanceOf_gives {v : Outcome (Outcome Int × Balances)}
    (h : (balanceOf known owner).run.Gives t v) :
    ∃ o after, v = .ok (o, after) ∧ Learnt known owner o after t := by
  unfold balanceOf at h
  split at h
  · rename_i b hb
    obtain ⟨rfl, rfl⟩ := h.of_pure
    exact ⟨.ok b, known, rfl, .of_known hb⟩
  · rename_i hnone
    obtain ⟨t₁, o, t₂, rfl, hask, hdone⟩ | ⟨f, -, hask⟩ := h.of_andThen
    · obtain ⟨o, ho, hask⟩ := hask.of_attempt
      cases ho
      obtain rfl := hask.of_call
      cases o with
      | ok b =>
        obtain ⟨rfl, rfl⟩ := hdone.of_pure
        exact ⟨_, _, rfl, .of_asked hnone (.ok b)⟩
      | error f =>
        obtain ⟨rfl, rfl⟩ := hdone.of_pure
        exact ⟨_, _, rfl, .of_asked hnone (.error f)⟩
    · obtain ⟨_, ho, -⟩ := hask.of_attempt
      cases ho

/-- The balances on which instances are judged were known, or were asked for. An owner has one. -/
structure Read (before : Balances) (listed : List Instance) (balance : Instance → Outcome Int)
    (t : Trace) : Prop where
  idle : t.Idle
  known : ∀ i ∈ listed, ∀ b, before.lookup i.owner = some b → balance i = .ok b
  asked : ∀ i ∈ listed, before.lookup i.owner = none → ⟨.call (.balance i.owner), balance i⟩ ∈ t
  same : ∀ i ∈ listed, ∀ j ∈ listed, i.owner = j.owner → ∀ b c, balance i = .ok b →
    balance j = .ok c → b = c

/-- Another instance is judged first. -/
theorem Read.cons {before after : Balances} {i : Instance} {rest : List Instance} {o : Outcome Int}
    {balance : Instance → Outcome Int} {t' : Trace} (hi : Learnt before i.owner o after t)
    (h : Read after rest balance t') (hmem : i ∉ rest) :
    Read before (i :: rest) (fun j => if j = i then o else balance j) (t ++ t') := by
  have hself : (if i = i then o else balance i) = o := if_pos rfl
  have hrest : ∀ j ∈ rest, (if j = i then o else balance j) = balance j := fun j hj =>
    if_neg (ne_of_mem_of_not_mem hj hmem)
  have hsame : ∀ j ∈ rest, i.owner = j.owner → ∀ b c, o = .ok b → balance j = .ok c → b = c := by
    intro j hj howner b c hb hc
    rw [h.known j hj b (howner ▸ hi.new b hb)] at hc
    exact Except.ok.inj hc
  refine ⟨fun e he => (List.mem_append.mp he).elim (hi.idle e) (h.idle e), ?_, ?_, ?_⟩
  · refine List.forall_mem_cons.mpr ⟨fun b hb => ?_, fun j hj b hb => ?_⟩
    · rw [hself, hi.known b hb]
    · rw [hrest j hj, h.known j hj b (hi.old _ b hb)]
  · refine List.forall_mem_cons.mpr ⟨fun hnone => ?_, fun j hj hnone => ?_⟩
    · rw [hself]
      exact List.mem_append_left _ (hi.asked hnone)
    · rw [hrest j hj]
      cases hafter : after.lookup j.owner with
      | none => exact List.mem_append_right _ (h.asked j hj hafter)
      | some b =>
        -- The balance was asked for on behalf of the other instance.
        obtain hb | ⟨howner, rfl⟩ := hi.only _ b hafter
        · rw [hnone] at hb
          cases hb
        · rw [h.known j hj b hafter, howner]
          exact List.mem_append_left _ (hi.asked (howner ▸ hnone))
  · refine List.forall_mem_cons.mpr ⟨List.forall_mem_cons.mpr ⟨?_, ?_⟩, fun j hj => ?_⟩
    · intro _ b c hb hc
      exact Except.ok.inj (hb.symm.trans hc)
    · intro j hj howner b c hb hc
      rw [hself] at hb
      rw [hrest j hj] at hc
      exact hsame j hj howner b c hb hc
    · refine List.forall_mem_cons.mpr ⟨fun howner b c hb hc => ?_, fun k hk howner b c hb hc => ?_⟩
      · rw [hrest j hj] at hb
        rw [hself] at hc
        exact (hsame j hj howner.symm c b hc hb).symm
      · rw [hrest j hj] at hb
        rw [hrest k hk] at hc
        exact h.same j hj k hk howner b c hb hc

theorem judge_gives (hnodup : listed.Nodup) {v : Outcome Found}
    (h : (judge s known listed).run.Gives t v) :
    ∃ balance, Read known listed balance t ∧ v = .ok (found s balance listed) := by
  induction listed generalizing known t v with
  | nil =>
    obtain ⟨rfl, rfl⟩ := h.of_pure
    exact ⟨fun _ => .ok 0, ⟨List.forall_mem_nil _, List.forall_mem_nil _, List.forall_mem_nil _,
      List.forall_mem_nil _⟩, rfl⟩
  | cons i rest ih =>
    obtain ⟨hmem, hnodup⟩ := List.nodup_cons.mp hnodup
    obtain ⟨t₁, _, t₂, rfl, hbalance, hrest⟩ | ⟨f, rfl, hbalance⟩ := h.of_andThen
    · obtain ⟨o, after, ho, hlearnt⟩ := balanceOf_gives hbalance
      cases ho
      obtain ⟨t₃, _, t₄, rfl, hjudge, hdone⟩ | ⟨f, rfl, hjudge⟩ := hrest.of_andThen
      · obtain ⟨balance, hread, hfound⟩ := ih hnodup hjudge
        cases hfound
        have hbalance : ∀ j ∈ rest, (if j = i then o else balance j) = balance j := fun j hj =>
          if_neg (ne_of_mem_of_not_mem hj hmem)
        have hv : t₄ = [] ∧ v = .ok ((found s balance rest).with s i o) := by
          cases o with
          | error f => exact hdone.of_pure
          | ok b =>
            dsimp only at hdone
            simp only [Found.with]
            cases hverdict : Verdict.credit b s.lowBalance <;> rw [hverdict] at hdone <;>
              exact hdone.of_pure
        obtain ⟨rfl, rfl⟩ := hv
        refine ⟨fun j => if j = i then o else balance j, ?_, ?_⟩
        · rw [List.append_nil]
          exact .cons hlearnt hread hmem
        · rw [found_cons, found_congr hbalance, if_pos rfl]
      · obtain ⟨_, -, hf⟩ := ih hnodup hjudge
        cases hf
    · obtain ⟨_, _, hf, -⟩ := balanceOf_gives hbalance
      cases hf

end Credit

/-! ### The surveys -/

/-- What is listed are certain rows. -/
def ListsOnly (listed : List Instance) : Program.Reply Request Request.Answer → Prop
  | ⟨.call (.listInstances _), o⟩ => o = .ok listed
  | _ => True

/-- The batch of a policy that warns and evicts. -/
def trial (p : Policy) (judge : Instance → Outcome Verdict) (warn evict : Instance → Op Unit)
    (listed : List Instance) : Batch where
  policy := p
  failures := listed.filterMap fun i => noted i "read balance" (judge i)
  branches := sentenced judge warn evict listed

theorem noted_map {α β : Type} (i : Instance) (label : String) (f : α → β) (o : Outcome α) :
    noted i label (o.map f) = noted i label o := by
  cases o <;> rfl

theorem Credit.survey_gives (hnodup : listed.Nodup) {v : Outcome Batch}
    (h : (survey s).run.Gives t v) (hlisted : ∀ e ∈ t, ListsOnly listed e) :
    ∃ balance, Read [] listed balance t ∧ v = .ok (trial .credit (verdict s balance)
      (fun i => warn s i ((balance i).toOption.getD 0)) (evict s) listed) := by
  obtain ⟨rows, t₁, rfl, hrows⟩ | ⟨f, rfl, -⟩ := h.of_callThen
  · cases hlisted _ List.mem_cons_self
    obtain ⟨t₂, _, t₃, rfl, hjudge, hdone⟩ | ⟨f, rfl, hjudge⟩ := hrows.of_andThen
    · obtain ⟨balance, hread, hfound⟩ := judge_gives hnodup hjudge
      cases hfound
      obtain ⟨rfl, rfl⟩ := hdone.of_pure
      rw [List.append_nil]
      refine ⟨balance, ⟨List.forall_mem_cons.mpr ⟨⟨rfl, rfl⟩, hread.idle⟩, hread.known,
        fun i hi hnone => List.mem_cons_of_mem _ (hread.asked i hi hnone), hread.same⟩, ?_⟩
      simp only [trial, sentenced, found, verdict, noted_map, List.map_map]
      rfl
    · obtain ⟨_, -, hf⟩ := judge_gives hnodup hjudge
      cases hf
  · cases hlisted _ List.mem_cons_self

theorem Lifetime.survey_gives {v : Outcome Batch} (h : (survey s).run.Gives t v)
    (hlisted : ∀ e ∈ t, ListsOnly listed e) :
    ∃ now : Timestamp, t.head? = some ⟨.now, now⟩ ∧ t.Idle ∧
      v = .ok (trial .lifetime (fun i => .ok (verdict s now i)) (warn s) (evict s) listed) := by
  obtain ⟨now, t₁, rfl, hnow⟩ := h.of_askThen
  obtain ⟨rows, t₂, rfl, hrows⟩ | ⟨f, rfl, -⟩ := hnow.of_callThen
  · cases hlisted _ (List.mem_cons_of_mem _ List.mem_cons_self)
    obtain ⟨rfl, rfl⟩ := hrows.of_pure
    refine ⟨now, rfl, ?_, ?_⟩
    · exact List.forall_mem_cons.mpr ⟨⟨rfl, rfl⟩, List.forall_mem_singleton.mpr ⟨rfl, rfl⟩⟩
    · simp [trial, sentenced, judged, noted, Except.toOption]
  · cases hlisted _ (List.mem_cons_of_mem _ List.mem_cons_self)

namespace Stuck

/-- The verdicts at a certain time. -/
def verdict (maxAge : Span) (now : Timestamp) (i : Instance) : Outcome Verdict :=
  .ok (Verdict.stuck i.status (i.age now) maxAge)

theorem reclaimAll_gives {maxAge : Span} {now : Timestamp} {v : Outcome (List String)}
    (hnodup : (listed.map Instance.id).Nodup)
    (h : (reclaimAll maxAge now listed).run.Gives t v) (hfound : ∀ e ∈ t, FoundAsAsked e) :
    ∃ removed, Evictions (judged (verdict maxAge now) .evict listed)
        (fun i => [(i.owner, notice i.id (maxAge.seconds / 60))]) removed t ∧
      v = .ok ((judged (verdict maxAge now) .evict listed).filterMap fun i =>
        noted i "terminate" (removed i)) := by
  induction listed generalizing t v with
  | nil =>
    obtain ⟨rfl, rfl⟩ := h.of_pure
    exact ⟨fun _ => .ok false, .nil, rfl⟩
  | cons i rest ih =>
    obtain ⟨hmem, hnodup⟩ := List.nodup_cons.mp hnodup
    have hid : ∀ j ∈ judged (verdict maxAge now) .evict rest, j.id ≠ i.id := fun j hj heq =>
      hmem (heq ▸ List.mem_map_of_mem (List.mem_filter.mp hj).1)
    unfold reclaimAll at h
    split at h
    · rename_i hevict
      have hjudged : judged (verdict maxAge now) .evict (i :: rest) =
          i :: judged (verdict maxAge now) .evict rest :=
        List.filter_cons_of_pos (by simp [verdict, hevict, Except.toOption])
      obtain ⟨t₁, failure, t₂, rfl, hreclaim, hrest⟩ | ⟨f, -, hreclaim⟩ := h.of_andThen
      · obtain ⟨hfound₁, hfound₂⟩ := List.forall_mem_append.mp hfound
        obtain ⟨removed, hevicts, hfailure⟩ := reclaim_gives hreclaim hfound₁
        cases hfailure
        obtain ⟨t₃, texts, t₄, rfl, hall, hdone⟩ | ⟨f, -, hall⟩ := hrest.of_andThen
        · obtain ⟨rfl, rfl⟩ := hdone.of_pure
          rw [List.append_nil] at hfound₂ ⊢
          obtain ⟨removals, hevictions, htexts⟩ := ih hnodup hall hfound₂
          cases htexts
          rw [hjudged]
          refine ⟨_, hevictions.cons hevicts hid, ?_⟩
          have hsame : ∀ j ∈ judged (verdict maxAge now) .evict rest,
              noted j "terminate" (if j = i then removed else removals j) =
                noted j "terminate" (removals j) := fun j hj => by
            rw [if_neg fun heq => hid j hj (congrArg Instance.id heq)]
          rw [List.filterMap_cons, List.filterMap_congr hsame, if_pos rfl]
          cases removed <;> rfl
        · obtain ⟨_, -, hf⟩ := ih hnodup hall hfound₂
          cases hf
      · obtain ⟨_, -, hf⟩ := reclaim_gives hreclaim hfound
        cases hf
    · rename_i hkeep
      have hjudged : judged (verdict maxAge now) .evict (i :: rest) =
          judged (verdict maxAge now) .evict rest :=
        List.filter_cons_of_neg (by simp [verdict, hkeep, Except.toOption])
      rw [hjudged]
      exact ih hnodup h hfound

theorem survey_gives (hnodup : (listed.map Instance.id).Nodup) {v : Outcome Batch}
    (h : (survey s).run.Gives t v) (hlisted : ∀ e ∈ t, ListsOnly listed e)
    (hfound : ∀ e ∈ t, FoundAsAsked e) :
    ∃ now : Timestamp, t.head? = some ⟨.now, now⟩ ∧
      ∃ removed, Evictions (judged (verdict s.pendingMaxAge now) .evict listed)
          (fun i => [(i.owner, notice i.id (s.pendingMaxAge.seconds / 60))]) removed t ∧
        v = .ok ⟨.stuck, (judged (verdict s.pendingMaxAge now) .evict listed).filterMap fun i =>
          noted i "terminate" (removed i), []⟩ := by
  obtain ⟨now, t₁, rfl, hnow⟩ := h.of_askThen
  obtain ⟨rows, t₂, rfl, hrows⟩ | ⟨f, rfl, -⟩ := hnow.of_callThen
  · cases hlisted _ (List.mem_cons_of_mem _ List.mem_cons_self)
    have hfound₂ : ∀ e ∈ t₂, FoundAsAsked e := fun e he =>
      hfound e (List.mem_cons_of_mem _ (List.mem_cons_of_mem _ he))
    have hidle : Trace.Idle [⟨.now, now⟩, ⟨.call (.listInstances (some .pending)), .ok listed⟩] :=
      List.forall_mem_cons.mpr ⟨⟨rfl, rfl⟩, List.forall_mem_singleton.mpr ⟨rfl, rfl⟩⟩
    obtain ⟨t₃, texts, t₄, rfl, hall, hdone⟩ | ⟨f, rfl, hall⟩ := hrows.of_andThen
    · obtain ⟨rfl, rfl⟩ := hdone.of_pure
      rw [List.append_nil] at hfound₂ ⊢
      obtain ⟨removed, hevictions, htexts⟩ := reclaimAll_gives hnodup hall hfound₂
      cases htexts
      exact ⟨now, rfl, removed, hevictions.after_idle hidle, rfl⟩
    · obtain ⟨_, -, hf⟩ := reclaimAll_gives hnodup hall hfound₂
      cases hf
  · cases hlisted _ (List.mem_cons_of_mem _ List.mem_cons_self)

end Stuck

end GameFleet
