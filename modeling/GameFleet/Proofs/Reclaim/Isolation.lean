import GameFleet.Proofs.Reclaim.Survey

/-!
# The failures of a cycle stay with their instances (specification §4.4)

The calls of a cycle may fail for some instances and not for others, and its steps go on in any
order. What becomes of an instance only depends on the verdict on it and on the calls about it, and
the cycle fails with all that failed.

- `Stepped`: what the steps ask for and end with, each for its own instance;
  `evictions_of_steps`: what that is when they go on one among the other.
- `Evictions.removed_eq`, `Evictions.cell_eq`: what comes of the evictions in the tables.
- `Policy.Judges`: the verdicts of a cycle; `Isolated`: what the cycle does.
- `cycle_isolated`: the theorem.
-/

namespace GameFleet

variable {F : Hazards} {listed evicted : List Instance} {x x' y : Tables} {e : Asked}
  {tr : List Asked} {w : Work} {o : Outcome Yield}

/-! ### What the answers are -/

namespace Hazards.Answers

theorem foundAsAsked (h : F.Answers listed x e x') : FoundAsAsked e.reply := by
  obtain ⟨step, r, a⟩ := e
  cases r with
  | call c =>
    cases c with
    | findInstance id =>
      obtain ⟨ha, -⟩ := h
      cases a with
      | error f => trivial
      | ok row =>
        cases row with
        | none => trivial
        | some i => exact (Rows.mem_of_find? (granted_eq_ok_iff.mp ha).2.symm).2
    | _ => trivial
  | _ => trivial

theorem listsOnly (h : F.Answers listed x e x') : ListsOnly listed e.reply := by
  obtain ⟨step, r, a⟩ := e
  cases r with
  | call c =>
    cases c with
    | listInstances status => exact h.1
    | _ => trivial
  | _ => trivial

theorem eq_console {query : ConsoleQuery} {id : InstanceId} {a : Outcome String}
    (h : F.Answers listed x e x') (hstep : e.step = some id)
    (hreply : e.reply = ⟨.call (.console query), a⟩) : a = F.console id := by
  obtain ⟨step, r, a'⟩ := e
  cases hreply
  exact h.1 id hstep

end Hazards.Answers

/-- What a message to the players of an instance comes to. -/
def Hazards.said (F : Hazards) (i : Instance) : Outcome Unit :=
  if i.console?.isNone then .error (Op.noConsole i) else (F.console i.id).map fun _ => ()

/-! ### The steps -/

/-- How a cycle ends with certain failures. -/
def Policy.conclusion (p : Policy) (failures : List String) : Outcome Unit :=
  if failures.isEmpty then .ok () else .error (.reclamation p.name failures)

section Steps

variable {p : Policy} {judge : Instance → Outcome Verdict} {warn evict : Instance → Op Unit}

theorem ids_sentenced : (sentenced judge warn evict listed).map Branch.id =
      (judged judge .warn listed).map Instance.id ++
        (judged judge .evict listed).map Instance.id := by
  rw [sentenced, List.map_append, List.map_map, List.map_map]
  rfl

/-- Each instance has at most one step. -/
theorem nodup_sentenced (hnodup : (listed.map Instance.id).Nodup) :
    ((sentenced judge warn evict listed).map Branch.id).Nodup := by
  have hsub : ∀ v, ((judged judge v listed).map Instance.id).Nodup := fun v =>
    hnodup.sublist (List.filter_sublist.map _)
  rw [ids_sentenced, List.nodup_append]
  refine ⟨hsub _, hsub _, fun id hid id' hid' heq => ?_⟩
  obtain ⟨i, hi, rfl⟩ := List.mem_map.mp hid
  obtain ⟨j, hj, rfl⟩ := List.mem_map.mp hid'
  obtain ⟨hi, hwarn⟩ := List.mem_filter.mp hi
  obtain ⟨hj, hevict⟩ := List.mem_filter.mp hj
  obtain rfl := List.inj_on_of_nodup_map hnodup hi hj heq
  simp [of_decide_eq_true hwarn] at hevict

/-- How a cycle with steps for some instances ends. -/
theorem outcome_ended {ends : InstanceId → Outcome Unit}
    (ho : (Work.cycle (.done (.ok ((trial p judge warn evict listed).ended ends)))).outcome? =
      some o) :
    o = (p.conclusion ((listed.filterMap fun i => noted i "read balance" (judge i)) ++
      ((judged judge .warn listed).filterMap (fun i => noted i "warn" (ends i.id)) ++
        (judged judge .evict listed).filterMap fun i => noted i "terminate" (ends i.id)))).map
          fun _ => .nothing := by
  have hfailure : ∀ (i : Instance) (label : String) (op : Op Unit),
      Branch.failure? { Branch.of i label op with work := .done (ends i.id) } =
        noted i label (ends i.id) := by
    intro i label op
    unfold Branch.failure? noted
    cases ends i.id <;> rfl
  simp only [Work.outcome?] at ho
  split at ho
  · rw [Option.some.injEq] at ho
    rw [← ho]
    refine congrArg (Except.map _) (congrArg p.conclusion (congrArg (_ ++ ·) ?_))
    show ((sentenced judge warn evict listed).map fun s =>
      { s with work := .done (ends s.id) }).filterMap Branch.failure? = _
    rw [sentenced, List.map_append, List.filterMap_append, List.map_map, List.map_map,
      List.filterMap_map, List.filterMap_map]
    exact congrArg₂ (· ++ ·) (List.filterMap_congr fun i _ => hfailure i "warn" (warn i))
      (List.filterMap_congr fun i _ => hfailure i "terminate" (evict i))
  · cases ho

/-- What is asked about an instance is asked by its step. -/
theorem regarding_ofStep {id : InstanceId}
    (h : ∀ e ∈ tr, e.request.about? = some id → e.step = some id) :
    Trace.regarding id (tr.map Asked.reply) =
      Trace.regarding id ((Asked.ofStep id tr).map Asked.reply) := by
  rw [Trace.regarding, Trace.regarding, List.filter_map, List.filter_map, Asked.ofStep,
    List.filter_filter]
  refine congrArg (List.map _) (List.filter_congr fun e he => ?_)
  by_cases habout : e.request.about? = some id
  · simp [Asked.reply, habout, h e he habout]
  · simp [Asked.reply, habout]

/-- Whoever is told something is told so by a step. -/
theorem notices_ofStep {ids : List InstanceId} (hnodup : ids.Nodup)
    (h : ∀ e ∈ tr, ∃ id ∈ ids, e.step = some id) :
    (Trace.notices (tr.map Asked.reply)).Perm
      (ids.flatMap fun id => Trace.notices ((Asked.ofStep id tr).map Asked.reply)) := by
  have hperm := ((Asked.perm_ofStep hnodup h).map Asked.reply).filterMap fun e => e.1.notice?
  rwa [List.map_flatMap, List.filterMap_flatMap] at hperm

/-- The players of an instance are warned. -/
theorem said_of_gives {i : Instance} {message : String} {timeout : Span} {v : Outcome Unit}
    (h : (Op.say i message timeout).run.Gives ((Asked.ofStep i.id tr).map Asked.reply) v)
    (hanswers : ∀ e ∈ tr, ∃ z z', F.Answers listed z e z') : v = F.said i := by
  obtain ⟨hnone, -, rfl⟩ | ⟨query, a, hsome, ht, rfl⟩ := Op.say_gives h
  · rw [Hazards.said, hnone]
    rfl
  · have hmem : ⟨.call (.console query), a⟩ ∈ (Asked.ofStep i.id tr).map Asked.reply :=
      ht ▸ List.mem_singleton_self _
    obtain ⟨e, he, hreply⟩ := List.mem_map.mp hmem
    obtain ⟨he, hstep⟩ := List.mem_filter.mp he
    obtain ⟨z, z', hanswer⟩ := hanswers e he
    rw [hanswer.eq_console (of_decide_eq_true hstep) hreply, Hazards.said,
      if_neg (by simpa using hsome)]
    rfl

/-- What the steps of a cycle ask for and end with, each for its own instance. -/
structure Stepped (F : Hazards) (warned evicted : List Instance)
    (notices : Instance → List (OwnerId × String)) (removed : Instance → Outcome Bool)
    (ends : InstanceId → Outcome Unit) (tr : List Asked) : Prop where
  idle : ∀ i ∈ warned, Trace.Idle ((Asked.ofStep i.id tr).map Asked.reply)
  said : ∀ i ∈ warned, ends i.id = F.said i
  evicts : ∀ i ∈ evicted,
    Evicts i (notices i) (removed i) ((Asked.ofStep i.id tr).map Asked.reply)
  ended : ∀ i ∈ evicted, ends i.id = (removed i).map fun _ => ()
  own : ∀ e ∈ tr, ∃ id ∈ warned.map Instance.id ++ evicted.map Instance.id, e.step = some id

namespace Stepped

variable {warned : List Instance} {notices : Instance → List (OwnerId × String)}
  {removed : Instance → Outcome Bool} {ends : InstanceId → Outcome Unit}

/-- Only an eviction asks about an instance, and only about its own. -/
theorem step_of_about (h : Stepped F warned evicted notices removed ends tr) {id : InstanceId}
    (he : e ∈ tr) (habout : e.request.about? = some id) :
    e.step = some id ∧ ∃ i ∈ evicted, i.id = id := by
  obtain ⟨id', hid', hstep⟩ := h.own e he
  have hmem : e.reply ∈ (Asked.ofStep id' tr).map Asked.reply :=
    List.mem_map_of_mem (List.mem_filter.mpr ⟨he, decide_eq_true hstep⟩)
  have habout' : e.reply.1.about? = some id := habout
  obtain hid' | hid' := List.mem_append.mp hid'
  · obtain ⟨i, hi, rfl⟩ := List.mem_map.mp hid'
    rw [(h.idle i hi e.reply hmem).1] at habout'
    cases habout'
  · obtain ⟨i, hi, rfl⟩ := List.mem_map.mp hid'
    obtain hown | hown := (h.evicts i hi).about e.reply hmem
    · rw [hown] at habout'
      cases habout'
    · rw [hown] at habout'
      cases habout'
      exact ⟨hstep, i, hi, rfl⟩

/-- Nobody is told by a warning. -/
theorem notices_perm (h : Stepped F warned evicted notices removed ends tr)
    (hnodup : (warned.map Instance.id ++ evicted.map Instance.id).Nodup) :
    (Trace.notices (tr.map Asked.reply)).Perm
      (evicted.flatMap fun i =>
        if (removed i).toOption = some true then notices i else []) := by
  have hnone : (warned.flatMap fun i =>
      Trace.notices ((Asked.ofStep i.id tr).map Asked.reply)) = [] :=
    List.flatMap_eq_nil_iff.mpr fun i hi => (h.idle i hi).notices
  refine (notices_ofStep hnodup h.own).trans (.of_eq ?_)
  rw [List.flatMap_append, List.flatMap_map, List.flatMap_map, hnone, List.nil_append]
  exact List.flatMap_congr fun i hi => (h.evicts i hi).told

/-- The steps evict as if each had gone on alone. -/
theorem evictions_evicted (h : Stepped F warned evicted notices removed ends tr)
    (hnodup : (warned.map Instance.id ++ evicted.map Instance.id).Nodup) :
    Evictions evicted notices removed (tr.map Asked.reply) := by
  refine ⟨fun i hi => ?_, fun id hid => ?_, h.notices_perm hnodup⟩
  · obtain ⟨reason, t₁, hremove, hregarding⟩ := (h.evicts i hi).gives
    refine ⟨reason, t₁, hremove, ?_⟩
    rw [regarding_ofStep fun e he hi => (h.step_of_about he hi).1, hregarding]
  · refine List.filter_eq_nil_iff.mpr fun reply hreply => ?_
    obtain ⟨e, he, rfl⟩ := List.mem_map.mp hreply
    rw [decide_eq_true_eq]
    intro habout
    obtain ⟨-, i, hi, heq⟩ := h.step_of_about he habout
    exact hid i hi heq

/-- What the steps fail with. -/
theorem noted_eq (h : Stepped F warned evicted notices removed ends tr) :
    ((warned.filterMap fun i => noted i "warn" (ends i.id)) ++
      evicted.filterMap fun i => noted i "terminate" (ends i.id)) =
    (warned.filterMap fun i => noted i "warn" (F.said i)) ++
      evicted.filterMap fun i => noted i "terminate" (removed i) := by
  have hwarn : ∀ i ∈ warned, noted i "warn" (ends i.id) = noted i "warn" (F.said i) :=
    fun i hi => by rw [h.said i hi]
  have hevict : ∀ i ∈ evicted,
      noted i "terminate" (ends i.id) = noted i "terminate" (removed i) :=
    fun i hi => by rw [h.ended i hi, noted_map]
  rw [List.filterMap_congr hwarn, List.filterMap_congr hevict]

end Stepped

/-- Each step of a cycle does what it does alone. -/
theorem stepped_of_gives {notices : Instance → List (OwnerId × String)}
    {ends : InstanceId → Outcome Unit}
    (hwarn : ∀ i, ∃ message timeout, warn i = Op.say i message timeout)
    (hevict : ∀ i t v, (evict i).run.Gives t v → (∀ e ∈ t, FoundAsAsked e) →
      ∃ removed, Evicts i (notices i) removed t ∧ v = removed.map fun _ => ())
    (hgives : ∀ b ∈ sentenced judge warn evict listed,
      b.work.Gives ((Asked.ofStep b.id tr).map Asked.reply) (ends b.id))
    (hsteps : ∀ e ∈ tr, ∃ id ∈ (sentenced judge warn evict listed).map Branch.id,
      e.step = some id)
    (hanswers : ∀ e ∈ tr, ∃ z z', F.Answers listed z e z') :
    ∃ removed, Stepped F (judged judge .warn listed) (judged judge .evict listed) notices removed
      ends tr := by
  have hsaid : ∀ i ∈ judged judge .warn listed, ∃ message timeout,
      (Op.say i message timeout).run.Gives ((Asked.ofStep i.id tr).map Asked.reply)
        (ends i.id) := by
    intro i hi
    obtain ⟨message, timeout, hwarn⟩ := hwarn i
    exact ⟨message, timeout,
      hwarn ▸ hgives (.of i "warn" (warn i)) (List.mem_append_left _ (List.mem_map_of_mem hi))⟩
  have hfound : ∀ id, ∀ e ∈ (Asked.ofStep id tr).map Asked.reply, FoundAsAsked e := by
    intro id reply hreply
    obtain ⟨e, he, rfl⟩ := List.mem_map.mp hreply
    obtain ⟨z, z', h⟩ := hanswers e (List.mem_filter.mp he).1
    exact h.foundAsAsked
  have hevicted : ∀ i, ∃ removed : Outcome Bool, i ∈ judged judge .evict listed →
      Evicts i (notices i) removed ((Asked.ofStep i.id tr).map Asked.reply) ∧
        ends i.id = removed.map fun _ => () := by
    intro i
    by_cases hi : i ∈ judged judge .evict listed
    · have hends := hgives (.of i "terminate" (evict i))
        (List.mem_append_right _ (List.mem_map_of_mem hi))
      obtain ⟨removed, h⟩ := hevict i _ _ hends (hfound i.id)
      exact ⟨removed, fun _ => h⟩
    · exact ⟨.ok false, fun h => absurd h hi⟩
  choose removed hremoved using hevicted
  refine ⟨removed, fun i hi => ?_, fun i hi => ?_, fun i hi => (hremoved i hi).1,
    fun i hi => (hremoved i hi).2, ids_sentenced ▸ hsteps⟩
  · obtain ⟨message, timeout, h⟩ := hsaid i hi
    exact Op.say_idle h
  · obtain ⟨message, timeout, h⟩ := hsaid i hi
    exact said_of_gives h hanswers

/-- The steps warn and evict, one among the other, and each ends as if it had gone on alone. -/
theorem evictions_of_steps (notices : Instance → List (OwnerId × String))
    (hnodup : (listed.map Instance.id).Nodup)
    (hwarn : ∀ i, ∃ message timeout, warn i = Op.say i message timeout)
    (hevict : ∀ i t v, (evict i).run.Gives t v → (∀ e ∈ t, FoundAsAsked e) →
      ∃ removed, Evicts i (notices i) removed t ∧ v = removed.map fun _ => ())
    (hgoes : (Work.cycle (.done (.ok (trial p judge warn evict listed)))).Goes tr w)
    (ho : w.outcome? = some o) (hanswers : ∀ e ∈ tr, ∃ z z', F.Answers listed z e z') :
    ∃ removed, Evictions (judged judge .evict listed) notices removed (tr.map Asked.reply) ∧
      o = (p.conclusion ((listed.filterMap fun i => noted i "read balance" (judge i)) ++
        ((judged judge .warn listed).filterMap (fun i => noted i "warn" (F.said i)) ++
          (judged judge .evict listed).filterMap fun i => noted i "terminate" (removed i)))).map
            fun _ => .nothing := by
  have hnodup' : ((sentenced judge warn evict listed).map Branch.id).Nodup :=
    nodup_sentenced hnodup
  obtain ⟨ends, rfl, hgives, hsteps⟩ := hgoes.steps ho hnodup'
  obtain rfl := outcome_ended ho
  obtain ⟨removed, h⟩ := stepped_of_gives hwarn hevict hgives hsteps hanswers
  rw [h.noted_eq]
  exact ⟨removed, h.evictions_evicted (ids_sentenced ▸ hnodup'), rfl⟩

end Steps

/-! ### What comes of a cycle -/

namespace Evictions

variable {notices : Instance → List (OwnerId × String)} {removed : Instance → Outcome Bool}
  (h : Evictions evicted notices removed (tr.map Asked.reply))
  (hleads : Leads (F.Answers listed) x tr y)

include h hleads

/-- What an eviction gives and leaves only depends on its own instance. -/
theorem removed_eq {i : Instance} (hi : i ∈ evicted) :
    removed i = F.removal i.id (x.cell i.id).row ∧
      y.cell i.id = (x.cell i.id).removed F i.id := by
  obtain ⟨reason, t₁, hgives, hregarding⟩ := h.gives i hi
  have hcell := Hazards.leadsAt hleads i.id
  rw [hregarding] at hcell
  exact Hazards.removal_of_gives hgives hcell fun j hj => (Rows.mem_of_find? hj).2

/-- Other instances are left alone. -/
theorem cell_eq {id : InstanceId} (hid : ∀ i ∈ evicted, i.id ≠ id) : y.cell id = x.cell id := by
  have hcell := Hazards.leadsAt hleads id
  rw [h.others id hid] at hcell
  exact hcell.of_nil

end Evictions

namespace Policy

/-- Who is told what when an instance was removed. -/
def notices (s : FleetSettings) (i : Instance) : Policy → List (OwnerId × String)
  | stuck => [(i.owner, Stuck.notice i.id (s.pendingMaxAge.seconds / 60))]
  | credit => [(i.owner, Credit.notice i.id)]
  | idle | lifetime => []

/-- A cycle judges instances by the time at its start, or by the balances of their owners, of which
each is asked for in the cycle. An owner's instances are judged on one balance, and not at all when
it cannot be read. -/
def Judges (s : FleetSettings) (listed : List Instance) (t : Trace)
    (judge : Instance → Outcome Verdict) : Policy → Prop
  | idle => False
  | stuck => ∃ now : Timestamp, t.head? = some ⟨.now, now⟩ ∧
    judge = fun i => .ok (Verdict.stuck i.status (i.age now) s.pendingMaxAge)
  | lifetime => ∃ now : Timestamp, t.head? = some ⟨.now, now⟩ ∧
    judge = fun i => .ok (Verdict.lifetime (i.age now) s.warnAfter s.maxAge)
  | credit => ∃ balance : Instance → Outcome Int,
    (judge = fun i => (balance i).map (Verdict.credit · s.lowBalance)) ∧
    (∀ i ∈ listed, ⟨.call (.balance i.owner), balance i⟩ ∈ t) ∧
    ∀ i ∈ listed, ∀ j ∈ listed, i.owner = j.owner → ∀ b c, balance i = .ok b →
      balance j = .ok c → b = c

end Policy

/-- What a cycle does when the instances that are listed get certain verdicts, and which calls about
which instance fail. -/
structure Isolated (p : Policy) (s : FleetSettings) (F : Hazards) (listed : List Instance)
    (judge : Instance → Outcome Verdict) (x : Tables) (t : Trace) (y : Tables)
    (o : Outcome Yield) : Prop where
  rows : ∀ id, Rows.find? Instance.id id y.rows =
    if (∃ i ∈ judged judge .evict listed, i.id = id) ∧ F.Removes id then none
    else Rows.find? Instance.id id x.rows
  activities : ∀ id, Rows.find? Activity.server id y.activities =
    if (∃ i ∈ judged judge .evict listed, i.id = id) ∧
      (Rows.find? Instance.id id x.rows).isSome ∧ F.Removes id ∧ F.removeActivity id = none
    then none else Rows.find? Activity.server id x.activities
  told : t.notices.Perm ((judged judge .evict listed).flatMap fun i =>
    if (F.removal i.id (Rows.find? Instance.id i.id x.rows)).toOption = some true
    then p.notices s i else [])
  outcome : o = (p.conclusion ((listed.filterMap fun i => noted i "read balance" (judge i)) ++
    ((judged judge .warn listed).filterMap (fun i => noted i "warn" (F.said i)) ++
      (judged judge .evict listed).filterMap fun i =>
        noted i "terminate" (F.removal i.id (Rows.find? Instance.id i.id x.rows))))).map
          fun _ => .nothing

variable {p : Policy} {s : FleetSettings} {judge : Instance → Outcome Verdict}

theorem isolated_of_evictions {removed : Instance → Outcome Bool}
    (h : Evictions (judged judge .evict listed) (p.notices s) removed (tr.map Asked.reply))
    (hleads : Leads (F.Answers listed) x tr y)
    (ho : o = (p.conclusion ((listed.filterMap fun i => noted i "read balance" (judge i)) ++
      ((judged judge .warn listed).filterMap (fun i => noted i "warn" (F.said i)) ++
        (judged judge .evict listed).filterMap fun i => noted i "terminate" (removed i)))).map
          fun _ => .nothing) :
    Isolated p s F listed judge x (tr.map Asked.reply) y o := by
  have hcell : ∀ id, y.cell id =
      if ∃ i ∈ judged judge .evict listed, i.id = id then (x.cell id).removed F id
      else x.cell id := by
    intro id
    split
    · rename_i hid
      obtain ⟨i, hi, rfl⟩ := hid
      exact (h.removed_eq hleads hi).2
    · rename_i hid
      exact h.cell_eq hleads fun i hi heq => hid ⟨i, hi, heq⟩
  refine ⟨fun id => ?_, fun id => ?_, h.told.trans (.of_eq ?_), ?_⟩
  · refine (congrArg Cell.row (hcell id)).trans ?_
    by_cases hid : ∃ i ∈ judged judge .evict listed, i.id = id
    · simp only [hid, if_true, true_and]
      rfl
    · simp only [hid, if_false, false_and]
      rfl
  · refine (congrArg Cell.activity (hcell id)).trans ?_
    by_cases hid : ∃ i ∈ judged judge .evict listed, i.id = id
    · simp only [hid, if_true, true_and]
      rfl
    · simp only [hid, if_false, false_and]
      rfl
  · exact List.flatMap_congr fun i hi => by rw [(h.removed_eq hleads hi).1]; rfl
  · have hremoved : ∀ i ∈ judged judge .evict listed, noted i "terminate" (removed i) =
        noted i "terminate" (F.removal i.id (Rows.find? Instance.id i.id x.rows)) := fun i hi => by
      rw [(h.removed_eq hleads hi).1]
      rfl
    rw [ho, List.filterMap_congr hremoved]

/-- No stuck instance is only warned. -/
theorem Stuck.judged_warn (maxAge : Span) (now : Timestamp) (listed : List Instance) :
    judged (verdict maxAge now) .warn listed = [] := by
  refine List.filter_eq_nil_iff.mpr fun i _ => ?_
  unfold verdict Verdict.stuck
  split <;> simp [Except.toOption]

/-- However the calls of a cycle fail and in whatever order its steps go on, it comes to an end, and
what becomes of each instance is what would become of it alone. The cycle fails with every failure
to read a balance, to warn and to evict. -/
theorem cycle_isolated (hp : p ≠ .idle) (s : FleetSettings) (F : Hazards)
    (hnodup : (listed.map Instance.id).Nodup) :
    (Work.ofPolicy p s).Returns ∧
    ∀ x tr y w o, (Work.ofPolicy p s).Goes tr w → w.outcome? = some o →
      Leads (F.Answers listed) x tr y →
      ∃ judge, p.Judges s listed (tr.map Asked.reply) judge ∧
        Isolated p s F listed judge x (tr.map Asked.reply) y o := by
  refine ⟨Work.returns _, fun x tr y w o hgoes ho hleads => ?_⟩
  have hanswers : ∀ e ∈ tr, ∃ z z', F.Answers listed z e z' := fun e he => hleads.of_mem he
  obtain ⟨tr₁, v, tr₂, rfl, -, hsurvey, hsteps⟩ := hgoes.survey ho
  have hanswers₁ : ∀ reply ∈ tr₁.map Asked.reply, ListsOnly listed reply ∧ FoundAsAsked reply := by
    intro reply hreply
    obtain ⟨e, he, rfl⟩ := List.mem_map.mp hreply
    obtain ⟨z, z', h⟩ := hanswers e (List.mem_append_left _ he)
    exact ⟨h.listsOnly, h.foundAsAsked⟩
  have hlisted := fun reply hreply => (hanswers₁ reply hreply).1
  have hanswers₂ : ∀ e ∈ tr₂, ∃ z z', F.Answers listed z e z' := fun e he =>
    hanswers e (List.mem_append_right _ he)
  cases p with
  | idle => exact absurd rfl hp
  | stuck =>
    obtain ⟨now, hnow, removed, hevictions, rfl⟩ :=
      Stuck.survey_gives hnodup hsurvey hlisted fun reply hreply => (hanswers₁ reply hreply).2
    obtain ⟨ends, rfl, -, hnone⟩ := hsteps.steps ho .nil
    obtain rfl : tr₂ = [] := List.eq_nil_iff_forall_not_mem.mpr fun e he => by
      obtain ⟨id, hid, -⟩ := hnone e he
      cases hid
    rw [List.append_nil] at hleads ⊢
    refine ⟨Stuck.verdict s.pendingMaxAge now, ⟨now, hnow, rfl⟩,
      isolated_of_evictions hevictions hleads ?_⟩
    have hread : (listed.filterMap fun i =>
        noted i "read balance" (Stuck.verdict s.pendingMaxAge now i)) = [] :=
      List.filterMap_eq_nil_iff.mpr fun _ _ => rfl
    rw [hread, Stuck.judged_warn, ← Option.some.inj ho]
    exact congrArg (fun failures => (Policy.stuck.conclusion failures).map _) (List.append_nil _)
  | lifetime =>
    obtain ⟨now, hnow, hidle, rfl⟩ := Lifetime.survey_gives hsurvey hlisted
    obtain ⟨removed, hevictions, rfl⟩ := evictions_of_steps (Policy.lifetime.notices s) hnodup
      (fun i => ⟨_, _, rfl⟩) (fun i t v => Lifetime.evict_gives) hsteps ho hanswers₂
    refine ⟨_, ⟨now, ?_, rfl⟩, isolated_of_evictions ?_ hleads rfl⟩
    · rw [List.map_append, List.head?_append, hnow]
      rfl
    · rw [List.map_append]
      exact hevictions.after_idle hidle
  | credit =>
    obtain ⟨balance, hread, rfl⟩ := Credit.survey_gives hnodup.of_map hsurvey hlisted
    obtain ⟨removed, hevictions, rfl⟩ := evictions_of_steps (Policy.credit.notices s) hnodup
      (fun i => ⟨_, _, rfl⟩) (fun i t v => Credit.evict_gives) hsteps ho hanswers₂
    refine ⟨_, ⟨balance, rfl, fun i hi => ?_, hread.same⟩, isolated_of_evictions ?_ hleads rfl⟩
    · rw [List.map_append]
      exact List.mem_append_left _ (hread.asked i hi rfl)
    · rw [List.map_append]
      exact hevictions.after_idle hread.idle

/-- Instances of an owner without credits. -/
def penniless (n : Nat) : Instance :=
  { (default : Instance) with id := ⟨.numbered n⟩, owner := ⟨"u1"⟩, status := .ready }

/-- The first of them cannot be destroyed. -/
def stubborn : Hazards where
  lookup _ := none
  destroy id := if id = (penniless 1).id then some (.internal "boom") else none
  removeInstance _ := none
  removeActivity _ := none
  console _ := .ok ""

/-- The tables with the rows of two. -/
def pair : Tables where
  rows := [penniless 1, penniless 2]
  activities := [⟨(penniless 2).id, none, default⟩]

/-- The tables once the second has been removed. -/
def widowed : Tables where
  rows := [penniless 1]
  activities := []
  events := [⟨Termination.message (penniless 2) Credit.reason, "u1", default⟩]

/-- How a cycle ends in which the first cannot be destroyed. -/
def stubbornness : Outcome Yield :=
  .error (.reclamation "credit_exhaustion_reaper"
    [stepFailure (penniless 1).id "terminate" (.internal "boom")])

/-- One step fails while the other goes on. -/
theorem exists_goes_pair (s : FleetSettings) : ∃ tr w, (Work.ofPolicy .credit s).Goes tr w ∧
    w.outcome? = some stubbornness ∧
    Leads (stubborn.Answers [penniless 1, penniless 2]) pair tr widowed := by
  refine ⟨_, _, .step (k := 0) (r := .call (.listInstances (some .ready)))
      (Except.ok [penniless 1, penniless 2]) rfl <|
    .step (k := 0) (r := .call (.balance ⟨"u1"⟩)) (Except.ok (0 : Int)) rfl <|
    .step (k := 0) (r := .call (.findInstance (penniless 1).id))
      (Except.ok (some (penniless 1))) rfl <|
    .step (k := 1) (r := .call (.findInstance (penniless 2).id))
      (Except.ok (some (penniless 2))) rfl <|
    .step (k := 1) (r := .call (.destroy (penniless 2).id "")) (Except.ok ()) rfl <|
    .step (k := 0) (r := .call (.destroy (penniless 1).id ""))
      (Except.error (.internal "boom")) rfl <|
    .step (k := 1) (r := .call (.removeInstance (penniless 2).id)) (Except.ok ()) rfl <|
    .step (k := 1) (r := .call (.removeActivity (penniless 2).id)) (Except.ok ()) rfl <|
    .step (k := 1) (r := .now) (default : Timestamp) rfl <|
    .step (k := 1) (r := .call (.log _)) (Except.ok ()) rfl <|
    .step (k := 1) (r := .call (.notify ⟨"u1"⟩ _)) (Except.ok ()) rfl <| .rest _, rfl, ?_⟩
  exact .cons ⟨rfl, rfl⟩ <| .cons rfl <| .cons ⟨rfl, rfl⟩ <| .cons ⟨rfl, rfl⟩ <|
    .cons ⟨rfl, rfl⟩ <| .cons ⟨rfl, rfl⟩ <| .cons ⟨rfl, rfl⟩ <| .cons ⟨rfl, rfl⟩ <|
    .cons rfl <| .cons rfl <| .cons rfl <| .nil _

theorem cycle_isolated_pair : Policy.credit ≠ .idle ∧
    ([penniless 1, penniless 2].map Instance.id).Nodup ∧
    ∃ tr w, (Work.ofPolicy .credit (FleetSettings.ofEnvironment fun _ => none)).Goes tr w ∧
      w.outcome? = some stubbornness ∧
      Leads (stubborn.Answers [penniless 1, penniless 2]) pair tr widowed ∧
      ∃ judge, Policy.credit.Judges (FleetSettings.ofEnvironment fun _ => none)
          [penniless 1, penniless 2] (tr.map Asked.reply) judge ∧
        Isolated .credit (FleetSettings.ofEnvironment fun _ => none) stubborn
          [penniless 1, penniless 2] judge pair (tr.map Asked.reply) widowed stubbornness := by
  obtain ⟨tr, w, hgoes, ho, hleads⟩ :=
    exists_goes_pair (FleetSettings.ofEnvironment fun _ => none)
  have hnodup : ([penniless 1, penniless 2].map Instance.id).Nodup := by decide
  have hcredit : Policy.credit ≠ .idle := nofun
  exact ⟨hcredit, hnodup, tr, w, hgoes, ho, hleads,
    (cycle_isolated hcredit _ stubborn hnodup).2 pair tr widowed w stubbornness hgoes ho hleads⟩

end GameFleet
