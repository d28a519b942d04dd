import GameFleet.Proofs.Reclaim.Hazards
import GameFleet.Reclaim

/-!
# What is asked for an instance that a cycle treats

- `Op.say_gives`, `Op.tell_gives`: a message on a console, and one to an owner.
- `Termination.asks_terminate`: a removal only asks about its own instance.
- `Evicts`: what is asked to evict an instance; `Credit.evict_gives`, `Lifetime.evict_gives`,
  `Stuck.reclaim_gives`: the policies ask for that.
- `Evictions`: the evictions of several instances.
-/

namespace GameFleet

variable {t t₀ t₁ t₂ : Trace} {i : Instance} {id : InstanceId} {reason : String}

/-- An operation only asks for what it may ask for. -/
theorem Program.Gives.asks {α : Type} {P : Request → Prop} {p : Running α} {v : Outcome α}
    (h : p.Gives t v) (hp : p.Asks P) : ∀ e ∈ t, P e.1 := by
  refine h.of_meets ((Meets.simulate (M := .tracing) (fun _ t => ∀ e ∈ t, P e.1) hp
    (List.forall_mem_nil _) (fun _ _ _ _ _ => trivial) ?_).mono fun _ _ ⟨_, h, _⟩ => h)
  rintro _ t q a _ ht hq rfl
  refine ⟨(), trivial, fun e he => ?_⟩
  obtain he | he := List.mem_append.mp he
  · exact ht e he
  · rwa [List.mem_singleton.mp he]

namespace Op

/-- A message is put on a console, or there is none. -/
theorem say_gives {message : String} {timeout : Span} {v : Outcome Unit}
    (h : (say i message timeout).run.Gives t v) :
    (i.console? = none ∧ t = [] ∧ v = .error (noConsole i)) ∨
    ∃ query o, i.console? ≠ none ∧ t = [⟨.call (.console query), o⟩] ∧
      v = o.map fun _ => () := by
  unfold say command at h
  split at h
  · rename_i hnone
    obtain ⟨_, _, _, -, hthrow, -⟩ | ⟨f, rfl, hthrow⟩ := h.of_andThen
    · cases hthrow.of_throw.2
    · obtain ⟨rfl, hf⟩ := hthrow.of_throw
      cases hf
      exact .inl ⟨hnone, rfl, rfl⟩
  · rename_i hsome
    have hne : i.console? ≠ none := by simp [hsome]
    obtain ⟨x, t', rfl, hdone⟩ | ⟨f, rfl, rfl⟩ := h.of_callThen
    · obtain ⟨rfl, rfl⟩ := hdone.of_pure
      exact .inr ⟨_, .ok x, hne, rfl, rfl⟩
    · exact .inr ⟨_, .error f, hne, rfl, rfl⟩

theorem say_idle {message : String} {timeout : Span} {v : Outcome Unit}
    (h : (say i message timeout).run.Gives t v) : t.Idle := by
  obtain ⟨-, rfl, -⟩ | ⟨query, o, -, rfl, -⟩ := say_gives h
  · exact List.forall_mem_nil _
  · exact List.forall_mem_singleton.mpr ⟨rfl, rfl⟩

theorem tell_gives {owner : OwnerId} {message : String} {v : Outcome Unit}
    (h : (tell owner message).run.Gives t v) :
    (∃ o, t = [⟨.call (.notify owner message), o⟩]) ∧ v = .ok () := by
  obtain ⟨rfl, o, h⟩ := h.of_bestEffort
  exact ⟨⟨o, h.of_call⟩, rfl⟩

end Op

/-- What a removal may ask for. -/
def Request.Removes (id : InstanceId) (r : Request) : Prop :=
  (r.about? = none ∨ r.about? = some id) ∧ r.notice? = none

theorem Termination.asks_terminate (i : Instance) (reason : String) :
    (terminate i reason).run.Asks (Request.Removes i.id) := by
  have hlogged : (Op.record i.owner.text (message i reason)).run.Asks (Request.Removes i.id) :=
    .andThen (.ask ⟨.inl rfl, rfl⟩) fun now _ => .bestEffort (.call ⟨.inl rfl, rfl⟩)
  exact .andThen (.call ⟨.inr rfl, rfl⟩) fun _ _ => .andThen (.call ⟨.inr rfl, rfl⟩) fun _ _ =>
    .andThen (.call ⟨.inr rfl, rfl⟩) fun _ _ => hlogged

/-- The row that is found has the identifier that was looked for. -/
def FoundAsAsked : Program.Reply Request Request.Answer → Prop
  | ⟨.call (.findInstance id), .ok (some i)⟩ => i.id = id
  | _ => True

theorem Termination.remove_gives {v : Outcome Bool} (h : (remove id reason).run.Gives t v)
    (hfound : ∀ e ∈ t, FoundAsAsked e) : ∀ e ∈ t, Request.Removes id e.1 := by
  obtain ⟨row, t', rfl, hrest⟩ | ⟨f, rfl, -⟩ := h.of_callThen
  · refine List.forall_mem_cons.mpr ⟨⟨.inr rfl, rfl⟩, ?_⟩
    cases row with
    | none =>
      obtain ⟨rfl, -⟩ := hrest.of_pure
      exact List.forall_mem_nil _
    | some i =>
      obtain rfl : i.id = id := hfound _ List.mem_cons_self
      exact hrest.asks (.andThen (asks_terminate i reason) fun _ _ => .pure trivial)
  · exact List.forall_mem_singleton.mpr ⟨.inr rfl, rfl⟩

/-! ### Evictions -/

/-- What is asked to evict an instance, with what its removal gives. The owner is told when it was
removed. -/
structure Evicts (i : Instance) (notices : List (OwnerId × String)) (removed : Outcome Bool)
    (t : Trace) : Prop where
  gives : ∃ (reason : String) (t₁ : Trace), (Termination.remove i.id reason).run.Gives t₁ removed ∧
    t.regarding i.id = t₁.regarding i.id
  told : t.notices = if removed.toOption = some true then notices else []
  about : ∀ e ∈ t, e.1.about? = none ∨ e.1.about? = some i.id

variable {notices : List (OwnerId × String)} {removed : Outcome Bool} {s : FleetSettings}

namespace Evicts

/-- The removal, and what follows it. -/
theorem of_remove (hremove : (Termination.remove i.id reason).run.Gives t₁ removed)
    (hfound : ∀ e ∈ t₁, FoundAsAsked e) (hafter : ∀ e ∈ t₂, e.1.about? = none)
    (htold : Trace.notices t₂ = if removed.toOption = some true then notices else []) :
    Evicts i notices removed (t₁ ++ t₂) := by
  have hasks := Termination.remove_gives hremove hfound
  refine ⟨⟨reason, t₁, hremove, ?_⟩, ?_, fun e he => ?_⟩
  · have hrest : t₂.regarding i.id = [] :=
      List.filter_eq_nil_iff.mpr fun e he => by simp [hafter e he]
    rw [Trace.regarding_append, hrest, List.append_nil]
  · have hnone : Trace.notices t₁ = [] := List.filterMap_eq_nil_iff.mpr fun e he => (hasks e he).2
    rw [Trace.notices_append, hnone, htold]
    rfl
  · obtain he | he := List.mem_append.mp he
    · exact (hasks e he).1
    · exact .inl (hafter e he)

theorem of_failure {f : Failure}
    (hremove : (Termination.remove i.id reason).run.Gives t (.error f))
    (hfound : ∀ e ∈ t, FoundAsAsked e) : Evicts i notices (.error f) t := by
  have hevicts : Evicts i notices (.error f) (t ++ []) :=
    .of_remove hremove hfound (List.forall_mem_nil _) rfl
  rwa [List.append_nil] at hevicts

/-- What is asked before does not matter when it is idle. -/
theorem after_idle (hidle : t₀.Idle) (h : Evicts i notices removed t) :
    Evicts i notices removed (t₀ ++ t) := by
  obtain ⟨⟨reason, t₁, hremove, hregarding⟩, htold, habout⟩ := h
  refine ⟨⟨reason, t₁, hremove, ?_⟩, ?_, fun e he => ?_⟩
  · rw [Trace.regarding_append, hidle.regarding, hregarding, List.nil_append]
  · rw [Trace.notices_append, hidle.notices, htold, List.nil_append]
  · obtain he | he := List.mem_append.mp he
    · exact .inl (hidle e he).1
    · exact habout e he

end Evicts

theorem Lifetime.evict_gives {v : Outcome Unit} (h : (evict s i).run.Gives t v)
    (hfound : ∀ e ∈ t, FoundAsAsked e) :
    ∃ removed, Evicts i [] removed t ∧ v = removed.map fun _ => () := by
  obtain ⟨t₀, _, t₁, rfl, hsay, h⟩ | ⟨f, -, hsay⟩ := h.of_andThen
  · obtain ⟨-, o, hsay⟩ := hsay.of_bestEffort
    have hfound₁ := (List.forall_mem_append.mp hfound).2
    obtain ⟨t₂, b, t₃, rfl, hremove, hdone⟩ | ⟨f, rfl, hremove⟩ := h.of_andThen
    · obtain ⟨rfl, rfl⟩ := hdone.of_pure
      have hfound₂ := (List.forall_mem_append.mp hfound₁).1
      have hevicts : Evicts i [] (.ok b) (t₂ ++ []) :=
        .of_remove hremove hfound₂ (List.forall_mem_nil _) (ite_self _).symm
      exact ⟨.ok b, hevicts.after_idle (Op.say_idle hsay), rfl⟩
    · exact ⟨.error f, (Evicts.of_failure hremove hfound₁).after_idle (Op.say_idle hsay), rfl⟩
  · cases hsay.of_bestEffort.1

theorem Credit.evict_gives {v : Outcome Unit} (h : (evict s i).run.Gives t v)
    (hfound : ∀ e ∈ t, FoundAsAsked e) :
    ∃ removed, Evicts i [(i.owner, notice i.id)] removed t ∧ v = removed.map fun _ => () := by
  obtain ⟨t₀, _, t₁, rfl, hsay, h⟩ | ⟨f, -, hsay⟩ := h.of_andThen
  · obtain ⟨-, o, hsay⟩ := hsay.of_bestEffort
    have hidle := Op.say_idle hsay
    have hfound₁ := (List.forall_mem_append.mp hfound).2
    obtain ⟨t₂, b, t₃, rfl, hremove, htell⟩ | ⟨f, rfl, hremove⟩ := h.of_andThen
    · have hfound₂ := (List.forall_mem_append.mp hfound₁).1
      cases b with
      | true =>
        obtain ⟨⟨o, rfl⟩, rfl⟩ := Op.tell_gives htell
        exact ⟨.ok true, .after_idle hidle (.of_remove hremove hfound₂
          (List.forall_mem_singleton.mpr rfl) rfl), rfl⟩
      | false =>
        obtain ⟨rfl, rfl⟩ := htell.of_pure
        exact ⟨.ok false, .after_idle hidle (.of_remove hremove hfound₂ (List.forall_mem_nil _) rfl),
          rfl⟩
    · exact ⟨.error f, (Evicts.of_failure hremove hfound₁).after_idle hidle, rfl⟩
  · cases hsay.of_bestEffort.1

theorem Stuck.reclaim_gives {minutes : Nat} {v : Outcome (Option String)}
    (h : (reclaim minutes i).run.Gives t v) (hfound : ∀ e ∈ t, FoundAsAsked e) :
    ∃ removed, Evicts i [(i.owner, notice i.id minutes)] removed t ∧
      v = .ok (match removed with
        | .ok _ => none
        | .error f => some (stepFailure i.id "terminate" f)) := by
  obtain ⟨t₁, removed, t₂, rfl, hremove, h⟩ | ⟨f, -, hattempt⟩ := h.of_andThen
  · obtain ⟨o, ho, hremove⟩ := hremove.of_attempt
    cases ho
    have hfound₁ := (List.forall_mem_append.mp hfound).1
    cases removed with
    | error f =>
      obtain ⟨rfl, rfl⟩ := h.of_pure
      exact ⟨.error f, .of_remove hremove hfound₁ (List.forall_mem_nil _) rfl, rfl⟩
    | ok b =>
      cases b with
      | true =>
        obtain ⟨t₃, _, t₄, rfl, htell, hdone⟩ | ⟨f, -, htell⟩ := h.of_andThen
        · obtain ⟨⟨o, rfl⟩, -⟩ := Op.tell_gives htell
          obtain ⟨rfl, rfl⟩ := hdone.of_pure
          exact ⟨.ok true, .of_remove hremove hfound₁ (List.forall_mem_singleton.mpr rfl) rfl,
            rfl⟩
        · cases (Op.tell_gives htell).2
      | false =>
        obtain ⟨rfl, rfl⟩ := h.of_pure
        exact ⟨.ok false, .of_remove hremove hfound₁ (List.forall_mem_nil _) rfl, rfl⟩
  · obtain ⟨_, ho, -⟩ := hattempt.of_attempt
    cases ho

/-! ### Several evictions -/

/-- Among what is asked are the evictions of some instances. Nothing else is asked about any, and
nobody else is told anything. -/
structure Evictions (evicted : List Instance) (notices : Instance → List (OwnerId × String))
    (removed : Instance → Outcome Bool) (t : Trace) : Prop where
  gives : ∀ i ∈ evicted, ∃ (reason : String) (t₁ : Trace),
    (Termination.remove i.id reason).run.Gives t₁ (removed i) ∧
      t.regarding i.id = t₁.regarding i.id
  others : ∀ id, (∀ i ∈ evicted, i.id ≠ id) → t.regarding id = []
  told : t.notices.Perm
    (evicted.flatMap fun i => if (removed i).toOption = some true then notices i else [])

namespace Evictions

variable {rest : List Instance} {notices : Instance → List (OwnerId × String)}
  {removals : Instance → Outcome Bool}

theorem nil : Evictions [] notices removals [] := ⟨nofun, fun _ _ => rfl, .nil⟩

/-- What is asked before does not matter when it is idle. -/
theorem after_idle (hidle : t₀.Idle) (h : Evictions rest notices removals t) :
    Evictions rest notices removals (t₀ ++ t) := by
  refine ⟨fun i hi => ?_, fun id hid => ?_, ?_⟩
  · obtain ⟨reason, t₁, hgives, hregarding⟩ := h.gives i hi
    exact ⟨reason, t₁, hgives, by rw [Trace.regarding_append, hidle.regarding, hregarding]; rfl⟩
  · rw [Trace.regarding_append, hidle.regarding, h.others id hid]
    rfl
  · rw [Trace.notices_append, hidle.notices]
    exact h.told

/-- One eviction, and then the others. -/
theorem cons (hi : Evicts i (notices i) removed t₁) (h : Evictions rest notices removals t₂)
    (hid : ∀ j ∈ rest, j.id ≠ i.id) :
    Evictions (i :: rest) notices (fun j => if j = i then removed else removals j) (t₁ ++ t₂) := by
  have hrest : ∀ j ∈ rest, (if j = i then removed else removals j) = removals j := fun j hj =>
    if_neg fun heq => hid j hj (congrArg Instance.id heq)
  refine ⟨List.forall_mem_cons.mpr ⟨?_, fun j hj => ?_⟩, fun id hne => ?_, ?_⟩
  · obtain ⟨reason, t, hgives, hregarding⟩ := hi.gives
    refine ⟨reason, t, by rwa [if_pos rfl], ?_⟩
    rw [Trace.regarding_append, hregarding, h.others i.id hid, List.append_nil]
  · obtain ⟨reason, t, hgives, hregarding⟩ := h.gives j hj
    refine ⟨reason, t, by rwa [hrest j hj], ?_⟩
    rw [Trace.regarding_append, Trace.regarding_eq_nil hi.about (hid j hj), hregarding]
    rfl
  · obtain ⟨hne, hothers⟩ := List.forall_mem_cons.mp hne
    rw [Trace.regarding_append, Trace.regarding_eq_nil hi.about hne.symm, h.others id hothers]
    rfl
  · rw [Trace.notices_append, hi.told, List.flatMap_cons, if_pos rfl]
    refine List.Perm.append_left _ (h.told.trans (.of_eq ?_))
    exact List.flatMap_congr fun j hj => by rw [hrest j hj]

end Evictions

end GameFleet
