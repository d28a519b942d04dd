import GameFleet.Reclaim.Cycle

/-!
# Programs that keep to rules

Of a program one wants to know that it only asks for what it may ask for, whatever it is answered,
and what holds where it ends. What it may ask for, and where an answer leads, is given by rules over
states of some kind: what others have done to the fleet, what a thread has learned, what it has been
told so far, or what another program has still to do. How such a property passes from operations to
what is made of them does not depend on the rules, and is proved here once.

- `Program.Rules`: what may be asked for in a state, and where an answer may lead.
- `Program.Meets`: a program keeps to rules, and ends as it was promised.
- `Meets.bind`: one program after another; `Meets.simulate`: what keeps to rules keeps to others
  that follow them; `Meets.keeping`: with an invariant.
- `Meets.andThen`, `Meets.attempt`, `Meets.transaction` and others: how operations are put together.
- `Program.Only`: rules without a state, which only say what may be asked for; `Program.Asks`.
-/

namespace GameFleet

namespace Program

variable {Q : Type} {A : Q → Type} {σ τ α β : Type}

/-- What may be asked for in a state, and which states an answer may lead to. -/
structure Rules (Q : Type) (A : Q → Type) (σ : Type) where
  Allows : σ → Q → Prop
  Turns : σ → (q : Q) → A q → σ → Prop

/-- Whatever it is answered, a program only asks for what is allowed, and ends as was promised. -/
def Meets (L : Rules Q A σ) (R : α → σ → Prop) : Program Q A α → σ → Prop
  | .done a, s => R a s
  | .ask q next, s => L.Allows s q ∧ ∀ a s', L.Turns s q a s' → Meets L R (next a) s'

namespace Meets

variable {L : Rules Q A σ} {R R' : α → σ → Prop} {T : β → σ → Prop} {p : Program Q A α} {s : σ}

theorem mono (h : p.Meets L R s) (hR : ∀ a s, R a s → R' a s) : p.Meets L R' s := by
  induction p generalizing s with
  | done a => exact hR a s h
  | ask q next ih => exact ⟨h.1, fun a s' hturns => ih a (h.2 a s' hturns)⟩

/-- One program after another. -/
theorem bind {f : α → Program Q A β} (h : p.Meets L R s)
    (hf : ∀ a s', R a s' → (f a).Meets L T s') : (p.bind f).Meets L T s := by
  induction p generalizing s with
  | done a => exact hf a s h
  | ask q next ih => exact ⟨h.1, fun a s' hturns => ih a (h.2 a s' hturns)⟩

/-- A program that keeps to some rules keeps to others that allow as much, and whose states only
turn into such as the first ones account for. -/
theorem simulate {M : Rules Q A τ} {t : τ} (Sim : σ → τ → Prop) (h : p.Meets L R s)
    (hs : Sim s t) (hallows : ∀ s t q, Sim s t → L.Allows s q → M.Allows t q)
    (hturns : ∀ s t q a t', Sim s t → L.Allows s q → M.Turns t q a t' →
      ∃ s', L.Turns s q a s' ∧ Sim s' t') :
    p.Meets M (fun a t => ∃ s, Sim s t ∧ R a s) t := by
  -- Along the program the state stays related to one that the first rules lead to.
  induction p generalizing s t with
  | done a => exact ⟨s, hs, h⟩
  | ask q next ih =>
    refine ⟨hallows s t q hs h.1, fun a t' ht => ?_⟩
    obtain ⟨s', hs', hsim⟩ := hturns s t q a t' hs h.1 ht
    exact ih a (h.2 a s' hs') hsim

/-- What every allowed turn preserves holds where a program ends. -/
theorem keeping {I : σ → Prop} (h : p.Meets L R s) (hs : I s)
    (hI : ∀ s q a s', I s → L.Allows s q → L.Turns s q a s' → I s') :
    p.Meets L (fun a s => I s ∧ R a s) s := by
  refine (h.simulate (M := L) (fun s t => s = t ∧ I t) ⟨rfl, hs⟩ ?_ ?_).mono ?_
  · rintro s _ q ⟨rfl, -⟩ hq
    exact hq
  · rintro s _ q a s' ⟨rfl, hi⟩ hq hturns
    exact ⟨s', hturns, rfl, hI s q a s' hi hq hturns⟩
  · rintro a _ ⟨s, ⟨rfl, hi⟩, hR⟩
    exact ⟨hi, hR⟩

end Meets

end Program

/-! ## Operations -/

/-- A request is to look at the clock, to log something, or to tell it to somebody. -/
def Request.isRemark : Request → Bool
  | now => true
  | call (.log _) => true
  | call (.notify ..) => true
  | call (.console _) => true
  | _ => false

/-- Remarks are allowed, and do not change the state. -/
def Program.Rules.PassesRemarks {σ : Type} (L : Program.Rules Request Request.Answer σ) (s : σ) :
    Prop :=
  ∀ q, q.isRemark = true → L.Allows s q ∧ ∀ a s', L.Turns s q a s' → s' = s

namespace Program.Meets

variable {σ α β : Type} {L : Rules Request Request.Answer σ} {R : Outcome α → σ → Prop}
  {T : Outcome β → σ → Prop} {op : Op α} {s : σ}

theorem pure {a : α} (h : R (.ok a) s) : (Pure.pure a : Op α).run.Meets L R s := h

theorem throw {e : Failure} (h : R (.error e) s) :
    (MonadExcept.throw e : Op α).run.Meets L R s := h

theorem ask {q : Request} {R : Outcome q.Answer → σ → Prop} (hq : L.Allows s q)
    (h : ∀ a s', L.Turns s q a s' → R (.ok a) s') : (Op.ask q).run.Meets L R s := ⟨hq, h⟩

theorem call {c : Call} {R : Outcome c.Result → σ → Prop} (hc : L.Allows s (.call c))
    (h : ∀ o s', L.Turns s (.call c) o s' → R o s') : (Op.call c).run.Meets L R s := ⟨hc, h⟩

/-- One operation after another. The second is only begun when the first has not failed. -/
theorem andThen {f : α → Op β} (h : op.run.Meets L R s)
    (hok : ∀ a s', R (.ok a) s' → (f a).run.Meets L T s')
    (herr : ∀ e s', R (.error e) s' → T (.error e) s') : (op >>= f).run.Meets L T s := by
  refine bind h fun o s' ho => ?_
  cases o with
  | ok a => exact hok a s' ho
  | error e => exact herr e s' ho

/-- A question before anything else. -/
theorem askThen {q : Request} {f : q.Answer → Op β} (hq : L.Allows s q)
    (h : ∀ a s', L.Turns s q a s' → (f a).run.Meets L T s') :
    (Op.ask q >>= f).run.Meets L T s := ⟨hq, h⟩

theorem map {f : α → β} (h : op.run.Meets L (fun o => T (f <$> o)) s) :
    (f <$> op).run.Meets L T s := by
  refine bind h fun o s' ho => ?_
  cases o <;> exact ho

/-- An operation whose failure is a value. -/
theorem attempt {R : Outcome (Outcome α) → σ → Prop}
    (h : op.run.Meets L (fun o => R (.ok o)) s) : (Op.attempt op).run.Meets L R s :=
  bind h fun _ _ ho => ho

/-- An operation whose failure does not matter. -/
theorem bestEffort {R : Outcome Unit → σ → Prop} (h : op.run.Meets L (fun _ => R (.ok ())) s) :
    (Op.bestEffort op).run.Meets L R s :=
  bind (attempt (R := fun o s => ∃ x, o = .ok x ∧ R (.ok ()) s) (h.mono fun o _ h => ⟨o, rfl, h⟩))
    (by rintro _ _ ⟨_, rfl, h⟩; exact h)

/-- An operation in a transaction, which is given up when the operation has failed. -/
theorem transaction {I : Outcome Unit → σ → Prop} {P : Outcome α → σ → Prop}
    (hbegin : (Op.call .begin).run.Meets L I s)
    (hbody : ∀ s', I (.ok ()) s' → op.run.Meets L P s')
    (hnone : ∀ f s', I (.error f) s' → R (.error f) s')
    (hok : ∀ a s', P (.ok a) s' → R (.ok a) s')
    (hgive : ∀ f s', P (.error f) s' →
      (Op.ask .abandon).run.Meets L (fun _ => R (.error f)) s') :
    (Op.transaction op).run.Meets L R s := by
  refine andThen hbegin (fun _ s' hs' => ?_) hnone
  -- The failure of the operation is kept until the transaction has been given up.
  refine andThen (R := fun o s => ∃ x, o = .ok x ∧ P x s)
    (attempt ((hbody s' hs').mono fun x _ h => ⟨x, rfl, h⟩)) ?_ ?_
  · rintro x s'' ⟨_, ⟨⟩, hx⟩
    cases x with
    | ok a => exact hok a s'' hx
    | error f =>
      obtain ⟨hallows, hturns⟩ := hgive f s'' hx
      exact askThen hallows hturns
  · rintro e s'' ⟨_, ⟨⟩, -⟩

section Remarks

variable (hL : L.PassesRemarks s)
include hL

theorem remark {c : Call} (hc : (Request.call c).isRemark = true)
    {R : Outcome c.Result → σ → Prop} (h : ∀ o, R o s) : (Op.call c).run.Meets L R s := by
  refine call (hL _ hc).1 fun o s' hturns => ?_
  rw [(hL _ hc).2 o s' hturns]
  exact h o

theorem record {R : Outcome Unit → σ → Prop} (h : R (.ok ()) s) (actor message : String) :
    (Op.record actor message).run.Meets L R s := by
  refine askThen (hL .now rfl).1 fun now s' hturns => ?_
  rw [(hL .now rfl).2 now s' hturns]
  exact bestEffort (remark hL rfl fun _ => h)

theorem tell {R : Outcome Unit → σ → Prop} (h : R (.ok ()) s) (owner : OwnerId)
    (message : String) : (Op.tell owner message).run.Meets L R s :=
  bestEffort (remark hL rfl fun _ => h)

theorem command {R : Outcome String → σ → Prop} (h : ∀ o, R o s) (i : Instance) (text : String)
    (timeout : Span) : (Op.command i text timeout).run.Meets L R s := by
  unfold Op.command
  split
  · exact throw (h _)
  · exact remark hL rfl h

theorem say {R : Outcome Unit → σ → Prop} (h : ∀ o, R o s) (i : Instance) (message : String)
    (timeout : Span) : (Op.say i message timeout).run.Meets L R s :=
  andThen (R := fun _ s => ∀ o, R o s) (command hL (fun _ => h) i _ timeout)
    (fun _ _ h => h _) fun _ _ h => h _

end Remarks

end Program.Meets

/-! ## Rules without a state -/

namespace Program

/-- Some things may be asked for, and it does not matter what has been answered. -/
def Rules.only {Q : Type} {A : Q → Type} (P : Q → Prop) : Rules Q A Unit where
  Allows _ := P
  Turns _ _ _ _ := True

variable {α β : Type}

/-- An operation only asks for things of one kind, whatever it is answered, and what it gives has a
property. -/
def Only (P : Request → Prop) (R : α → Prop) (p : Running α) : Prop :=
  p.Meets (.only P) (fun o _ => ∀ a, o = .ok a → R a) ()

/-- An operation only asks for things of one kind. -/
abbrev Asks (P : Request → Prop) (p : Running α) : Prop := p.Only P fun _ => True

namespace Only

variable {P P' : Request → Prop} {R : α → Prop} {T : β → Prop} {op : Op α} {f : α → Op β}

theorem ask_iff {q : Request} {next : q.Answer → Running α} :
    Only P R (.ask q next) ↔ P q ∧ ∀ a, (next a).Only P R :=
  ⟨fun h => ⟨h.1, fun a => h.2 a () trivial⟩, fun h => ⟨h.1, fun a _ _ => h.2 a⟩⟩

/-- What only asks for things of one kind only asks for things of a wider one. -/
theorem widen {p : Running α} (h : p.Only P R) (hP : ∀ q, P q → P' q) : p.Only P' R := by
  refine (Meets.simulate (M := .only P') (fun _ _ => True) h trivial (fun _ _ q _ => hP q) ?_).mono
    fun _ _ ⟨_, _, h⟩ => h
  exact fun _ _ _ _ _ _ _ _ => ⟨(), trivial, trivial⟩

theorem pure {a : α} (h : R a) : Only P R (Pure.pure a : Op α).run := by
  refine Meets.pure ?_
  rintro _ ⟨⟩
  exact h

theorem throw (e : Failure) : Only P R (MonadExcept.throw e : Op α).run :=
  Meets.throw fun _ => nofun

theorem ask {q : Request} (hq : P q) : Only P (fun _ => True) (Op.ask q).run :=
  Meets.ask hq fun _ _ _ _ _ => trivial

theorem call {c : Call} (hc : P (.call c)) : Only P (fun _ => True) (Op.call c).run :=
  Meets.call hc fun _ _ _ _ _ => trivial

/-- One operation after another. The second is only begun when the first has not failed. -/
theorem andThen (h : Only P R op.run) (hf : ∀ a, R a → Only P T (f a).run) :
    Only P T (op >>= f).run :=
  Meets.andThen h (fun a _ ha => hf a (ha a rfl)) fun _ _ _ => nofun

/-- An operation whose failure is a value. -/
theorem attempt (h : Only P R op.run) : Only P (fun _ => True) (Op.attempt op).run :=
  Meets.attempt (Meets.mono h fun _ _ _ _ _ => trivial)

theorem bestEffort (h : Only P R op.run) : Only P (fun _ => True) (Op.bestEffort op).run :=
  Meets.bestEffort (Meets.mono h fun _ _ _ _ _ => trivial)

/-- An operation inside a transaction. -/
theorem transaction (hbegin : P (.call .begin)) (hgive : P .abandon) (h : Only P R op.run) :
    Only P R (Op.transaction op).run :=
  Meets.transaction (call hbegin) (fun _ _ => h) (fun _ _ _ => nofun) (fun _ _ h => h)
    fun _ _ _ => Meets.ask hgive fun _ _ _ => nofun

section Remarks

variable (hP : ∀ q : Request, q.isRemark = true → P q)
include hP

theorem passesRemarks : (Rules.only P : Rules Request Request.Answer Unit).PassesRemarks () :=
  fun q hq => ⟨hP q hq, fun _ _ _ => rfl⟩

theorem record (actor message : String) :
    Only P (fun _ => True) (Op.record actor message).run :=
  Meets.record (passesRemarks hP) (fun _ _ => trivial) actor message

theorem tell (owner : OwnerId) (message : String) :
    Only P (fun _ => True) (Op.tell owner message).run :=
  Meets.tell (passesRemarks hP) (fun _ _ => trivial) owner message

theorem command (i : Instance) (text : String) (timeout : Span) :
    Only P (fun _ => True) (Op.command i text timeout).run :=
  Meets.command (passesRemarks hP) (fun _ _ _ => trivial) i text timeout

theorem say (i : Instance) (message : String) (timeout : Span) :
    Only P (fun _ => True) (Op.say i message timeout).run :=
  Meets.say (passesRemarks hP) (fun _ _ _ => trivial) i message timeout

end Remarks

end Only

end Program

end GameFleet
