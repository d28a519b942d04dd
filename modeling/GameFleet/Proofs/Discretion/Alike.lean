import GameFleet.Admission
import GameFleet.Http.Route
import GameFleet.Proofs.Work.Logic
import GameFleet.Termination

/-!
# What the texts of failures decide

Failures inside the fleet carry texts for those who run it. An operation passes failures on, drops
them or replaces them, and does not look at these texts: whatever they are it asks for the same, and
gives the same up to such texts.

- `Failure.Alike`: failures that differ in such texts at most; `Failure.Alike.reply_eq`: a client is
  told the same of them.
- `Program.Rules.alongside`, `Program.Agree`: programs that ask for the same and give alike values
  as long as their answers are alike. To agree with another program is to keep to rules whose state
  is what the other one has still to do.
- `Op.Agree`: operations that do; what is made of agreeing operations agrees
  (`Op.Agree.andThen`, `Op.Agree.attempt`, `Op.Agree.transaction` and others).
- `Admission.grant_agree`, `Termination.removeOwned_agree`: admission and removal agree with
  themselves.
-/

namespace GameFleet

variable {α β γ δ : Type}

/-! ## Alike failures and answers -/

/-- Failures that differ at most in texts that are not written for whoever asked. -/
inductive Failure.Alike : Failure → Failure → Prop where
  | same (f : Failure) : Alike f f
  | store (e e' : Store.Failure) : Alike (.store e) (.store e')
  | internal (m m' : String) : Alike (.internal m) (.internal m')
  | reclamation (policy policy' : String) (failures failures' : List String) :
    Alike (.reclamation policy failures) (.reclamation policy' failures')

/-- A client is told the same of alike failures. -/
theorem Failure.Alike.reply_eq {f f' : Failure} (h : f.Alike f') :
    Http.Reply.ofFailure f = Http.Reply.ofFailure f' := by
  cases h <;> rfl

/-- Outcomes that are related values or alike failures. -/
inductive Outcome.Alike (R : α → β → Prop) : Outcome α → Outcome β → Prop where
  | ok {a : α} {b : β} (h : R a b) : Alike R (.ok a) (.ok b)
  | error {f f' : Failure} (h : f.Alike f') : Alike R (.error f) (.error f')

/-- Answers to a request that are the same, but for the texts of a call's failure. -/
def Request.Alike : (q : Request) → q.Answer → q.Answer → Prop
  | .call c => Outcome.Alike (α := c.Result) Eq
  | _ => Eq

/-! ## Programs -/

/-- Only what another program asks for may be asked for, and that one gets an answer alike. A state
is what the other one has still to do. -/
def Program.Rules.alongside (β : Type) :
    Rules Request Request.Answer (Program Request Request.Answer β) where
  Allows p q := ∃ next, p = .ask q next
  Turns p q a p' := ∃ next a', p = .ask q next ∧ q.Alike a a' ∧ p' = next a'

/-- Programs that ask for the same and give related values as long as their answers are alike. -/
def Program.Agree (R : α → β → Prop) (p : Program Request Request.Answer α)
    (p' : Program Request Request.Answer β) : Prop :=
  p.Meets (.alongside β) (fun a s => ∃ b, s = .done b ∧ R a b) p'

namespace Program.Agree

variable {R : α → β → Prop} {p : Program Request Request.Answer α}
  {p' : Program Request Request.Answer β}

theorem done {a : α} {b : β} (h : R a b) : Agree R (.done a) (.done b) := ⟨b, rfl, h⟩

theorem ask {q : Request} {next : q.Answer → Program Request Request.Answer α}
    {next' : q.Answer → Program Request Request.Answer β}
    (h : ∀ a a', q.Alike a a' → Agree R (next a) (next' a')) :
    Agree R (.ask q next) (.ask q next') := by
  refine ⟨⟨next', rfl⟩, ?_⟩
  rintro a _ ⟨_, a', ⟨⟩, ha, rfl⟩
  exact h a a' ha

/-- The other program may have something to do afterwards. -/
theorem meets_bind (h : Agree R p p') (g : β → Program Request Request.Answer δ) :
    p.Meets (.alongside δ) (fun a s => ∃ b, s = g b ∧ R a b) (p'.bind g) := by
  refine (Meets.simulate (M := .alongside δ) (fun s t => t = s.bind g) h rfl ?_ ?_).mono ?_
  · rintro _ _ q rfl ⟨next, rfl⟩
    exact ⟨_, rfl⟩
  · rintro _ _ q a t' rfl ⟨next, rfl⟩ ⟨_, a', ⟨⟩, ha, rfl⟩
    exact ⟨next a', ⟨next, a', rfl, ha, rfl⟩, rfl⟩
  · rintro a _ ⟨_, rfl, b, rfl, hR⟩
    exact ⟨b, rfl, hR⟩

end Program.Agree

/-! ## Operations -/

namespace Op

/-- Operations that ask for the same and end alike as long as their answers are alike. -/
def Agree (R : α → β → Prop) (op : Op α) (op' : Op β) : Prop :=
  Program.Agree (Outcome.Alike R) op.run op'.run

namespace Agree

variable {R : α → β → Prop} {T : γ → δ → Prop}

theorem pure {a : α} {b : β} (h : R a b) : Agree R (Pure.pure a) (Pure.pure b) := .done (.ok h)

theorem throw {f f' : Failure} (h : f.Alike f') :
    Agree R (MonadExcept.throw f : Op α) (MonadExcept.throw f' : Op β) := .done (.error h)

theorem ask (q : Request) : Agree q.Alike (Op.ask q) (Op.ask q) :=
  Program.Agree.ask fun _ _ h => .done (.ok h)

theorem call (c : Call) : Agree Eq (Op.call c) (Op.call c) := Program.Agree.ask fun _ _ h => .done h

/-- One operation after another. A failure of the first is that of both. -/
theorem andThen {op : Op α} {op' : Op β} {f : α → Op γ} {f' : β → Op δ} (h : Agree R op op')
    (hf : ∀ a b, R a b → Agree T (f a) (f' b)) : Agree T (op >>= f) (op' >>= f') := by
  refine Program.Meets.andThen (Program.Agree.meets_bind h (ExceptT.bindCont f')) ?_ ?_
  · rintro a _ ⟨_, rfl, ho⟩
    cases ho with
    | ok h => exact hf a _ h
  · rintro e _ ⟨_, rfl, ho⟩
    cases ho with
    | error h => exact ⟨_, rfl, .error h⟩

/-- One operation after another that both have in common. -/
theorem andThenSame {op : Op α} {f : α → Op γ} {f' : α → Op δ} (h : Agree Eq op op)
    (hf : ∀ a, Agree T (f a) (f' a)) : Agree T (op >>= f) (op >>= f') :=
  h.andThen fun a _ heq => heq ▸ hf a

/-- An operation that is attempted gives its failure as a value, with its texts. -/
theorem attempt {op : Op α} {op' : Op β} (h : Agree R op op') :
    Agree (Outcome.Alike R) (Op.attempt op) (Op.attempt op') := by
  have hrest := Program.Agree.meets_bind h fun o' : Outcome β =>
    .done (.ok o' : Outcome (Outcome β))
  refine Program.Meets.attempt (hrest.mono ?_)
  rintro o _ ⟨o', rfl, ho⟩
  exact ⟨.ok o', rfl, .ok ho⟩

theorem bestEffort {op : Op α} {op' : Op β} (h : Agree R op op') :
    Agree Eq (Op.bestEffort op) (Op.bestEffort op') :=
  h.attempt.andThen fun _ _ _ => .pure rfl

theorem record (actor message : String) :
    Agree Eq (Op.record actor message) (Op.record actor message) :=
  (Agree.ask .now).andThen fun _ _ (h : _ = _) => h ▸ (Agree.call _).bestEffort

/-- A transaction passes the failure of what is done in it on, after it was given up. -/
theorem transaction {op : Op α} {op' : Op β} (h : Agree R op op') :
    Agree R (Op.transaction op) (Op.transaction op') := by
  refine (Agree.call .begin).andThenSame fun _ => h.attempt.andThen ?_
  intro o o' ho
  cases ho with
  | ok h => exact .pure h
  | error h => exact (Agree.ask .abandon).andThen fun _ _ _ => .throw h

end Agree

end Op

/-! ## Admission -/

namespace Admission

open Op (Agree)

theorem creditGate_agree (owner : OwnerId) : Agree Eq (creditGate owner) (creditGate owner) := by
  refine (Agree.call _).andThenSame fun balance => ?_
  split
  · exact (Agree.record _ _).andThenSame fun _ => .throw (.same _)
  · exact .pure rfl

theorem gates_agree (billing : Bool) (owner : OwnerId) :
    Agree Eq (gates billing owner) (gates billing owner) := by
  refine (Agree.call (.identity owner)).andThenSame fun identity => ?_
  match identity with
  | none => exact .throw (.same _)
  | some identity =>
    refine (Agree.call (.ban owner identity)).andThenSame fun ban => ?_
    match ban with
    | some ban => exact .throw (.same _)
    | none =>
      cases billing with
      | false => exact .pure rfl
      | true => exact (creditGate_agree owner).andThenSame fun _ => .pure rfl

theorem reserve_agree (pending : Instance) : Agree Eq (reserve pending) (reserve pending) := by
  refine .transaction ((Agree.call (.ownersInTransaction pending.owner)).andThenSame fun rows => ?_)
  have hwrite := (Agree.call (.write pending)).andThenSame fun _ => Agree.call .commit
  split
  · exact .throw (.same _)
  · exact hwrite

theorem promote_agree (ready : Instance) : Agree Eq (promote ready) (promote ready) := by
  refine .transaction ((Agree.call (.lockInstance ready.id)).andThenSame fun row => ?_)
  split
  · exact (Agree.ask .abandon).andThen fun _ _ _ => .pure rfl
  · exact (Agree.call (.write ready)).andThenSame fun _ =>
      (Agree.call .commit).andThenSame fun _ => .pure rfl

theorem overridesOf_agree (guild : Option String) :
    Agree Eq (overridesOf guild) (overridesOf guild) := by
  cases guild with
  | none => exact .pure rfl
  | some guild => exact Agree.call (.overrides guild)

theorem reserveFor_agree (r : AdmissionRequest) : Agree Eq (reserveFor r) (reserveFor r) := by
  refine (Agree.ask .freshId).andThen fun id id' (hid : id = id') => ?_
  refine (Agree.ask .now).andThen fun now now' (hnow : now = now') => ?_
  subst hid hnow
  exact (reserve_agree _).andThenSame fun _ => .pure rfl

theorem deployPending_agree (pending : Instance) (identity : String) :
    Agree Eq (deployPending pending identity) (deployPending pending identity) :=
  (overridesOf_agree _).andThenSame fun _ => (Agree.call _).andThenSame fun _ => .pure rfl

theorem grant_agree (billing : Bool) (r : AdmissionRequest) :
    Agree Eq (grant billing r) (grant billing r) := by
  refine (gates_agree billing r.owner).andThenSame fun identity => ?_
  refine (reserveFor_agree r).andThenSame fun pending => ?_
  refine (deployPending_agree pending identity).andThenSame fun ready => ?_
  refine (promote_agree ready).andThenSame fun promoted => ?_
  cases promoted with
  | true => exact (Agree.record _ _).andThenSame fun _ => .pure rfl
  | false => exact (Agree.call _).bestEffort.andThenSame fun _ => .throw (.same _)

end Admission

/-! ## Removal -/

namespace Termination

open Op (Agree)

theorem terminate_agree (i : Instance) (reason : String) :
    Agree Eq (terminate i reason) (terminate i reason) :=
  (Agree.call _).andThenSame fun _ => (Agree.call _).andThenSame fun _ =>
    (Agree.call _).andThenSame fun _ => .record _ _

theorem terminateAll_agree (reason : String) (rows : List Instance) :
    Agree Eq (terminateAll reason rows) (terminateAll reason rows) := by
  induction rows with
  | nil => exact .pure rfl
  | cons i rest ih =>
    exact (terminate_agree i reason).andThenSame fun _ => ih.andThenSame fun _ => .pure rfl

theorem removeOwned_agree (owner : OwnerId) :
    Agree Eq (removeOwned owner) (removeOwned owner) := by
  refine (Agree.call (.ownersInstances owner)).andThenSame fun rows => ?_
  split
  · exact (Agree.record _ _).andThenSame fun _ => .throw (.same _)
  · exact terminateAll_agree _ _

end Termination

end GameFleet
