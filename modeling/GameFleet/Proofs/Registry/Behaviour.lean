import GameFleet.Proofs.Registry.Conduct
import GameFleet.Proofs.Work.Logic

/-!
# Programs that behave

A program of a role behaves when it only asks for what is allowed, whatever the answers are and
whatever others do before each of its questions, and ends in what was promised.

- `Program.Plain`: programs that only make plain calls.
- `Registry.rules`, `Registry.Behaves`: programs that behave.
- `Behaves.keeping`: what holds of a role and the registry all along; `Behaves.andThen`,
  `Behaves.transaction`: operations one after another, with that.
- `Behaves.of_plain`: plain programs behave, and nothing that their role relies on changes.
-/

namespace GameFleet

open Program

variable {α β : Type}

/-! ### Plain programs -/

/-- Whether a request neither uses a transaction, nor deploys or ends anything, nor needs a new
identifier. -/
def Request.isPlain : Request → Bool
  | call c => c.isPlain
  | freshId => false
  | abandon => false
  | _ => true

theorem Request.isPlain_of_isRemark (q : Request) (h : q.isRemark = true) : q.isPlain = true := by
  cases q with
  | call c => cases c <;> first | rfl | cases h
  | now => rfl
  | _ => cases h

/-- A program only makes plain calls. -/
abbrev Program.Plain (p : Running α) : Prop := p.Asks fun q => q.isPlain = true

/-! ### Programs that behave -/

namespace Registry

/-- The identifiers that a role owns once a request is answered. -/
def grown (own : List Uuid) : (q : Request) → q.Answer → List Uuid
  | .freshId, id => (id : Uuid) :: own
  | _, _ => own

/-- What a role may ask for whatever others do before, and what an answer leads to. A state is the
identifiers that the role owns, and the registry that it left. -/
def rules (r : Role) : Rules Request Request.Answer (List Uuid × Registry) where
  Allows s q := ∀ b, Beside r s.1 s.2 b → b.Allows r s.1 q
  Turns s q a s' := ∃ b locking, Beside r s.1 s.2 b ∧ b.Serves locking r.thread q a s'.2 ∧
    s'.1 = grown s.1 q a

/-- A program of a role that owns some identifiers only asks for what is allowed, and ends in what
was promised. -/
def Behaves (r : Role) (Q : α → Registry → Prop) (own : List Uuid)
    (p : Program Request Request.Answer α) (b : Registry) : Prop :=
  p.Meets (rules r) (fun a s => ∀ b', Beside r s.1 s.2 b' → Q a b') (own, b)

variable {r : Role} {Q : α → Registry → Prop} {R : β → Registry → Prop} {own : List Uuid}
  {b b' : Registry} {q : Request}

theorem mem_grown {id : Uuid} (h : id ∈ own) (a : q.Answer) : id ∈ grown own q a := by
  cases q <;> first | exact h | exact List.mem_cons_of_mem _ h

/-- What a role comes to own was not given before. -/
theorem mem_grown_cases {locking : Bool} {a : q.Answer} {id : Uuid} (h : id ∈ grown own q a)
    (hs : b.Serves locking r.thread q a b') :
    id ∈ own ∨ (id ∉ b.given ∧ id ∈ b'.given) := by
  cases q with
  | freshId =>
    obtain ⟨hn, rfl⟩ := hs
    rcases List.mem_cons.mp h with rfl | h
    · exact .inr ⟨hn, List.mem_cons_self ..⟩
    · exact .inl h
  | _ => exact .inl h

/-! A role may make plain requests, and they change nothing that it relies on. -/

theorem grown_of_isPlain (hq : q.isPlain = true) (a : q.Answer) : grown own q a = own := by
  cases q with
  | freshId => cases hq
  | _ => rfl

theorem Allows.of_isPlain (hr : ¬Refused r.thread b.ledger) (hq : q.isPlain = true) :
    b.Allows r own q := by
  cases q with
  | call c =>
    have hc : c.isPlain = true := hq
    refine ⟨hr, fun k _ => ⟨Call.isMild_of_isPlain hc, fun id hid => ?_⟩, ?_⟩
    · rw [Call.ends?_of_isPlain hc] at hid
      cases hid
    · cases c <;> trivial
  | freshId => cases hq
  | abandon => cases hq
  | _ => exact hr

theorem Beside.of_isPlain {locking : Bool} {a : q.Answer} (hs : b.Sane) (ha : b.Allows r own q)
    (h : b.Serves locking r.thread q a b') (hq : q.isPlain = true) : Beside r own b b' := by
  cases q with
  | call c => exact .of_plain (ha.sane hs h) h hq
  | now =>
    obtain rfl : b' = b := h
    exact .refl hs
  | freshId => cases hq
  | abandon => cases hq
  | isQueued =>
    obtain rfl : b' = b := h
    exact .refl hs
  | enqueue =>
    obtain ⟨id, -, rfl⟩ := h
    exact .give hs id

namespace Behaves

theorem ask_iff {next : q.Answer → Program Request Request.Answer α} :
    Behaves r Q own (.ask q next) b ↔ ∀ b', Beside r own b b' → b'.Allows r own q ∧
      ∀ locking a b'', b'.Serves locking r.thread q a b'' →
        Behaves r Q (grown own q a) (next a) b'' := by
  constructor
  · rintro ⟨hallows, hturns⟩ b' hb
    refine ⟨hallows b' hb, fun locking a b'' hserves => ?_⟩
    exact hturns a (_, b'') ⟨b', locking, hb, hserves, rfl⟩
  · intro h
    refine ⟨fun b' hb => (h b' hb).1, ?_⟩
    rintro a ⟨_, b''⟩ ⟨b', locking, hb, hserves, rfl⟩
    exact (h b' hb).2 locking a b'' hserves

/-- A program that behaves may ask for what it asks for, and goes on behaving. -/
theorem asks {next : q.Answer → Program Request Request.Answer α} (hs : b.Sane)
    (h : Behaves r Q own (.ask q next) b) : b.Allows r own q ∧
      ∀ locking a b', b.Serves locking r.thread q a b' → Behaves r Q (grown own q a) (next a) b' :=
  ask_iff.mp h b (.refl hs)

/-- Whatever others do, a program goes on behaving. -/
theorem beside {p : Program Request Request.Answer α} (h : Behaves r Q own p b)
    (hb : Beside r own b b') : Behaves r Q own p b' := by
  cases p with
  | done a => exact fun b'' hb' => h b'' (hb.trans hb')
  | ask q next => exact ask_iff.mpr fun b'' hb' => ask_iff.mp h b'' (hb.trans hb')

theorem mono {p : Program Request Request.Answer α} {Q' : α → Registry → Prop}
    (h : Behaves r Q own p b) (hQ : ∀ a b, Q a b → Q' a b) : Behaves r Q' own p b :=
  Meets.mono h fun a _ ha b' hb => hQ a b' (ha b' hb)

/-- A role keeps what it owns, and the registry grows and stays in order. -/
theorem keeping {p : Program Request Request.Answer α} (hs : b.Sane) (h : Behaves r Q own p b) :
    p.Meets (rules r) (fun a s => ((∀ id ∈ own, id ∈ s.1) ∧ b.Grows s.2 ∧ s.2.Sane) ∧
      ∀ b', Beside r s.1 s.2 b' → Q a b') (own, b) := by
  refine Meets.keeping h ⟨fun _ h => h, .refl, hs⟩ ?_
  rintro ⟨own', b'⟩ q a ⟨_, b₃⟩ ⟨ho, hg, hs'⟩ hallows ⟨b'', locking, hb, hserves, rfl⟩
  refine ⟨fun id hid => mem_grown (ho id hid) a, ?_, (hallows b'' hb).sane hb.sane hserves⟩
  exact (hg.trans hb.grows).trans hserves.grows

/-- One operation after another. The second is only begun when the first has not failed. -/
theorem andThen {op : Op α} {f : α → Op β} {Q : Outcome α → Registry → Prop}
    {R : Outcome β → Registry → Prop} (hs : b.Sane) (h : Behaves r Q own op.run b)
    (hok : ∀ own' a b', (∀ id ∈ own, id ∈ own') → b.Grows b' → b'.Sane → Q (.ok a) b' →
      Behaves r R own' (f a).run b')
    (herr : ∀ e b', Q (.error e) b' → R (.error e) b') : Behaves r R own (op >>= f).run b := by
  refine Meets.andThen (h.keeping hs) ?_ fun e _ h b' hb => herr e b' (h.2 b' hb)
  rintro a ⟨own', b'⟩ ⟨⟨ho, hg, hs'⟩, hq⟩
  exact hok own' a b' ho hg hs' (hq b' (.refl hs'))

/-- A call. -/
theorem call {c : Call} {Q : Outcome c.Result → Registry → Prop}
    (h : ∀ b', Beside r own b b' → b'.Allows r own (.call c) ∧
      ∀ locking o b'', b'.Answers locking r.thread c o b'' → ∀ b₃, Beside r own b'' b₃ → Q o b₃) :
    Behaves r Q own (Op.call c).run b := ask_iff.mpr h

/-- An operation in a transaction, which is given up when the operation has failed. -/
theorem transaction {body : Op α} {Q P : Outcome α → Registry → Prop}
    {I : Outcome Unit → Registry → Prop} (hs : b.Sane)
    (hbegin : Behaves r I own (Op.call .begin).run b)
    (hbody : ∀ own' a b', (∀ id ∈ own, id ∈ own') → b.Grows b' → b'.Sane → I (.ok a) b' →
      Behaves r P own' body.run b')
    (hok : ∀ a b, P (.ok a) b → Q (.ok a) b)
    (hnone : ∀ f b, I (.error f) b → Q (.error f) b)
    (hgive : ∀ own f b, b.Sane → P (.error f) b → b.Allows r own .abandon ∧
      ∀ b', Beside r own (b.abandon r.thread) b' → Q (.error f) b') :
    Behaves r Q own (Op.transaction body).run b := by
  refine Meets.transaction (hbegin.keeping hs)
    (P := fun o s => s.2.Sane ∧ ∀ b', Beside r s.1 s.2 b' → P o b') ?_
    (fun f _ h b' hb => hnone f b' (h.2 b' hb)) (fun a _ h b' hb => hok a b' (h.2 b' hb)) ?_
  · rintro ⟨own', b'⟩ ⟨⟨ho, hg, hs'⟩, hi⟩
    have hbody := hbody own' () b' ho hg hs' (hi b' (.refl hs'))
    exact (hbody.keeping hs').mono fun o s h => ⟨h.1.2.2, h.2⟩
  · rintro f ⟨own', b'⟩ ⟨hs', hp⟩
    refine ask_iff.mpr fun b'' hb => ?_
    obtain ⟨hallows, hq⟩ := hgive own' f b'' hb.sane (hp b'' hb)
    refine ⟨hallows, fun locking _ b₃ hserves => ?_⟩
    obtain rfl : b₃ = b''.abandon r.thread := hserves
    exact hq

/-- A plain program behaves, and changes nothing that its role relies on. -/
theorem of_plain {p : Running α} (hs : b.Sane) (hp : p.Plain)
    (hr : ¬Refused r.thread b.ledger) : Behaves r (fun _ b' => Beside r own b b') own p b := by
  have hallows : ∀ b', Beside r own b b' → ∀ q : Request, q.isPlain = true → b'.Allows r own q :=
    fun b' hb q hq => .of_isPlain (fun hr' => hr (hb.refused_iff.mp hr')) hq
  -- What others do and what the program itself asks for are both beside the role, turn after turn.
  refine (Meets.simulate (M := rules r) (fun _ s => s.1 = own ∧ Beside r own b s.2) hp
    ⟨rfl, .refl hs⟩ ?_ ?_).mono ?_
  · rintro _ ⟨_, b'⟩ q ⟨rfl, hb⟩ hq b'' hb'
    exact hallows b'' (hb.trans hb') q hq
  · rintro _ ⟨_, b'⟩ q a ⟨_, b₃⟩ ⟨rfl, hb⟩ hq ⟨b'', locking, hb', hserves, rfl⟩
    have hbeside := hb.trans hb'
    have hplain := Beside.of_isPlain hbeside.sane (hallows b'' hbeside q hq) hserves hq
    exact ⟨(), trivial, grown_of_isPlain hq a, hbeside.trans hplain⟩
  · rintro _ ⟨_, b'⟩ ⟨_, ⟨rfl, hb⟩, -⟩ b'' hb'
    exact hb.trans hb'

end Behaves

end Registry

end GameFleet
