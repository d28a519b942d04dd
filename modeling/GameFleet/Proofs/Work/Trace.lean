import GameFleet.Proofs.Work.Logic

/-!
# What an operation asks, and what it is told

- `Program.Reply`: a question with its answer.
- `Program.Gives`: a program that gets certain answers gives a value.
- `Program.trace`: the questions and answers of a program whose every question is answered;
  `Program.gives_trace`: with these it gives its value.
- `Program.meets_tracing`: what a program gives is what it meets when nothing is forbidden and the
  state is what was asked and answered so far.
- `Program.Gives.of_andThen`, `Program.Gives.of_call` and others: what an operation made of others
  asks is what they ask.
- `Called`: a call with its outcome.
-/

namespace GameFleet

namespace Program

variable {Q : Type} {A : Q → Type} {α β : Type}

/-- A question with its answer. -/
abbrev Reply (Q : Type) (A : Q → Type) := (q : Q) × A q

/-- A program that gets certain answers, one after another, gives a value. -/
inductive Gives : Program Q A α → List (Reply Q A) → α → Prop where
  | done (a : α) : Gives (.done a) [] a
  | ask (q : Q) (next : A q → Program Q A α) (a : A q) {t : List (Reply Q A)} {v : α}
    (h : Gives (next a) t v) : Gives (.ask q next) (⟨q, a⟩ :: t) v

/-- The questions and answers of a program whose every question is answered. -/
def trace {σ : Type} (answer : σ → (q : Q) → A q × σ) : σ → Program Q A α → List (Reply Q A)
  | _, done _ => []
  | s, ask q next => ⟨q, (answer s q).1⟩ :: trace answer (answer s q).2 (next (answer s q).1)

/-- A program gives its value with the answers that it gets. -/
theorem gives_trace {σ : Type} (answer : σ → (q : Q) → A q × σ) (s : σ) (p : Program Q A α) :
    p.Gives (p.trace answer s) (p.answered answer s).1 := by
  induction p generalizing s with
  | done a => exact .done a
  | ask q next ih => exact .ask q next _ (ih _ _)

/-- Everything may be asked for; the state is what was asked and answered so far. -/
def Rules.tracing : Rules Q A (List (Reply Q A)) where
  Allows _ _ := True
  Turns t q a t' := t' = t ++ [⟨q, a⟩]

/-- What a program meets under these rules is what holds of whatever it gives. -/
theorem meets_tracing {R : α → List (Reply Q A) → Prop} {p : Program Q A α}
    {t : List (Reply Q A)} :
    p.Meets .tracing R t ↔ ∀ t' v, p.Gives t' v → R v (t ++ t') := by
  -- The induction moves each question from what is still to come to what was asked already.
  induction p generalizing t with
  | done a =>
    constructor
    · rintro h _ _ ⟨⟩
      rwa [List.append_nil]
    · intro h
      have hdone := h [] a (.done a)
      rwa [List.append_nil] at hdone
  | ask q next ih =>
    constructor
    · rintro ⟨-, h⟩ _ v hgives
      cases hgives with
      | ask q next a hgives =>
        rw [List.append_cons]
        exact (ih a).mp (h a _ rfl) _ v hgives
    · refine fun h => ⟨trivial, ?_⟩
      rintro a _ rfl
      refine (ih a).mpr fun t' v hgives => ?_
      rw [List.append_assoc]
      exact h _ v (.ask q next a hgives)

/-- A program meets what it gives. -/
theorem meets_gives (p : Program Q A α) : p.Meets .tracing (fun v t => p.Gives t v) [] :=
  meets_tracing.mpr fun _ _ h => h

end Program

/-! ### Operations -/

/-- What an operation asks, with the answers. -/
abbrev Trace := List (Program.Reply Request Request.Answer)

namespace Program.Gives

variable {α β : Type} {op : Op α} {f : α → Op β} {t : Trace} {e : Failure} {r : Request} {c : Call}

theorem of_pure {a : α} {v : Outcome α} (h : (pure a : Op α).run.Gives t v) :
    t = [] ∧ v = .ok a := by
  cases h
  exact ⟨rfl, rfl⟩

theorem of_throw {v : Outcome α} (h : (throw e : Op α).run.Gives t v) : t = [] ∧ v = .error e := by
  cases h
  exact ⟨rfl, rfl⟩

/-- What is met by an operation holds of what it gives. -/
theorem of_meets {R : α → Trace → Prop} {p : Program Request Request.Answer α} {v : α}
    (h : p.Gives t v) (hp : p.Meets .tracing R []) : R v t :=
  meets_tracing.mp hp t v h

/-- One operation after another. The second is only begun when the first has not failed. -/
theorem of_andThen {v : Outcome β} (h : (op >>= f).run.Gives t v) :
    (∃ t₁ a t₂, t = t₁ ++ t₂ ∧ op.run.Gives t₁ (.ok a) ∧ (f a).run.Gives t₂ v) ∨
    ∃ e, v = .error e ∧ op.run.Gives t (.error e) := by
  refine h.of_meets (R := fun v t =>
    (∃ t₁ a t₂, t = t₁ ++ t₂ ∧ op.run.Gives t₁ (.ok a) ∧ (f a).run.Gives t₂ v) ∨
    ∃ e, v = .error e ∧ op.run.Gives t (.error e)) (Meets.andThen op.run.meets_gives ?_ ?_)
  · exact fun a t₁ h₁ => meets_tracing.mpr fun t₂ v h₂ => .inl ⟨t₁, a, t₂, rfl, h₁, h₂⟩
  · exact fun e t h => .inr ⟨e, rfl, h⟩

theorem of_ask {v : Outcome r.Answer} (h : (Op.ask r).run.Gives t v) :
    ∃ a, t = [⟨r, a⟩] ∧ v = .ok a := by
  cases h with
  | ask _ _ a h =>
    cases h
    exact ⟨a, rfl, rfl⟩

theorem of_call {v : Outcome c.Result} (h : (Op.call c).run.Gives t v) : t = [⟨.call c, v⟩] := by
  cases h with
  | ask _ _ a h =>
    cases h
    rfl

/-- A question before anything else. -/
theorem of_askThen {g : r.Answer → Op β} {v : Outcome β} (h : (Op.ask r >>= g).run.Gives t v) :
    ∃ a t', t = ⟨r, a⟩ :: t' ∧ (g a).run.Gives t' v := by
  obtain ⟨t₁, _, t₂, rfl, h₁, h₂⟩ | ⟨e, -, hask⟩ := of_andThen h
  · obtain ⟨a, rfl, ha⟩ := of_ask h₁
    cases ha
    exact ⟨_, t₂, rfl, h₂⟩
  · obtain ⟨_, -, he⟩ := of_ask hask
    cases he

/-- A call before anything else. -/
theorem of_callThen {g : c.Result → Op β} {v : Outcome β} (h : (Op.call c >>= g).run.Gives t v) :
    (∃ x t', t = ⟨.call c, .ok x⟩ :: t' ∧ (g x).run.Gives t' v) ∨
    ∃ e, t = [⟨.call c, .error e⟩] ∧ v = .error e := by
  obtain ⟨t₁, x, t₂, rfl, h₁, h₂⟩ | ⟨e, rfl, hcall⟩ := of_andThen h
  · obtain rfl := of_call h₁
    exact .inl ⟨x, t₂, rfl, h₂⟩
  · exact .inr ⟨e, of_call hcall, rfl⟩

/-- An operation that is attempted gives what it would have given, or its failure. -/
theorem of_attempt {v : Outcome (Outcome α)} (h : (Op.attempt op).run.Gives t v) :
    ∃ o, v = .ok o ∧ op.run.Gives t o := by
  refine h.of_meets (R := fun v t => ∃ o, v = .ok o ∧ op.run.Gives t o) (Meets.attempt ?_)
  exact op.run.meets_gives.mono fun o _ h => ⟨o, rfl, h⟩

/-- An operation whose failure does not matter is carried out all the same. -/
theorem of_bestEffort {v : Outcome Unit} (h : (Op.bestEffort op).run.Gives t v) :
    v = .ok () ∧ ∃ o, op.run.Gives t o := by
  refine h.of_meets (R := fun v t => v = .ok () ∧ ∃ o, op.run.Gives t o) (Meets.bestEffort ?_)
  exact op.run.meets_gives.mono fun o _ h => ⟨rfl, o, h⟩

/-- An event is logged with the time, and it does not matter what comes of it. -/
theorem of_record {actor message : String} {v : Outcome Unit}
    (h : (Op.record actor message).run.Gives t v) :
    ∃ now o, t = [⟨.now, now⟩, ⟨.call (.log ⟨message, actor, now⟩), o⟩] ∧ v = .ok () := by
  obtain ⟨now, t', rfl, hlog⟩ := of_askThen h
  obtain ⟨rfl, o, hlog⟩ := of_bestEffort hlog
  obtain rfl := of_call hlog
  exact ⟨now, o, rfl, rfl⟩

/-- A transaction is opened first, and given up when what is done in it fails. -/
theorem of_transaction {v : Outcome α} (h : (Op.transaction op).run.Gives t v) :
    (∃ f, t = [⟨.call .begin, .error f⟩] ∧ v = .error f) ∨
    (∃ t' a, t = ⟨.call .begin, .ok ()⟩ :: t' ∧ op.run.Gives t' (.ok a) ∧ v = .ok a) ∨
    ∃ t' f, t = ⟨.call .begin, .ok ()⟩ :: (t' ++ [⟨.abandon, ()⟩]) ∧
      op.run.Gives t' (.error f) ∧ v = .error f := by
  refine h.of_meets (R := fun v t =>
    (∃ f, t = [⟨.call .begin, .error f⟩] ∧ v = .error f) ∨
    (∃ t' a, t = ⟨.call .begin, .ok ()⟩ :: t' ∧ op.run.Gives t' (.ok a) ∧ v = .ok a) ∨
    ∃ t' f, t = ⟨.call .begin, .ok ()⟩ :: (t' ++ [⟨.abandon, ()⟩]) ∧
      op.run.Gives t' (.error f) ∧ v = .error f)
    (Meets.transaction (I := fun o t => t = [⟨.call .begin, o⟩])
      (P := fun o t => ∃ t', t = ⟨.call .begin, .ok ()⟩ :: t' ∧ op.run.Gives t' o)
      (Meets.call trivial fun _ _ h => h) ?_ ?_ ?_ ?_)
  · rintro _ rfl
    exact meets_tracing.mpr fun t' o h => ⟨t', rfl, h⟩
  · rintro f t rfl
    exact .inl ⟨f, rfl, rfl⟩
  · rintro a t ⟨t', rfl, h⟩
    exact .inr (.inl ⟨t', a, rfl, h, rfl⟩)
  · rintro f t ⟨t', rfl, h⟩
    refine Meets.ask trivial ?_
    rintro _ _ rfl
    exact .inr (.inr ⟨t', f, rfl, h, rfl⟩)

end Program.Gives

/-- A call with its outcome. -/
structure Called where
  call : Call
  outcome : Outcome call.Result

/-- The calls of an operation, with their outcomes. -/
def Trace.calls : Trace → List Called
  | [] => []
  | ⟨.call c, o⟩ :: t => ⟨c, o⟩ :: Trace.calls t
  | _ :: t => Trace.calls t

theorem Trace.calls_append (t t' : Trace) :
    Trace.calls (t ++ t') = Trace.calls t ++ Trace.calls t' := by
  induction t with
  | nil => rfl
  | cons e t ih =>
    obtain ⟨r, a⟩ := e
    cases r with
    | call c => exact congrArg (_ :: ·) ih
    | _ => exact ih

end GameFleet
