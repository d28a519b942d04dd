import GameFleet.Control.Serve
import GameFleet.Proofs.Control.Frame
import GameFleet.Proofs.Discretion.Alike

/-!
# What a client is told does not depend on the texts of failures (specification §7)

A request is answered by a thread, which goes on among all others. What it hears is whether it is
let in, and the answers to what it asks for. In two runs in which it hears the same, but for texts
inside failures, its client gets the same reply.

- `Http.Route.work?`: the work that a message starts.
- `Heard`, `Control.heard`: what a thread hears in a run.
- `Program.Hears`, `Program.Ends`: how far a program has come with what was heard, and how it ends.
- `Hearing`: how the thread of a request stands after what it has heard; `Control.hearing_apply`,
  `Control.hearing_after`: moves keep to it.
- `Control.request_eq_after`: answering a message is a run.
- `Control.reply_eq_of_alike`: the replies are the same.
-/

namespace GameFleet

variable {ω ω' : Type}

/-- The work that a message starts, if it starts any. -/
def Http.Route.work? (S : Surroundings ω) : Http.Route → Option Work
  | create r => some (Control.admission S r)
  | remove owner => some (Control.removal owner)
  | _ => none

/-- Something a thread hears. -/
inductive Heard where
  /-- Whether it is let in; it is refused while everything is drained. -/
  | entry (admitted : Bool)
  /-- The answer to what it asked for; there is none when it broke off there. -/
  | told (q : Request) (a : Option q.Answer)

/-- What is heard is the same, but for texts inside failures. Answers are compared when they are
answers to the same request. -/
def Heard.Alike : Heard → Heard → Prop
  | entry b, entry b' => b = b'
  | told q a, told q' a' => ∀ h : q = q', Option.Rel q'.Alike (h ▸ a) a'
  | _, _ => True

/-- All that is heard in one place is, as far as it goes, like what is heard in another. -/
def Heard.AllAlike (t t' : List Heard) : Prop := ∀ xy ∈ t.zip t', Heard.Alike xy.1 xy.2

theorem Heard.AllAlike.cons {x y : Heard} {t t' : List Heard} (h : AllAlike (x :: t) (y :: t')) :
    x.Alike y ∧ AllAlike t t' := List.forall_mem_cons.mp h

namespace Control

/-- What a thread hears with a step of its own. -/
def hearsBy (S : Surroundings ω) (c : Control ω) (k choice : Nat) : List Heard :=
  match c.threads[k]? with
  | some (.arriving true _) => [.entry c.drain.enter?.isSome]
  | some (.working _ w) =>
    match w.pose? choice with
    | none => []
    | some ⟨q, _⟩ =>
      match c.ask S k q with
      | .answered a _ => [.told q (some a)]
      | .waiting _ => []
      | .panicked _ => [.told q none]
  | _ => []

/-- What a thread hears with a move. -/
def hears (c : Control ω) (k : Nat) : Move ω → List Heard
  | .step S tid choice => if tid = k then c.hearsBy S k choice else []
  | _ => []

theorem hears_step (S : Surroundings ω) (c : Control ω) (k choice : Nat) :
    c.hears k (.step S k choice) = c.hearsBy S k choice := if_pos rfl

/-- What a thread hears in a run, in order. -/
def heard (c : Control ω) (k : Nat) : List (Move ω) → List Heard
  | [] => []
  | m :: earlier => c.heard k earlier ++ (c.after earlier).hears k m

theorem hears_of_not_step {c : Control ω} {k : Nat} {m : Move ω} (h : m.isStepOf k = false) :
    c.hears k m = [] := by
  cases m with
  | step S tid choice =>
    have : tid ≠ k := by simpa [Move.isStepOf] using h
    simp [hears, this]
  | _ => rfl

end Control

/-! ## Programs that hear -/

namespace Program

/-- How far a program has come with what was heard. -/
inductive Hears (p : Running Yield) : List Heard → Running Yield → Prop where
  | nothing : Hears p [] p
  | more {t : List Heard} {q : Request} {next : q.Answer → Running Yield}
    (h : Hears p t (.ask q next)) (a : q.Answer) : Hears p (t ++ [.told q (some a)]) (next a)

/-- How a program ends that hears certain things, one after another. -/
inductive Ends : Running Yield → List Heard → Ending → Prop where
  | done (o : Outcome Yield) : Ends (.done o) [] (.finished o)
  | breaks (q : Request) (next : q.Answer → Running Yield) :
    Ends (.ask q next) [.told q none] .panicked
  | goes {q : Request} {next : q.Answer → Running Yield} {a : q.Answer} {t : List Heard}
    {e : Ending} (h : Ends (next a) t e) : Ends (.ask q next) (.told q (some a) :: t) e

variable {p p' v : Running Yield} {t t' : List Heard} {e e' : Ending}

/-- A program that has come somewhere ends as it ends from there. -/
theorem Hears.ends (h : Hears p t v) (hv : Ends v t' e) : Ends p (t ++ t') e := by
  induction h generalizing t' with
  | nothing => exact hv
  | more _ _ ih =>
    rw [List.append_assoc]
    exact ih (.goes hv)

/-- Agreeing programs that hear the same, but for texts inside failures, end in the same reply. -/
theorem Ends.reply_eq (hagree : Agree (Outcome.Alike Eq) p p') (h : Ends p t e)
    (h' : Ends p' t' e') (hheard : Heard.AllAlike t t') :
    Control.replyOf (some e) = Control.replyOf (some e') := by
  induction h generalizing p' t' with
  | done o =>
    obtain ⟨o', rfl, ho⟩ := hagree
    cases h'
    cases ho with
    | ok h => rw [h]
    | error h => exact h.reply_eq
  | breaks q next =>
    obtain ⟨⟨next', rfl⟩, -⟩ := hagree
    cases h' with
    | breaks => rfl
    | goes _ => cases hheard.cons.1 rfl
  | goes _ ih =>
    obtain ⟨⟨next', rfl⟩, hnext⟩ := hagree
    cases h' with
    | breaks => cases hheard.cons.1 rfl
    | goes h' =>
      cases hheard.cons.1 rfl with
      | some ha => exact ih (hnext _ _ ⟨next', _, rfl, ha, rfl⟩) h' hheard.cons.2

end Program

/-! ## Threads that hear -/

/-- How the thread of a request stands after what it has heard. -/
inductive Hearing (p : Running Yield) : List Heard → Thread → Prop where
  | arriving : Hearing p [] (.arriving true (.plain p))
  | refused : Hearing p [.entry false] (.ended (.finished (.error .shuttingDown)))
  | working {t : List Heard} {v : Running Yield} (h : Program.Hears p t v) :
    Hearing p (.entry true :: t) (.working true (.plain v))
  | ended {t : List Heard} {e : Ending} (h : Program.Ends p t e) :
    Hearing p (.entry true :: t) (.ended e)

namespace Control

variable {c : Control ω} {S : Surroundings ω} {k : Nat} {p v : Running Yield} {t : List Heard}
  {th : Thread}

theorem getElem?_put_self (h : k < c.threads.length) (th : Thread) :
    (c.put k th).threads[k]? = some th := List.getElem?_set_self h

/-- A thread that breaks off has ended so. -/
theorem getElem?_breakOff (hth : c.threads[k]? = some th) (hopen : th.isEnded = false)
    (e : Ending) : (c.breakOff S k e).threads[k]? = some (.ended e) := by
  have hlt := (List.getElem?_eq_some_iff.mp hth).1
  unfold breakOff
  rw [hth]
  simp only [hopen, Bool.false_eq_true, if_false]
  refine getElem?_put_self ?_ _
  unfold settle
  split <;> exact hlt

/-- A step of a program that goes on: it hears the answer, or waits for it, or breaks off. -/
theorem hearing_stepWorking (hth : c.threads[k]? = some (.working true (.plain v)))
    (h : Program.Hears p t v) (choice : Nat) :
    ∃ th', (c.step S k choice).2.threads[k]? = some th' ∧
      Hearing p (.entry true :: t ++ c.hearsBy S k choice) th' := by
  have hlt := (List.getElem?_eq_some_iff.mp hth).1
  unfold step hearsBy
  rw [hth]
  dsimp only [stepWorking]
  cases v with
  | done o =>
    refine ⟨_, getElem?_put_self hlt _, ?_⟩
    have := h.ends (.done o)
    exact .ended this
  | ask q next =>
    have hthreads : (c.ask S k q).state.threads = c.threads := threads_ask q
    dsimp only [Work.outcome?, stepWork, Work.pose?]
    cases hask : c.ask S k q with
    | answered a c' =>
      rw [hask] at hthreads
      have hlt' : k < c'.threads.length := by
        rw [show c'.threads = c.threads from hthreads]
        exact hlt
      exact ⟨_, getElem?_put_self hlt' _, .working (h.more a)⟩
    | waiting c' =>
      rw [hask] at hthreads
      refine ⟨_, (congrArg (·[k]?) (show c'.threads = c.threads from hthreads)).trans hth, ?_⟩
      rw [List.append_nil]
      exact .working h
    | panicked c' =>
      rw [hask] at hthreads
      have hth' := (congrArg (·[k]?) (show c'.threads = c.threads from hthreads)).trans hth
      exact ⟨_, getElem?_breakOff hth' rfl _, .ended (h.ends (.breaks q next))⟩

/-- Every move keeps to what a thread has heard. -/
theorem hearing_apply (hth : c.threads[k]? = some th) (h : Hearing p t th) (m : Move ω) :
    ∃ th', (c.apply m).threads[k]? = some th' ∧ Hearing p (t ++ c.hears k m) th' := by
  have hlt := (List.getElem?_eq_some_iff.mp hth).1
  cases hm : m.isStepOf k with
  | false =>
    have hs : th.signalled = th := by cases h <;> rfl
    refine ⟨th, (apply_leaves hlt hm).getElem?_eq hth hs, ?_⟩
    rwa [hears_of_not_step hm, List.append_nil]
  | true =>
    obtain ⟨S, choice, rfl⟩ : ∃ S choice, m = .step S k choice := by
      cases m with
      | step S tid choice =>
        obtain rfl : tid = k := by simpa [Move.isStepOf] using hm
        exact ⟨S, choice, rfl⟩
      | _ => cases hm
    rw [hears_step]
    cases h with
    | arriving =>
      show ∃ th', (c.step S k choice).2.threads[k]? = some th' ∧ _
      unfold step hearsBy
      rw [hth]
      dsimp only [stepArriving]
      cases c.drain.enter? with
      | none => exact ⟨_, getElem?_put_self hlt _, .refused⟩
      | some drain => exact ⟨_, getElem?_put_self hlt _, .working .nothing⟩
    | working h => exact hearing_stepWorking hth h choice
    | refused =>
      refine ⟨_, ended_apply hth _, ?_⟩
      simp only [hearsBy, hth]
      exact .refused
    | ended h =>
      refine ⟨_, ended_apply hth _, ?_⟩
      simp only [hearsBy, hth, List.append_nil]
      exact .ended h

/-- A request that has come stands as it should after what it has heard in a run. -/
theorem hearing_after (hth : c.threads[k]? = some (.arriving true (.plain p)))
    (ms : List (Move ω)) :
    ∃ th, (c.after ms).threads[k]? = some th ∧ Hearing p (c.heard k ms) th := by
  induction ms with
  | nil => exact ⟨_, hth, .arriving⟩
  | cons m earlier ih =>
    obtain ⟨th, hth, hhearing⟩ := ih
    exact hearing_apply hth hhearing m

end Control

/-! ## Replies -/

/-- The works of messages are programs that agree with themselves. -/
theorem Http.Route.work?_agree {S : Surroundings ω} {r : Http.Route} {w : Work}
    (h : r.work? S = some w) :
    ∃ p, w = .plain p ∧ Program.Agree (Outcome.Alike Eq) p p := by
  have hof : ∀ {α : Type} {op : Op α} (encode : α → Yield), Op.Agree Eq op op →
      Program.Agree (Outcome.Alike Eq) (encode <$> op).run (encode <$> op).run :=
    fun encode hop => hop.andThenSame fun _ => .pure rfl
  cases r with
  | create r =>
    cases h
    exact ⟨_, rfl, hof _ (Admission.grant_agree _ r)⟩
  | remove owner =>
    cases h
    exact ⟨_, rfl, hof _ (Termination.removeOwned_agree owner)⟩
  | health _ => cases h
  | refused _ => cases h

namespace Control

/-- Whether a run leads from one state to another. -/
def LeadsTo (c c' : Control ω) : Prop := ∃ ms, c' = c.after ms

namespace LeadsTo

variable {S : Surroundings ω} {c c' c'' : Control ω}

theorem refl : LeadsTo c c := ⟨[], rfl⟩

theorem trans (h : LeadsTo c c') (h' : LeadsTo c' c'') : LeadsTo c c'' := by
  obtain ⟨earlier, rfl⟩ := h
  obtain ⟨ms, rfl⟩ := h'
  exact ⟨ms ++ earlier, (after_append ms earlier).symm⟩

theorem step (k choice : Nat) : LeadsTo c (c.step S k choice).2 := ⟨[.step S k choice], rfl⟩

/-- The time is moved on, never back. -/
theorem wait {due : Nat} (h : c.elapsed ≤ due) : LeadsTo c { c with elapsed := due } := by
  refine ⟨[.pass (due - c.elapsed)], ?_⟩
  show _ = { c with elapsed := c.elapsed + (due - c.elapsed) }
  rw [Nat.add_sub_cancel' h]

theorem stepAny (k : Nat) (choices : List Nat) : LeadsTo c (c.stepAny S k choices).2 := by
  induction choices generalizing c with
  | nil => exact .refl
  | cons choice others ih =>
    rw [Control.stepAny]
    dsimp only
    split
    · exact .step k choice
    · exact (step k choice).trans ih

theorem stepOn (k : Nat) : LeadsTo c (c.stepOn S k).2 := by
  unfold Control.stepOn
  split
  · exact .step k 0
  · exact .stepAny k _

theorem goOnFor (steps k : Nat) : LeadsTo c (goOnFor S steps c k).2 := by
  induction steps generalizing c with
  | zero => exact .refl
  | succ steps ih =>
    rw [Control.goOnFor]
    dsimp only
    split
    · exact (stepOn k).trans ih
    · exact .stepOn k

theorem sweep (ks : List Nat) : LeadsTo c (c.sweep S ks).2 := by
  induction ks generalizing c with
  | nil => exact .refl
  | cons k others ih => exact LeadsTo.trans (goOnFor _ k) (ih (c := (c.goOn S k).2))

theorem restFor (rounds : Nat) : LeadsTo c (restFor S rounds c) := by
  induction rounds generalizing c with
  | zero => exact .refl
  | succ rounds ih =>
    rw [Control.restFor]
    dsimp only
    split
    · exact (sweep _).trans ih
    · exact .sweep _

theorem lt_of_nextAlarm {due : Nat} (h : c.nextAlarm? S = some due) : c.elapsed < due := by
  have := List.min?_mem h
  exact of_decide_eq_true (List.mem_filter.mp this).2

theorem completeFor (k moments : Nat) : LeadsTo c (completeFor S k moments c) := by
  induction moments generalizing c with
  | zero => exact .refl
  | succ moments ih =>
    have hrest : LeadsTo c ((c.goOn S k).2.rest S) := (goOnFor _ k).trans (restFor _)
    rw [Control.completeFor]
    split
    · exact hrest
    · split
      · exact hrest
      · rename_i due hdue
        exact (hrest.trans (.wait (Nat.le_of_lt (lt_of_nextAlarm hdue)))).trans ih

end LeadsTo

/-- The reply to a message that starts work is made of how the thread has ended that came with it,
after a run. -/
theorem request_eq_after {S : Surroundings ω} {c : Control ω} {m : Http.Message} {w : Work}
    (hw : (Http.Route.of m).work? S = some w) :
    ∃ ms, c.request S m = (replyOf (((c.begin true w).1.after ms).ending? c.threads.length),
      (c.begin true w).1.after ms) := by
  have hrun : LeadsTo (c.begin true w).1
      (((c.begin true w).1.complete S c.threads.length).rest S) :=
    (LeadsTo.completeFor _ _).trans (.restFor _)
  obtain ⟨ms, hms⟩ := hrun
  refine ⟨ms, ?_⟩
  rw [← hms]
  unfold request
  cases hr : Http.Route.of m <;> rw [hr] at hw <;> cases hw <;> rfl

theorem getElem?_of_ending? {c : Control ω} {k : Nat} {e : Ending} (h : c.ending? k = some e) :
    c.threads[k]? = some (.ended e) := by
  unfold ending? at h
  split at h
  · rename_i hth
    cases h
    exact hth
  · cases h

/-- A client gets the same reply, status and body, in all runs in which its request hears the same,
but for the texts inside failures of the database, of reclamation and of other collaborators. The
runs may start anywhere, and what else goes on in them does not matter. What is compared are answers
to the same request; that the same is asked for follows. -/
theorem reply_eq_of_alike {S : Surroundings ω} {m : Http.Message} {w : Work}
    (hw : (Http.Route.of m).work? S = some w)
    {c : Control ω} {k : Nat} (hk : c.threads[k]? = some (.arriving true w))
    {c' : Control ω'} {k' : Nat} (hk' : c'.threads[k']? = some (.arriving true w))
    {ms : List (Move ω)} {e : Ending} (he : (c.after ms).ending? k = some e)
    {ms' : List (Move ω')} {e' : Ending} (he' : (c'.after ms').ending? k' = some e')
    (hheard : Heard.AllAlike (c.heard k ms) (c'.heard k' ms')) :
    replyOf (some e) = replyOf (some e') := by
  obtain ⟨p, rfl, hagree⟩ := Http.Route.work?_agree hw
  obtain ⟨th, hth, hhearing⟩ := hearing_after hk ms
  obtain ⟨th', hth', hhearing'⟩ := hearing_after hk' ms'
  obtain rfl : th = .ended e := Option.some.inj (hth.symm.trans (getElem?_of_ending? he))
  obtain rfl : th' = .ended e' := Option.some.inj (hth'.symm.trans (getElem?_of_ending? he'))
  generalize c.heard k ms = t at hhearing hheard
  generalize c'.heard k' ms' = t' at hhearing' hheard
  cases hhearing with
  | refused =>
    cases hhearing' with
    | refused => rfl
    | ended _ => cases hheard.cons.1
  | ended h =>
    cases hhearing' with
    | refused => cases hheard.cons.1
    | ended h' => exact h.reply_eq hagree h' hheard.cons.2

/-- Surroundings in which an owner has an instance that cannot be destroyed, for a reason that is
given. -/
def undestroyed (reason : String) : Surroundings Unit where
  start := default
  settings := .ofEnvironment fun _ => none
  tick := 1000
  serve _ _ _ c := .answered (match c with
    | .ownersInstances owner => .ok [{ (default : Instance) with owner }]
    | .destroy .. => .error (.internal reason)
    | _ => .error .shuttingDown) ()
  fresh _ := (default, ())
  abandon _ _ := ()
  wakes _ _ := none

/-- Why an instance was not destroyed is not told to its owner. -/
theorem reply_eq_of_alike_undestroyed :
    replyOf (some (.finished (.error (.internal "refused by 10.0.0.7")))) =
      replyOf (some (.finished (.error (.internal "no answer within 30s")))) := by
  let moves (reason : String) : List (Move Unit) :=
    List.replicate 4 (.step (undestroyed reason) 0 0)
  let come : Control Unit := (begin { world := () } true (removal ⟨"7"⟩)).1
  refine @reply_eq_of_alike Unit Unit (undestroyed "")
    ⟨"DELETE", "/owners/7/instance", none, ""⟩ (removal ⟨"7"⟩) rfl come 0 rfl come 0 rfl
    (moves "refused by 10.0.0.7") _ rfl (moves "no answer within 30s") _ rfl ?_
  exact List.forall_mem_cons.mpr ⟨rfl, List.forall_mem_cons.mpr ⟨fun _ => .some (.ok rfl),
    List.forall_mem_cons.mpr ⟨fun _ => .some (.error (.internal _ _)), List.forall_mem_nil _⟩⟩⟩

end Control

end GameFleet
