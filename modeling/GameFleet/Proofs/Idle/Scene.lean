import GameFleet.Proofs.Work.Logic
import GameFleet.Simulation.Rows
import GameFleet.TaskQueue
import GameFleet.Work
import Mathlib.Data.List.Nodup

/-!
# What a cycle meets

A cycle asks for things while others go on beside it. Its steps take turns in any order, and between
any two answers the others may do anything that leaves one instance alone.

- `Scene`: what a cycle meets: the fleet's rows, the activity rows, the queue, and the time.
- `Scene.Holds`: an instance has its row there.
- `Scene.Answers`: how a scene answers when no call to a table fails.
- `Scene.Beside`: what others may do beside a cycle as far as one instance is concerned.
- `Asked`: something that was asked for, and the answer.
- `Runs`, `Ends`: some work goes on, and a program runs to its end; `Ends.meets_rules`: its ends are
  what it meets under rules, `Ends.of_andThen`: one operation after another.
- `Runs.ends_survey`, `Runs.ends_branch`, `Runs.beside_of_forall_ne`: what a run of a cycle is to
  its survey, and to its steps.
-/

namespace GameFleet

/-- The moment is one that can be told; a date has at most six digits for its year. -/
structure Timestamp.InRange (t : Timestamp) : Prop where
  lower : -0x80000000000 ≤ t.seconds
  upper : t.seconds ≤ 0x80000000000
  nanos : t.nanos < 2 * Span.second

/-- Between moments that can be told every span that is long enough can be compared. -/
theorem Span.reachedBy_since_iff {d : Span} {t s : Timestamp} (ht : t.InRange) (hs : s.InRange) :
    d.reachedBy (t.since s) = true ↔ (d.nanos : Int) ≤ t.since s := by
  -- Both lie within some hundred thousand years of 1970, and a leap second adds one second.
  have hbound : t.since s ≤ 0x7FFFFFFFFFFFFFFF * 1000000 := by
    obtain ⟨-, htu, htn⟩ := ht
    obtain ⟨hsl, -, -⟩ := hs
    have hcrossed : (if s.secondOfDay < t.secondOfDay then if s.isLeap then (1 : Int) else 0
        else if t.secondOfDay < s.secondOfDay then if t.isLeap then -1 else 0 else 0) ≤ 1 := by
      split
      · split <;> decide
      · split
        · split <;> decide
        · decide
    unfold Timestamp.since Span.second at *
    dsimp only at *
    omega
  unfold Span.reachedBy Span.isComparable Span.milli
  rw [Bool.and_eq_true, decide_eq_true_eq, decide_eq_true_eq]
  refine ⟨fun h => h.2, fun h => ⟨?_, h⟩⟩
  omega

/-- What a cycle meets. -/
structure Scene where
  rows : List Instance
  activities : List Activity
  queue : TaskQueue
  now : Timestamp

/-- Something that was asked for, and the answer. -/
structure Asked where
  /-- The instance whose step of the cycle asked; none for the survey. -/
  step : Option InstanceId
  request : Request
  answer : request.Answer

namespace Scene

variable {i : Instance} {x x' x'' : Scene} {r : Request} {a : r.Answer}

/-- What is known about an instance. -/
def activity? (x : Scene) (id : InstanceId) : Option Activity :=
  Rows.find? Activity.server id x.activities

/-- An instance has its row. Each key stands in a table once, and the time can be told. -/
structure Holds (x : Scene) (i : Instance) : Prop where
  row : i ∈ x.rows
  rows : (x.rows.map Instance.id).Nodup
  activities : (x.activities.map Activity.server).Nodup
  now : x.now.InRange

/-- A scene answers a request, and becomes another. No call to a table fails; lists come in any
order. A console answers anything, or fails. A cycle asks for nothing else. -/
def Answers (x : Scene) : (r : Request) → r.Answer → Scene → Prop
  | .call (.listInstances status), o, x' =>
    -- Nothing relies on the order in which rows are listed.
    x' = x ∧ ∃ rows : List Instance, o = .ok rows ∧
      rows.Perm (x.rows.filter fun i => (status.map (· == i.status)).getD true)
  | .call .listActivities, o, x' =>
    x' = x ∧ ∃ activities : List Activity, o = .ok activities ∧ activities.Perm x.activities
  | .call (.findInstance id), o, x' => x' = x ∧ o = .ok (Rows.find? Instance.id id x.rows)
  | .call (.recordActivity a), o, x' =>
    x' = { x with activities := Rows.put Activity.server a x.activities } ∧ o = .ok ()
  | .call (.console _), _, x' => x' = x
  | .now, t, x' => x' = x ∧ t = x.now
  | .isQueued kind payload, b, x' => x' = x ∧ b = x.queue.isQueued kind payload
  | .enqueue o, _, x' => ∃ id now, x' = { x with queue := x.queue.enqueue id now o }
  | _, _, _ => False

/-- Others have gone on beside a cycle. The instance has stayed in the fleet, and nobody else has
written down anything about it. -/
structure Beside (i : Instance) (x x' : Scene) : Prop where
  holds : x.Holds i → x'.Holds i
  activity : x'.activity? i.id = x.activity? i.id

theorem Beside.refl (i : Instance) (x : Scene) : x.Beside i x := ⟨id, rfl⟩

theorem Beside.trans (h : x.Beside i x') (h' : x'.Beside i x'') : x.Beside i x'' :=
  ⟨h'.holds ∘ h.holds, h'.activity.trans h.activity⟩

/-- The row of the instance is the only one with its identifier. -/
theorem Holds.find? (h : x.Holds i) : Rows.find? Instance.id i.id x.rows = some i :=
  (Rows.find?_eq_some_iff h.rows).mpr ⟨h.row, rfl⟩

end Scene

/-! ### Work that goes on -/

/-- The instance that a step of work treats; none before the survey of a cycle has ended. -/
def Work.treats? (choice : Nat) : Work → Option InstanceId
  | .cycle (.done (.ok b)) => (b.branches[choice]?).map Branch.id
  | _ => none

theorem Work.treats?_of_branch {b : Batch} {k : Nat} {s : Branch} (h : b.branches[k]? = some s) :
    (Work.cycle (.done (.ok b))).treats? k = some s.id := by
  rw [Work.treats?, h, Option.map_some]

/-- Work goes on from one scene to another, while others go on beside it. -/
inductive Runs (i : Instance) : Scene → Work → List Asked → Scene → Work → Prop where
  | rest (x : Scene) (w : Work) : Runs i x w [] x w
  | beside {x x' y : Scene} {w v : Work} {tr : List Asked} (hb : x.Beside i x')
      (h : Runs i x' w tr y v) : Runs i x w tr y v
  | step {x x' y : Scene} {w v : Work} {tr : List Asked} {k : Nat} {r : Request}
      {next : r.Answer → Work} {a : r.Answer} (hp : w.pose? k = some ⟨r, next⟩)
      (ha : x.Answers r a x') (h : Runs i x' (next a) tr y v) :
      Runs i x w (⟨w.treats? k, r, a⟩ :: tr) y v

/-- A program of a step, or of the survey, runs to its end, while others go on beside it. -/
inductive Ends {α : Type} (i : Instance) (who : Option InstanceId) :
    Scene → Program Request Request.Answer α → List Asked → Scene → α → Prop where
  | done (x : Scene) (v : α) : Ends i who x (.done v) [] x v
  | beside {x x' y : Scene} {p : Program Request Request.Answer α} {tr : List Asked} {v : α}
      (hb : x.Beside i x') (h : Ends i who x' p tr y v) : Ends i who x p tr y v
  | ask {x x' y : Scene} {r : Request} {next : r.Answer → Program Request Request.Answer α}
      {a : r.Answer} {tr : List Asked} {v : α} (ha : x.Answers r a x')
      (h : Ends i who x' (next a) tr y v) :
      Ends i who x (.ask r next) (⟨who, r, a⟩ :: tr) y v

namespace Ends

variable {α β : Type} {i : Instance} {who : Option InstanceId} {x y : Scene} {tr : List Asked}

theorem of_done {v v' : α} (h : Ends i who x (.done v) tr y v') :
    tr = [] ∧ v' = v ∧ x.Beside i y := by
  generalize hp : Program.done v = p at h
  induction h with
  | done x v =>
    cases hp
    exact ⟨rfl, rfl, .refl i x⟩
  | beside hb h ih =>
    obtain ⟨htr, hv, hb'⟩ := ih hp
    exact ⟨htr, hv, hb.trans hb'⟩
  | ask ha h ih => cases hp

theorem of_ask {r : Request} {next : r.Answer → Program Request Request.Answer α} {v : α}
    (h : Ends i who x (.ask r next) tr y v) :
    ∃ x₁ a x₂ rest, x.Beside i x₁ ∧ x₁.Answers r a x₂ ∧ tr = ⟨who, r, a⟩ :: rest ∧
      Ends i who x₂ (next a) rest y v := by
  generalize hp : Program.ask r next = p at h
  induction h with
  | done x v => cases hp
  | beside hb h ih =>
    obtain ⟨x₁, a, x₂, rest, hb', ha, htr, h⟩ := ih hp
    exact ⟨x₁, a, x₂, rest, hb.trans hb', ha, htr, h⟩
  | ask ha h ih =>
    cases hp
    exact ⟨_, _, _, _, .refl i _, ha, rfl, h⟩

/-- Everything may be asked for, and others go on before each answer. A state is the scene, and what
was asked for so far. -/
def rules (i : Instance) (who : Option InstanceId) :
    Program.Rules Request Request.Answer (Scene × List Asked) where
  Allows _ _ := True
  Turns s r a s' := ∃ x, s.1.Beside i x ∧ x.Answers r a s'.1 ∧ s'.2 = s.2 ++ [⟨who, r, a⟩]

/-- Something holds of where a program has ended, whatever others still do. -/
def Lasting (i : Instance) (R : α → Scene → List Asked → Prop) (v : α) (s : Scene × List Asked) :
    Prop := ∀ y, s.1.Beside i y → R v y s.2

/-- What a program meets under these rules is what holds of every end of it. -/
theorem meets_rules {R : α → Scene → List Asked → Prop} {p : Program Request Request.Answer α}
    {before : List Asked} :
    p.Meets (rules i who) (Lasting i R) (x, before) ↔
      ∀ tr y v, Ends i who x p tr y v → R v y (before ++ tr) := by
  -- The induction is on the program: each answer leaves a shorter one to run.
  induction p generalizing x before with
  | done a =>
    constructor
    · intro h tr y v hends
      obtain ⟨rfl, rfl, hb⟩ := hends.of_done
      rw [List.append_nil]
      exact h y hb
    · intro h y hb
      have hdone := h [] y a (.beside hb (.done y a))
      rwa [List.append_nil] at hdone
  | ask r next ih =>
    constructor
    · rintro ⟨-, h⟩ tr y v hends
      obtain ⟨x₁, a, x₂, rest, hb, ha, rfl, hrest⟩ := hends.of_ask
      rw [List.append_cons]
      exact (ih a).mp (h a (x₂, _) ⟨x₁, hb, ha, rfl⟩) rest y v hrest
    · refine fun h => ⟨trivial, ?_⟩
      rintro a ⟨x₂, _⟩ ⟨x₁, hb, ha, rfl⟩
      refine (ih a).mpr fun tr y v hends => ?_
      rw [List.append_assoc]
      exact h _ y v (.beside hb (.ask ha hends))

/-- One operation after another. The second is only begun when the first has not failed. -/
theorem of_andThen {op : Op α} {f : α → Op β} {v : Outcome β}
    (h : Ends i who x (op >>= f).run tr y v) :
    (∃ tr₁ z a tr₂, tr = tr₁ ++ tr₂ ∧ Ends i who x op.run tr₁ z (.ok a) ∧
      Ends i who z (f a).run tr₂ y v) ∨
    ∃ e z, v = .error e ∧ Ends i who x op.run tr z (.error e) ∧ z.Beside i y := by
  have hop : op.run.Meets (rules i who) (Lasting i fun o z tr => Ends i who x op.run tr z o)
      (x, []) := meets_rules.mpr fun _ _ _ h => h
  have hboth : (op >>= f).run.Meets (rules i who) (Lasting i fun v y tr =>
      (∃ tr₁ z a tr₂, tr = tr₁ ++ tr₂ ∧ Ends i who x op.run tr₁ z (.ok a) ∧
        Ends i who z (f a).run tr₂ y v) ∨
      ∃ e z, v = .error e ∧ Ends i who x op.run tr z (.error e) ∧ z.Beside i y) (x, []) := by
    refine Program.Meets.andThen hop ?_ ?_
    · rintro a ⟨z, tr₁⟩ h₁
      exact meets_rules.mpr fun tr₂ y v h₂ => .inl ⟨tr₁, z, a, tr₂, rfl, h₁ z (.refl i z), h₂⟩
    · rintro e ⟨z, tr⟩ h y hb
      exact .inr ⟨e, z, rfl, h z (.refl i z), hb⟩
  exact meets_rules.mp hboth tr y v h

end Ends

/-! ### The steps of a cycle -/

/-- What the step for one instance may ask for: a console, the time, rows, and to write down what is
known about its instance. -/
def Request.LooksAt (id : InstanceId) : Request → Prop
  | .call (.console _) => True
  | .call (.findInstance _) => True
  | .call (.recordActivity a) => a.server = id
  | .now => True
  | _ => False

/-- The steps of a batch look at different instances, each at its own. -/
structure Batch.Parted (b : Batch) : Prop where
  nodup : (b.branches.map Branch.id).Nodup
  looks : ∀ step ∈ b.branches, step.work.Asks (Request.LooksAt step.id)

/-- A step that looks at another instance leaves this one alone. -/
theorem Scene.Answers.beside {i : Instance} {x x' : Scene} {r : Request} {a : r.Answer}
    {id : InstanceId} (h : x.Answers r a x') (hr : r.LooksAt id) (hne : id ≠ i.id) :
    x.Beside i x' := by
  cases r with
  | now =>
    obtain ⟨rfl, -⟩ := h
    exact .refl i x'
  | call c =>
    cases c with
    | console q =>
      obtain rfl : x' = x := h
      exact .refl i x'
    | findInstance k =>
      obtain ⟨rfl, -⟩ := h
      exact .refl i x'
    | recordActivity known =>
      obtain ⟨rfl, -⟩ := h
      obtain rfl : known.server = id := hr
      exact ⟨fun h => ⟨h.row, h.rows, Rows.nodup_put h.activities, h.now⟩,
        Rows.find?_put_of_ne Activity.server hne.symm x.activities⟩
    | _ => exact hr.elim
  | _ => exact hr.elim

namespace Batch

variable {b : Batch} {k : Nat} {s : Branch} {r : Request} {next : r.Answer → Running Unit}

/-- The step that goes on is one of the batch's. -/
theorem exists_of_pose {cont : r.Answer → Work}
    (h : (Work.cycle (.done (.ok b))).pose? k = some ⟨r, cont⟩) :
    ∃ s next, b.branches[k]? = some s ∧ s.work = .ask r next ∧
      cont = fun a => .cycle (.done (.ok (b.setBranch k (next a)))) := by
  simp only [Work.pose?] at h
  split at h
  · rename_i id label r' next' hk
    cases h
    exact ⟨_, next', hk, rfl, rfl⟩
  · cases h

/-- When all has ended every step has. -/
theorem done_of_outcome {o : Outcome Yield} (h : (Work.cycle (.done (.ok b))).outcome? = some o)
    (hs : s ∈ b.branches) : ∃ v, s.work = .done v := by
  cases hw : s.work with
  | done v => exact ⟨v, rfl⟩
  | ask r next =>
    -- A step that goes on is open, and the cycle has not ended.
    obtain ⟨k, hk⟩ := List.mem_iff_getElem?.mp hs
    have hopen : k ∈ b.openSteps := by
      refine List.mem_filterMap.mpr ⟨(s, k), List.mem_zipIdx_iff_getElem?.mpr hk, ?_⟩
      simp only [hw]
    have hempty : b.openSteps.isEmpty = false := by
      rw [List.isEmpty_eq_false_iff]
      exact List.ne_nil_of_mem hopen
    simp [Work.outcome?, hempty] at h

theorem mem_setBranch_self {work : Running Unit} (h : b.branches[k]? = some s) :
    { s with work } ∈ (b.setBranch k work).branches := by
  refine List.mem_of_getElem? (i := k) ?_
  rw [setBranch, List.getElem?_modify, h]
  simp

/-- The steps for other instances stay as they are. -/
theorem mem_setBranch_of_ne {s' : Branch} {work : Running Unit} (h : b.branches[k]? = some s)
    (hs : s' ∈ b.branches) (hne : s.id ≠ s'.id) : s' ∈ (b.setBranch k work).branches := by
  obtain ⟨j, hj⟩ := List.mem_iff_getElem?.mp hs
  have hkj : k ≠ j := by
    rintro rfl
    rw [h, Option.some.injEq] at hj
    exact hne (congrArg Branch.id hj)
  refine List.mem_of_getElem? (i := j) ?_
  rw [setBranch, List.getElem?_modify, hj]
  simp [hkj]

/-- A batch whose steps look at different instances stays such a batch when one goes on. -/
theorem Parted.setBranch (h : b.Parted) (hk : b.branches[k]? = some s) (hs : s.work = .ask r next)
    (a : r.Answer) : (b.setBranch k (next a)).Parted := by
  refine ⟨by rw [ids_setBranch]; exact h.nodup, fun s' hs' => ?_⟩
  obtain rfl | ⟨hs', -⟩ := mem_setBranch h.nodup hk hs'
  · have hlooks := h.looks s (List.mem_of_getElem? hk)
    rw [hs] at hlooks
    exact (Program.Only.ask_iff.mp hlooks).2 a
  · exact h.looks s' hs'

/-- What a step asks for next. -/
theorem Parted.looksAt (h : b.Parted) (hk : b.branches[k]? = some s)
    (hs : s.work = .ask r next) : r.LooksAt s.id := by
  have hlooks := h.looks s (List.mem_of_getElem? hk)
  rw [hs] at hlooks
  exact hlooks.1

end Batch

/-- What the step for an instance asked for. -/
def Asked.ofStep (id : InstanceId) (tr : List Asked) : List Asked :=
  tr.filter (·.step = some id)

namespace Runs

variable {i : Instance} {x y : Scene} {tr : List Asked} {w : Work} {b : Batch} {o : Outcome Yield}

/-- A cycle that has ended has run its survey to the end first. -/
theorem ends_survey {p : Running Batch} (h : Runs i x (.cycle p) tr y w)
    (ho : w.outcome? = some o) :
    ∃ tr₁ z v tr₂, tr = tr₁ ++ tr₂ ∧ Ends i none x p tr₁ z v ∧
      Runs i z (.cycle (.done v)) tr₂ y w := by
  generalize hw : Work.cycle p = u at h
  -- While the survey goes on, every step of the cycle is its next question.
  induction h generalizing p with
  | rest x w =>
    subst hw
    cases p with
    | done v => exact ⟨[], x, v, [], rfl, .done x v, .rest x _⟩
    | ask r next => cases ho
  | beside hb h ih =>
    obtain ⟨tr₁, z, v, tr₂, htr, h₁, h₂⟩ := ih ho hw
    exact ⟨tr₁, z, v, tr₂, htr, .beside hb h₁, h₂⟩
  | @step x _ _ _ _ _ k r _ a hp ha h ih =>
    subst hw
    cases p with
    | done o => exact ⟨[], x, o, _, rfl, .done x o, .step hp ha h⟩
    | ask r next =>
      cases hp
      obtain ⟨tr₁, z, v, tr₂, rfl, h₁, h₂⟩ := ih ho rfl
      exact ⟨_, z, v, tr₂, rfl, .ask ha h₁, h₂⟩

/-- Every step only looks at its own instance. -/
theorem looksAt (h : Runs i x (.cycle (.done (.ok b))) tr y w) (hb : b.Parted) :
    ∀ e ∈ tr, ∃ id, e.step = some id ∧ e.request.LooksAt id := by
  generalize hw : Work.cycle (.done (.ok b)) = u at h
  induction h generalizing b with
  | rest x w => exact fun e he => absurd he List.not_mem_nil
  | beside _ h ih => exact ih hb hw
  | @step _ _ _ _ _ _ k r _ a hp ha h ih =>
    subst hw
    obtain ⟨s, next, hk, hs, rfl⟩ := Batch.exists_of_pose hp
    intro e he
    rcases List.mem_cons.mp he with rfl | he
    · exact ⟨s.id, Work.treats?_of_branch hk, hb.looksAt hk hs⟩
    · exact ih (hb.setBranch hk hs a) rfl e he

/-- Without a step for the instance, a run of the steps leaves the instance alone. -/
theorem beside_of_forall_ne (h : Runs i x (.cycle (.done (.ok b))) tr y w) (hb : b.Parted)
    (hne : ∀ s ∈ b.branches, s.id ≠ i.id) :
    x.Beside i y ∧ ∀ e ∈ tr, e.step ≠ some i.id := by
  generalize hw : Work.cycle (.done (.ok b)) = u at h
  induction h generalizing b with
  | rest x w => exact ⟨.refl i x, fun e he => absurd he List.not_mem_nil⟩
  | beside hbeside h ih =>
    obtain ⟨hrest, htr⟩ := ih hb hne hw
    exact ⟨hbeside.trans hrest, htr⟩
  | @step _ _ _ _ _ _ k r _ a hp ha h ih =>
    subst hw
    obtain ⟨s, next, hk, hs, rfl⟩ := Batch.exists_of_pose hp
    have hsid := hne s (List.mem_of_getElem? hk)
    have hne' : ∀ s' ∈ (b.setBranch k (next a)).branches, s'.id ≠ i.id := by
      intro s' hs'
      obtain rfl | ⟨hs', -⟩ := Batch.mem_setBranch hb.nodup hk hs'
      · exact hsid
      · exact hne s' hs'
    obtain ⟨hrest, htr⟩ := ih (hb.setBranch hk hs a) hne' rfl
    refine ⟨(ha.beside (hb.looksAt hk hs) hsid).trans hrest, fun e he => ?_⟩
    rcases List.mem_cons.mp he with rfl | he
    · rw [Work.treats?_of_branch hk]
      exact fun h => hsid (Option.some.inj h)
    · exact htr e he

/-- The step for the instance runs to its end, and the other steps leave the instance alone. -/
theorem ends_branch {s : Branch} (h : Runs i x (.cycle (.done (.ok b))) tr y w)
    (ho : w.outcome? = some o) (hb : b.Parted) (hs : s ∈ b.branches) (hid : s.id = i.id) :
    ∃ v, Ends i (some i.id) x s.work (Asked.ofStep i.id tr) y v := by
  generalize hw : Work.cycle (.done (.ok b)) = u at h
  induction h generalizing b s with
  | rest x w =>
    subst hw
    obtain ⟨v, hv⟩ := Batch.done_of_outcome ho hs
    exact ⟨v, hv ▸ .done x v⟩
  | beside hbeside h ih =>
    obtain ⟨v, hv⟩ := ih ho hb hs hid hw
    exact ⟨v, .beside hbeside hv⟩
  | @step _ _ _ _ _ tr k r _ a hp ha h ih =>
    subst hw
    obtain ⟨s', next, hk, hs', rfl⟩ := Batch.exists_of_pose hp
    have hparted := hb.setBranch hk hs' a
    rw [Work.treats?_of_branch hk]
    by_cases hid' : s'.id = i.id
    · -- It is this step that goes on.
      obtain rfl : s' = s :=
        List.inj_on_of_nodup_map hb.nodup (List.mem_of_getElem? hk) hs (hid'.trans hid.symm)
      obtain ⟨v, hv⟩ := ih ho hparted (Batch.mem_setBranch_self hk) hid rfl
      refine ⟨v, ?_⟩
      rw [hs', Asked.ofStep, List.filter_cons_of_pos (by simp [hid]), hid]
      exact .ask ha hv
    · -- It is another one, and to this instance that is as if others went on.
      have hne : s'.id ≠ s.id := fun h => hid' (h.trans hid)
      obtain ⟨v, hv⟩ := ih ho hparted (Batch.mem_setBranch_of_ne hk hs hne) hid rfl
      refine ⟨v, .beside (ha.beside (hb.looksAt hk hs') hid') ?_⟩
      rw [Asked.ofStep, List.filter_cons_of_neg (by simp [hid'])]
      exact hv

end Runs

end GameFleet
