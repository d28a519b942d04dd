import GameFleet.Proofs.Removal.Attempts
import GameFleet.Proofs.Work.Interleaving

/-!
# Calls about single instances

Most of what a reclamation cycle calls for is about one instance, and whether it fails is a matter
of this instance alone. The rows of one instance change by the calls about it, whatever is called
for besides.

- `Hazards`: which calls about which instance fail.
- `Hazards.Answers`: how anything is answered that a cycle asks; `Hazards.AnswersAt`: what that is
  to a single instance.
- `Leads`: one event after another; `Leads.project`: what they are to a part of the state.
- `Hazards.removal`, `Cell.removed`: what a removal gives and leaves; `Hazards.removal_of_gives`: it
  does.
-/

namespace GameFleet

/-! ### What is asked about an instance -/

/-- The instance whose rows a request is about. -/
def Request.about? : Request → Option InstanceId
  | .call (.findInstance id) => some id
  | .call (.destroy id _) => some id
  | .call (.removeInstance id) => some id
  | .call (.removeActivity id) => some id
  | _ => none

/-- Who is told what by a request. -/
def Request.notice? : Request → Option (OwnerId × String)
  | .call (.notify owner message) => some (owner, message)
  | _ => none

namespace Trace

/-- What is asked about an instance. -/
def regarding (id : InstanceId) (t : Trace) : Trace := t.filter fun e => e.1.about? = some id

/-- Who is told what. -/
def notices (t : Trace) : List (OwnerId × String) := t.filterMap fun e => e.1.notice?

/-- Nothing is asked about any instance, and nobody is told anything. -/
def Idle (t : Trace) : Prop := ∀ e ∈ t, e.1.about? = none ∧ e.1.notice? = none

variable {t t' : Trace} {id : InstanceId}

theorem regarding_append : regarding id (t ++ t') = regarding id t ++ regarding id t' :=
  List.filter_append ..

theorem notices_append : notices (t ++ t') = notices t ++ notices t' := List.filterMap_append

theorem Idle.regarding (h : Idle t) (id : InstanceId) : regarding id t = [] :=
  List.filter_eq_nil_iff.mpr fun e he => by simp [(h e he).1]

theorem Idle.notices (h : Idle t) : notices t = [] :=
  List.filterMap_eq_nil_iff.mpr fun e he => (h e he).2

/-- Nothing is asked about another instance. -/
theorem regarding_eq_nil {k : InstanceId} (h : ∀ e ∈ t, e.1.about? = none ∨ e.1.about? = some k)
    (hne : id ≠ k) : regarding id t = [] := by
  refine List.filter_eq_nil_iff.mpr fun e he => ?_
  obtain h | h := h e he
  · simp [h]
  · simp [h, hne.symm]

end Trace

/-! ### Events -/

/-- Events one after another lead from one state to another. -/
inductive Leads {X E : Type} (A : X → E → X → Prop) : X → List E → X → Prop where
  | nil (x : X) : Leads A x [] x
  | cons {x x' y : X} {e : E} {t : List E} (h : A x e x') (ht : Leads A x' t y) :
    Leads A x (e :: t) y

namespace Leads

variable {X Y E E' : Type} {A : X → E → X → Prop} {B : Y → E' → Y → Prop} {x y : X} {t : List E}
  {e : E}

theorem of_mem (h : Leads A x t y) (he : e ∈ t) : ∃ z z', A z e z' := by
  induction h with
  | nil x => cases he
  | @cons x x' y e' t h ht ih =>
    obtain rfl | he := List.mem_cons.mp he
    · exact ⟨x, x', h⟩
    · exact ih he

theorem of_nil (h : Leads A x [] y) : y = x := by
  cases h
  rfl

theorem of_cons (h : Leads A x (e :: t) y) : ∃ z, A x e z ∧ Leads A z t y := by
  cases h with
  | cons h ht => exact ⟨_, h, ht⟩

/-- To a part of the state only some of the events matter. -/
theorem project (part : X → Y) (see : E → E') (keep : E' → Bool)
    (hkeep : ∀ {x e x'}, A x e x' → keep (see e) = true → B (part x) (see e) (part x'))
    (hskip : ∀ {x e x'}, A x e x' → keep (see e) = false → part x' = part x)
    (h : Leads A x t y) : Leads B (part x) ((t.map see).filter keep) (part y) := by
  induction h with
  | nil x => exact .nil _
  | @cons x x' y e t h ht ih =>
    cases hk : keep (see e) with
    | true =>
      rw [List.map_cons, List.filter_cons_of_pos hk]
      exact .cons (hkeep h hk) ih
    | false =>
      rw [List.map_cons, List.filter_cons_of_neg (by simp [hk]), ← hskip h hk]
      exact ih

end Leads

/-! ### Hazards -/

/-- What a call gives, unless it fails. -/
def granted {α : Type} (failure : Option Failure) (a : α) : Outcome α :=
  match failure with
  | none => .ok a
  | some f => .error f

theorem granted_eq_ok_iff {α : Type} {failure : Option Failure} {a b : α} :
    Except.ok b = granted failure a ↔ failure = none ∧ b = a := by
  cases failure <;> simp [granted]

theorem granted_eq_error_iff {α : Type} {failure : Option Failure} {a : α} {f : Failure} :
    Except.error f = granted failure a ↔ failure = some f := by
  cases failure <;> simp [granted, eq_comm]

/-- Which calls about which instance fail, and what the consoles answer. -/
structure Hazards where
  lookup : InstanceId → Option Failure
  destroy : InstanceId → Option Failure
  removeInstance : InstanceId → Option Failure
  removeActivity : InstanceId → Option Failure
  console : InstanceId → Outcome String

/-- The rows of an instance. -/
structure Cell where
  row : Option Instance
  activity : Option Activity

/-- The rows of an instance. -/
def Tables.cell (x : Tables) (id : InstanceId) : Cell :=
  ⟨Rows.find? Instance.id id x.rows, Rows.find? Activity.server id x.activities⟩

namespace Hazards

variable (F : Hazards)

/-- How anything is answered that a cycle asks, and what comes of it. Others leave the tables alone
meanwhile. A call that fails changes nothing. Balances, the notifier and the log may answer
anything, or fail. -/
def Answers (listed : List Instance) (x : Tables) : Asked → Tables → Prop
  | ⟨_, .call (.listInstances _), o⟩, x' => o = .ok listed ∧ x' = x
  | ⟨_, .call (.balance _), _⟩, x' => x' = x
  | ⟨_, .call (.findInstance id), o⟩, x' =>
    o = granted (F.lookup id) (Rows.find? Instance.id id x.rows) ∧ x' = x
  | ⟨_, .call (.destroy id _), o⟩, x' => o = granted (F.destroy id) () ∧ x' = x
  | ⟨_, .call (.removeInstance id), o⟩, x' => o = granted (F.removeInstance id) () ∧
    x' = if F.removeInstance id = none then x.withoutInstance id else x
  | ⟨_, .call (.removeActivity id), o⟩, x' => o = granted (F.removeActivity id) () ∧
    x' = if F.removeActivity id = none then x.withoutActivity id else x
  | ⟨step, .call (.console _), o⟩, x' => (∀ id, step = some id → o = F.console id) ∧ x' = x
  | ⟨_, .call (.notify ..), _⟩, x' => x' = x
  | ⟨_, .call (.log e), .ok _⟩, x' => x' = { x with events := e :: x.events }
  | ⟨_, .call (.log _), .error _⟩, x' => x' = x
  | ⟨_, .now, _⟩, x' => x' = x
  | _, _ => False

/-- How anything is answered that is asked about an instance, and what comes of it. -/
def AnswersAt (id : InstanceId) (c : Cell) :
    Program.Reply Request Request.Answer → Cell → Prop
  | ⟨.call (.findInstance _), o⟩, c' => o = granted (F.lookup id) c.row ∧ c' = c
  | ⟨.call (.destroy _ _), o⟩, c' => o = granted (F.destroy id) () ∧ c' = c
  | ⟨.call (.removeInstance _), o⟩, c' => o = granted (F.removeInstance id) () ∧
    c' = if F.removeInstance id = none then { c with row := none } else c
  | ⟨.call (.removeActivity _), o⟩, c' => o = granted (F.removeActivity id) () ∧
    c' = if F.removeActivity id = none then { c with activity := none } else c
  | _, _ => False

variable {F} {listed : List Instance} {x x' y : Tables} {e : Asked} {tr : List Asked}
  {id : InstanceId}

/-- The rows of an instance change by what is asked about it. -/
theorem Answers.at (h : F.Answers listed x e x') (hid : e.request.about? = some id) :
    F.AnswersAt id (x.cell id) e.reply (x'.cell id) := by
  obtain ⟨step, r, a⟩ := e
  cases r with
  | call c =>
    cases c with
    | findInstance k =>
      cases hid
      obtain ⟨rfl, rfl⟩ := h
      exact ⟨rfl, rfl⟩
    | destroy k region =>
      cases hid
      obtain ⟨rfl, rfl⟩ := h
      exact ⟨rfl, rfl⟩
    | removeInstance k =>
      cases hid
      obtain ⟨rfl, rfl⟩ := h
      refine ⟨rfl, ?_⟩
      split
      · exact congrArg (Cell.mk · _) (Rows.find?_drop_self Instance.id id x.rows)
      · rfl
    | removeActivity k =>
      cases hid
      obtain ⟨rfl, rfl⟩ := h
      refine ⟨rfl, ?_⟩
      split
      · exact congrArg (Cell.mk _) (Rows.find?_drop_self Activity.server id x.activities)
      · rfl
    | _ => cases hid
  | _ => cases hid

/-- They stay as they are when something else is asked. -/
theorem Answers.cell_eq (h : F.Answers listed x e x') (hid : e.request.about? ≠ some id) :
    x'.cell id = x.cell id := by
  obtain ⟨step, r, a⟩ := e
  cases r with
  | call c =>
    cases c with
    | removeInstance k =>
      obtain ⟨-, rfl⟩ := h
      have hne : id ≠ k := fun heq => hid (congrArg some heq.symm)
      split
      · exact congrArg (Cell.mk · _) (Rows.find?_drop_of_ne hne x.rows)
      · rfl
    | removeActivity k =>
      obtain ⟨-, rfl⟩ := h
      have hne : id ≠ k := fun heq => hid (congrArg some heq.symm)
      split
      · exact congrArg (Cell.mk _) (Rows.find?_drop_of_ne hne x.activities)
      · rfl
    | log e =>
      cases a with
      | ok u =>
        obtain rfl : x' = { x with events := e :: x.events } := h
        rfl
      | error f => exact congrArg (Tables.cell · id) h
    | listInstances status => exact congrArg (Tables.cell · id) h.2
    | findInstance k => exact congrArg (Tables.cell · id) h.2
    | destroy k region => exact congrArg (Tables.cell · id) h.2
    | console query => exact congrArg (Tables.cell · id) h.2
    | balance owner => exact congrArg (Tables.cell · id) h
    | notify owner message => exact congrArg (Tables.cell · id) h
    | _ => exact h.elim
  | now => exact congrArg (Tables.cell · id) h
  | _ => exact h.elim

/-- What a run of calls is to a single instance. -/
theorem leadsAt (h : Leads (F.Answers listed) x tr y) (id : InstanceId) :
    Leads (F.AnswersAt id) (x.cell id) (Trace.regarding id (tr.map Asked.reply)) (y.cell id) :=
  h.project (Tables.cell · id) Asked.reply _ (fun h hk => h.at (of_decide_eq_true hk))
    fun h hk => h.cell_eq (of_decide_eq_false hk)

/-! ### A removal -/

/-- The row of an instance is removed, if it is there. -/
def Removes (F : Hazards) (id : InstanceId) : Prop :=
  F.lookup id = none ∧ F.destroy id = none ∧ F.removeInstance id = none

instance (F : Hazards) (id : InstanceId) : Decidable (F.Removes id) :=
  inferInstanceAs (Decidable (_ ∧ _))

/-- What a removal gives. -/
def removal (F : Hazards) (id : InstanceId) (row : Option Instance) : Outcome Bool :=
  match F.lookup id with
  | some f => .error f
  | none =>
    if row.isNone then .ok false
    else granted ((F.destroy id).or ((F.removeInstance id).or (F.removeActivity id))) true

end Hazards

/-- The rows of an instance after a removal. -/
def Cell.removed (c : Cell) (F : Hazards) (id : InstanceId) : Cell where
  row := if F.Removes id then none else c.row
  activity :=
    if c.row.isSome ∧ F.Removes id ∧ F.removeActivity id = none then none else c.activity

namespace Hazards

variable {F : Hazards} {id : InstanceId} {i : Instance} {reason : String} {c c' : Cell} {t : Trace}

/-- A call about the instance comes first. -/
theorem leads_of_call {call : Call} {o : Outcome call.Result}
    (h : Leads (F.AnswersAt id) c (Trace.regarding id (⟨.call call, o⟩ :: t)) c')
    (hid : (Request.call call).about? = some id) :
    ∃ z, F.AnswersAt id c ⟨.call call, o⟩ z ∧ Leads (F.AnswersAt id) z (t.regarding id) c' := by
  rw [Trace.regarding, List.filter_cons_of_pos (by simpa using hid)] at h
  exact h.of_cons

/-- An instance that has a row is terminated. -/
theorem terminate_of_gives {v : Outcome Unit}
    (hgives : (Termination.terminate i reason).run.Gives t v)
    (hleads : Leads (F.AnswersAt i.id) c (t.regarding i.id) c') :
    v = granted ((F.destroy i.id).or ((F.removeInstance i.id).or (F.removeActivity i.id))) () ∧
    c'.row = (if F.destroy i.id = none ∧ F.removeInstance i.id = none then none else c.row) ∧
    c'.activity = if F.destroy i.id = none ∧ F.removeInstance i.id = none ∧
      F.removeActivity i.id = none then none else c.activity := by
  obtain ⟨_, t₁, rfl, h₁⟩ | ⟨f, rfl, rfl⟩ := hgives.of_callThen
  · obtain ⟨_, ⟨hdestroy, rfl⟩, hleads₁⟩ := leads_of_call hleads rfl
    have hd := (granted_eq_ok_iff.mp hdestroy).1
    obtain ⟨_, t₂, rfl, h₂⟩ | ⟨f, rfl, rfl⟩ := h₁.of_callThen
    · obtain ⟨_, ⟨hremove, rfl⟩, hleads₂⟩ := leads_of_call hleads₁ rfl
      have hr := (granted_eq_ok_iff.mp hremove).1
      obtain ⟨_, t₃, rfl, h₃⟩ | ⟨f, rfl, rfl⟩ := h₂.of_callThen
      · obtain ⟨_, ⟨hactivity, rfl⟩, hleads₃⟩ := leads_of_call hleads₂ rfl
        have ha := (granted_eq_ok_iff.mp hactivity).1
        obtain ⟨now, o, rfl, rfl⟩ := h₃.of_record
        obtain rfl := hleads₃.of_nil
        simp [hd, hr, ha, granted]
      · obtain ⟨_, ⟨hactivity, rfl⟩, hleads₃⟩ := leads_of_call hleads₂ rfl
        have ha := granted_eq_error_iff.mp hactivity
        obtain rfl := hleads₃.of_nil
        simp [hd, hr, ha, granted]
    · obtain ⟨_, ⟨hremove, rfl⟩, hleads₂⟩ := leads_of_call hleads₁ rfl
      have hr := granted_eq_error_iff.mp hremove
      obtain rfl := hleads₂.of_nil
      simp [hd, hr, granted]
  · obtain ⟨_, ⟨hdestroy, rfl⟩, hleads₁⟩ := leads_of_call hleads rfl
    have hd := granted_eq_error_iff.mp hdestroy
    obtain rfl := hleads₁.of_nil
    simp [hd, granted]

/-- A removal gives and leaves what the calls about its instance come to. -/
theorem removal_of_gives {v : Outcome Bool} (hgives : (Termination.remove id reason).run.Gives t v)
    (hleads : Leads (F.AnswersAt id) c (t.regarding id) c')
    (hrow : ∀ i, c.row = some i → i.id = id) :
    v = F.removal id c.row ∧ c' = c.removed F id := by
  obtain ⟨_, activity⟩ := c
  obtain ⟨row, t₁, rfl, h₁⟩ | ⟨f, rfl, rfl⟩ := hgives.of_callThen
  · obtain ⟨_, ⟨hlookup, rfl⟩, hleads₁⟩ := leads_of_call hleads rfl
    obtain ⟨hl, rfl⟩ := granted_eq_ok_iff.mp hlookup
    cases row with
    | none =>
      obtain ⟨rfl, rfl⟩ := h₁.of_pure
      obtain rfl := hleads₁.of_nil
      simp [removal, Cell.removed, hl]
    | some i =>
      obtain rfl := hrow i rfl
      obtain ⟨crow, cactivity⟩ := c'
      obtain ⟨t₂, _, t₃, rfl, h₂, h₃⟩ | ⟨f, rfl, h₂⟩ := h₁.of_andThen
      · obtain ⟨rfl, rfl⟩ := h₃.of_pure
        rw [List.append_nil] at hleads₁
        obtain ⟨hv, rfl, rfl⟩ := terminate_of_gives h₂ hleads₁
        have hnone := (granted_eq_ok_iff.mp hv).1
        simp [removal, Cell.removed, Removes, hl, hnone, granted, and_assoc]
      · obtain ⟨hv, rfl, rfl⟩ := terminate_of_gives h₂ hleads₁
        have hsome := granted_eq_error_iff.mp hv
        simp [removal, Cell.removed, Removes, hl, hsome, granted, and_assoc]
  · obtain ⟨_, ⟨hlookup, rfl⟩, hleads₁⟩ := leads_of_call hleads rfl
    have hl := granted_eq_error_iff.mp hlookup
    obtain rfl := hleads₁.of_nil
    simp [removal, Cell.removed, Removes, hl]

end Hazards

end GameFleet
