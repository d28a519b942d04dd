import GameFleet.Proofs.Registry.Basic
import GameFleet.Proofs.Removal.Attempts
import Mathlib.Data.List.Nodup

/-!
# An owner's instances (specification §4.6)

An owner's instances are terminated one after another, and any call may fail on the way. Whatever
fails, what is left follows from the calls that were made: those before the failure are complete,
none is made after it, and none is about anybody else's instances.

- `Venture`: a call that was made, and what befell it; `Tables.left`: what some calls leave, and
  `Tables.rows_left`, `Tables.activities_left`, `Tables.events_left`.
- `Tables.Yields`: what an operation gives in some `Weather`, and the calls that it makes.
- `Completed`, `Interrupted`: the calls for instances that are terminated, and for one whose
  termination fails; `Tables.terminateAll_course`: there are no others.
- `Tables.Course`, `Tables.removeOwned_course`: the calls for all instances of an owner.
- `Tables.Confined`, `Tables.removeOwned_confined`: the theorem.
-/

namespace GameFleet

/-! ### Calls, and what befalls them -/

namespace Call

/-- The instance whose row is to be removed. -/
def row? : Call → Option InstanceId
  | .removeInstance id => some id
  | _ => none

/-- The instance whose activity row is to be removed. -/
def activity? : Call → Option InstanceId
  | .removeActivity id => some id
  | _ => none

/-- The event that is to be logged. -/
def event? : Call → Option Event
  | .log e => some e
  | _ => none

/-- The instance that is to be destroyed, and where. -/
def doomed? : Call → Option (InstanceId × String)
  | .destroy id region => some (id, region)
  | _ => none

end Call

/-- What befalls a call: nothing, or it fails, and whether it took effect nevertheless. -/
abbrev Mishap := Option (Failure × Bool)

/-- A call that was made, and what befell it. -/
structure Venture where
  call : Call
  mishap : Mishap := none

/-- The call took effect. -/
def Venture.took (v : Venture) : Bool := v.mishap.all (·.2)

/-- What a call was to do, if it took effect. -/
def Venture.effect? {α : Type} (aim? : Call → Option α) (v : Venture) : Option α :=
  if v.took then aim? v.call else none

/-- A call that was not to do something did not do it. -/
theorem Venture.effect?_of_none {α : Type} {aim? : Call → Option α} {v : Venture}
    (h : aim? v.call = none) : v.effect? aim? = none := by
  unfold effect?
  rw [h]
  exact ite_self none

/-- What calls were to do that took effect, one after another. -/
theorem Venture.effects_cons {α : Type} (aim? : Call → Option α) (v : Venture)
    (vs : List Venture) : (v :: vs).filterMap (effect? aim?) =
      (if v.took then (aim? v.call).toList else []) ++ vs.filterMap (effect? aim?) := by
  by_cases htook : v.took
  · cases haim : aim? v.call <;> simp [effect?, htook, haim]
  · simp [effect?, htook]

namespace Tables

/-- What a call leaves that takes effect. -/
def upon (t : Tables) : Call → Tables
  | .removeInstance id => t.withoutInstance id
  | .removeActivity id => t.withoutActivity id
  | .log e => { t with events := e :: t.events }
  | _ => t

/-- What some calls leave, one after another. -/
def left (t : Tables) (vs : List Venture) : Tables :=
  vs.foldl (fun t v => if v.took then t.upon v.call else t) t

theorem rows_upon (t : Tables) (c : Call) :
    (t.upon c).rows = t.rows.filter fun r => c.row? ≠ some r.id := by
  cases c with
  | removeInstance id => simp [upon, withoutInstance, Rows.drop, Call.row?, eq_comm]
  | _ => exact (List.filter_eq_self.mpr fun _ _ => rfl).symm

theorem activities_upon (t : Tables) (c : Call) :
    (t.upon c).activities = t.activities.filter fun a => c.activity? ≠ some a.server := by
  cases c with
  | removeActivity id => simp [upon, withoutActivity, Rows.drop, Call.activity?, eq_comm]
  | _ => exact (List.filter_eq_self.mpr fun _ _ => rfl).symm

theorem events_upon (t : Tables) (c : Call) :
    (t.upon c).events = c.event?.toList ++ t.events := by
  cases c <;> rfl

/-- Where every call removes what it is to remove, what is left is what no call removed. -/
theorem filter_left {α : Type} {kept : Tables → List α} {key : α → InstanceId}
    {aim? : Call → Option InstanceId}
    (h : ∀ t c, kept (t.upon c) = (kept t).filter fun a => aim? c ≠ some (key a))
    (t : Tables) (vs : List Venture) :
    kept (t.left vs) = (kept t).filter fun a => key a ∉ vs.filterMap (Venture.effect? aim?) := by
  induction vs generalizing t with
  | nil => exact (List.filter_eq_self.mpr fun _ _ => by simp).symm
  | cons v vs ih =>
    refine (ih _).trans ?_
    rw [Venture.effects_cons]
    by_cases htook : v.took
    · simp only [htook, if_true, h, List.filter_filter]
      refine List.filter_congr fun a _ => ?_
      cases aim? v.call with
      | none => simp
      | some id => simp [not_or, Bool.and_comm, eq_comm]
    · simp only [htook, Bool.false_eq_true, if_false, List.nil_append]

/-- The rows that are left are those that no call removed. -/
theorem rows_left (t : Tables) (vs : List Venture) : (t.left vs).rows =
    t.rows.filter fun r => r.id ∉ vs.filterMap (Venture.effect? Call.row?) :=
  filter_left rows_upon t vs

/-- The activity rows that are left are those that no call removed. -/
theorem activities_left (t : Tables) (vs : List Venture) : (t.left vs).activities =
    t.activities.filter fun a => a.server ∉ vs.filterMap (Venture.effect? Call.activity?) :=
  filter_left activities_upon t vs

/-- The events that were logged come before those that were there. -/
theorem events_left (t : Tables) (vs : List Venture) : (t.left vs).events =
    (vs.filterMap (Venture.effect? Call.event?)).reverse ++ t.events := by
  induction vs generalizing t with
  | nil => rfl
  | cons v vs ih =>
    refine (ih _).trans ?_
    rw [Venture.effects_cons]
    by_cases htook : v.took
    · simp only [htook, if_true, events_upon]
      cases v.call.event? <;> simp
    · simp only [htook, Bool.false_eq_true, if_false, List.nil_append]

/-- What a call gives that succeeds. There is only what terminating an owner's instances asks
for. -/
def gives (t : Tables) : (c : Call) → Outcome c.Result
  | .ownersInstances owner => .ok (Registry.owned owner t.rows)
  | .destroy .. => .ok ()
  | .removeInstance _ => .ok ()
  | .removeActivity _ => .ok ()
  | .log _ => .ok ()
  | _ => .error (.internal "nobody was asked")

end Tables

/-- What happens while an operation is carried out: what befalls its calls, by number, and what the
clock shows between them. -/
structure Weather where
  mishap : Nat → Mishap
  clock : Nat → Timestamp

namespace Tables

/-- How anything is answered after some calls. Nobody else changes the tables. -/
def respond (t : Tables) (w : Weather) (vs : List Venture) :
    (q : Request) → q.Answer × List Venture
  | .call c =>
    ((w.mishap vs.length).elim ((t.left vs).gives c) (.error ·.1),
      vs ++ [⟨c, w.mishap vs.length⟩])
  | .now => (w.clock vs.length, vs)
  | .freshId => (.numbered 0, vs)
  | .abandon => ((), vs)
  | .isQueued .. => (false, vs)
  | .enqueue _ => ((), vs)

/-- What an operation gives after some calls, and all calls once it has ended. -/
def carried {α : Type} (t : Tables) (w : Weather) (vs : List Venture) (op : Op α) :
    Outcome α × List Venture :=
  Program.answered (t.respond w) vs op.run

/-- After some calls, an operation ends in an outcome and has made some more. -/
def Yields {α : Type} (t : Tables) (w : Weather) (vs : List Venture) (op : Op α) (o : Outcome α)
    (us : List Venture) : Prop :=
  t.carried w vs op = (o, vs ++ us)

variable {t : Tables} {w : Weather} {vs us ws : List Venture} {α β : Type} {op : Op α} {f : Failure}

theorem yields_pure (t : Tables) (w : Weather) (vs : List Venture) (o : Outcome α) :
    t.Yields w vs (ExceptT.mk (pure o)) o [] :=
  congrArg (Prod.mk o) (List.append_nil vs).symm

/-- One operation after another. -/
theorem Yields.andThen {a : α} {g : α → Op β} {o : Outcome β} (h : t.Yields w vs op (.ok a) us)
    (h' : t.Yields w (vs ++ us) (g a) o ws) : t.Yields w vs (op >>= g) o (us ++ ws) := by
  unfold Yields at *
  rw [← List.append_assoc, ← h']
  exact Op.answered_bind_ok h g

/-- An operation fails with the one before it. -/
theorem Yields.fails (h : t.Yields w vs op (.error f) us) (g : α → Op β) :
    t.Yields w vs (op >>= g) (.error f) us :=
  Op.answered_bind_error h g

/-- The value of an operation, changed. -/
theorem Yields.gives {a : α} (h : t.Yields w vs op (.ok a) us) (g : α → β) :
    t.Yields w vs (op >>= fun a => pure (g a)) (.ok (g a)) us := by
  have hpure := h.andThen (g := fun a => pure (g a)) (yields_pure t w _ (.ok (g a)))
  rwa [List.append_nil] at hpure

/-- A call gives what it gives, or fails. -/
theorem yields_call (t : Tables) (w : Weather) (vs : List Venture) (c : Call) :
    (w.mishap vs.length = none ∧
      t.Yields w vs (Op.call c) ((t.left vs).gives c) [⟨c, none⟩]) ∨
    ∃ f took, w.mishap vs.length = some (f, took) ∧
      t.Yields w vs (Op.call c) (.error f) [⟨c, some (f, took)⟩] := by
  have hcall : t.carried w vs (Op.call c) =
      ((w.mishap vs.length).elim ((t.left vs).gives c) (.error ·.1),
        vs ++ [⟨c, w.mishap vs.length⟩]) := rfl
  cases hm : w.mishap vs.length with
  | none =>
    rw [hm] at hcall
    exact .inl ⟨rfl, hcall⟩
  | some x =>
    rw [hm] at hcall
    exact .inr ⟨x.1, x.2, rfl, hcall⟩

/-- An event is logged with the time, and it does not matter what comes of it. -/
theorem yields_record (t : Tables) (w : Weather) (vs : List Venture) (actor message : String) :
    t.Yields w vs (Op.record actor message) (.ok ())
      [⟨.log ⟨message, actor, w.clock vs.length⟩, w.mishap vs.length⟩] := rfl

end Tables

/-! ### The calls of a termination -/

/-- The calls with which some instances are terminated. Only what logs an event may fail. -/
inductive Completed (reason : String) : List Instance → List Venture → Prop
  | nil : Completed reason [] []
  | cons {i : Instance} {is : List Instance} {vs : List Venture} (now : Timestamp) (m : Mishap)
    (h : Completed reason is vs) :
    Completed reason (i :: is)
      (⟨.destroy i.id i.region, none⟩ :: ⟨.removeInstance i.id, none⟩ ::
        ⟨.removeActivity i.id, none⟩ ::
        ⟨.log ⟨Termination.message i reason, i.owner.text, now⟩, m⟩ :: vs)

theorem Completed.append {reason : String} {is js : List Instance} {us ws : List Venture}
    (h : Completed reason is us) (h' : Completed reason js ws) :
    Completed reason (is ++ js) (us ++ ws) := by
  induction h with
  | nil => exact h'
  | cons now m h ih => exact .cons now m ih

/-- The calls for an instance whose termination fails. -/
inductive Interrupted (i : Instance) (f : Failure) : List Venture → Prop
  | destroy (took : Bool) : Interrupted i f [⟨.destroy i.id i.region, some (f, took)⟩]
  | removeInstance (took : Bool) : Interrupted i f
    [⟨.destroy i.id i.region, none⟩, ⟨.removeInstance i.id, some (f, took)⟩]
  | removeActivity (took : Bool) : Interrupted i f
    [⟨.destroy i.id i.region, none⟩, ⟨.removeInstance i.id, none⟩,
      ⟨.removeActivity i.id, some (f, took)⟩]

namespace Tables

variable {t : Tables} {w : Weather} {vs us : List Venture} {i : Instance} {reason : String}

/-- The termination of an instance makes all its calls, or fails with the first that does. -/
theorem terminate_course (t : Tables) (w : Weather) (vs : List Venture) (i : Instance)
    (reason : String) :
    (∃ us, t.Yields w vs (Termination.terminate i reason) (.ok ()) us ∧
      Completed reason [i] us) ∨
    ∃ f us, t.Yields w vs (Termination.terminate i reason) (.error f) us ∧
      Interrupted i f us := by
  let destroyed : Venture := ⟨.destroy i.id i.region, none⟩
  let removed : Venture := ⟨.removeInstance i.id, none⟩
  let forgotten : Venture := ⟨.removeActivity i.id, none⟩
  obtain ⟨-, hd⟩ | ⟨f, took, -, hd⟩ := yields_call t w vs (.destroy i.id i.region)
  · obtain ⟨-, hr⟩ | ⟨f, took, -, hr⟩ :=
      yields_call t w (vs ++ [destroyed]) (.removeInstance i.id)
    · obtain ⟨-, ha⟩ | ⟨f, took, -, ha⟩ :=
        yields_call t w (vs ++ [destroyed] ++ [removed]) (.removeActivity i.id)
      · have hlog := yields_record t w (vs ++ [destroyed] ++ [removed] ++ [forgotten])
          i.owner.text (Termination.message i reason)
        exact .inl ⟨_, hd.andThen (hr.andThen (ha.andThen hlog)), .cons _ _ .nil⟩
      · exact .inr ⟨f, _, hd.andThen (hr.andThen (ha.fails _)), .removeActivity took⟩
    · exact .inr ⟨f, _, hd.andThen (hr.fails _), .removeInstance took⟩
  · exact .inr ⟨f, _, hd.fails _, .destroy took⟩

/-- Instances are terminated one after another, and the first failure ends it. -/
theorem terminateAll_course (t : Tables) (w : Weather) (vs : List Venture) (reason : String)
    (is : List Instance) :
    (∃ us, t.Yields w vs (Termination.terminateAll reason is) (.ok (is.map Instance.id)) us ∧
      Completed reason is us) ∨
    ∃ before i rest f us ws, is = before ++ i :: rest ∧
      t.Yields w vs (Termination.terminateAll reason is) (.error f) (us ++ ws) ∧
      Completed reason before us ∧ Interrupted i f ws := by
  induction is generalizing vs with
  | nil => exact .inl ⟨[], yields_pure t w vs _, .nil⟩
  | cons i rest ih =>
    obtain ⟨us, hi, hus⟩ | ⟨f, us, hi, hus⟩ := terminate_course t w vs i reason
    · obtain ⟨ws, hrest, hws⟩ | ⟨before, j, after, f, us', ws, rfl, hrest, hus', hws⟩ :=
        ih (vs ++ us)
      · exact .inl ⟨us ++ ws, hi.andThen (hrest.gives _), hus.append hws⟩
      · refine .inr ⟨i :: before, j, after, f, us ++ us', ws, rfl, ?_, hus.append hus', hws⟩
        rw [List.append_assoc]
        exact hi.andThen (hrest.fails _)
    · exact .inr ⟨[], i, rest, f, [], us, rfl, hi.fails _, .nil, hus⟩

end Tables

/-! ### What the calls come to -/

section

variable {reason : String} {is : List Instance} {i : Instance} {f : Failure} {vs : List Venture}

/-- The instances that are terminated lose their rows. -/
theorem Completed.rows (h : Completed reason is vs) :
    vs.filterMap (Venture.effect? Call.row?) = is.map Instance.id := by
  induction h with
  | nil => rfl
  | @cons i is vs now m h ih =>
    show i.id :: (_ :: vs).filterMap (Venture.effect? Call.row?) = i.id :: is.map Instance.id
    rw [List.filterMap_cons_none (Venture.effect?_of_none rfl), ih]

/-- They lose their activity rows. -/
theorem Completed.activities (h : Completed reason is vs) :
    vs.filterMap (Venture.effect? Call.activity?) = is.map Instance.id := by
  induction h with
  | nil => rfl
  | @cons i is vs now m h ih =>
    show i.id :: (_ :: vs).filterMap (Venture.effect? Call.activity?) = i.id :: is.map Instance.id
    rw [List.filterMap_cons_none (Venture.effect?_of_none rfl), ih]

/-- They are destroyed, and no others. -/
theorem Completed.doomed (h : Completed reason is vs) :
    vs.filterMap (·.call.doomed?) = is.map fun i => (i.id, i.region) := by
  induction h with
  | nil => rfl
  | cons now m h ih => simpa [Call.doomed?] using ih

/-- One event is to be logged of each. -/
theorem Completed.events (h : Completed reason is vs) :
    (vs.filterMap (·.call.event?)).map (fun e => (e.message, e.actor)) =
      is.map fun i => (Termination.message i reason, i.owner.text) := by
  induction h with
  | nil => rfl
  | cons now m h ih => simpa [Call.event?] using ih

/-- An instance whose termination fails keeps its row unless it was destroyed and the removal of
the row took effect. -/
theorem Interrupted.rows (h : Interrupted i f vs) :
    vs.filterMap (Venture.effect? Call.row?) = [] ∨
      (vs.filterMap (Venture.effect? Call.row?) = [i.id] ∧
        ⟨.destroy i.id i.region, none⟩ ∈ vs ∧
        ∃ v ∈ vs, v.call = .removeInstance i.id ∧ v.took) := by
  cases h with
  | destroy took => cases took <;> exact .inl rfl
  | removeInstance took =>
    cases took with
    | true => exact .inr ⟨rfl, by simp, _, List.mem_cons_of_mem _ List.mem_cons_self, rfl, rfl⟩
    | false => exact .inl rfl
  | removeActivity took =>
    have hrow : ([⟨.destroy i.id i.region, none⟩, ⟨.removeInstance i.id, none⟩,
        ⟨.removeActivity i.id, some (f, took)⟩] : List Venture).filterMap
          (Venture.effect? Call.row?) = [i.id] := by
      cases took <;> rfl
    exact .inr ⟨hrow, by simp, _, List.mem_cons_of_mem _ List.mem_cons_self, rfl, rfl⟩

theorem Interrupted.mem_rows (h : Interrupted i f vs) :
    ∀ id ∈ vs.filterMap (Venture.effect? Call.row?), id = i.id := by
  intro id hid
  obtain hnil | ⟨hrow, -⟩ := h.rows
  · rw [hnil] at hid
    cases hid
  · rw [hrow] at hid
    exact List.mem_singleton.mp hid

/-- It may lose its activity row, and no other does. -/
theorem Interrupted.activities (h : Interrupted i f vs) :
    ∀ id ∈ vs.filterMap (Venture.effect? Call.activity?), id = i.id := by
  cases h with
  | destroy took => cases took <;> exact fun _ => nofun
  | removeInstance took => cases took <;> exact fun _ => nofun
  | removeActivity took =>
    cases took with
    | true => exact fun id hid => List.mem_singleton.mp hid
    | false => exact fun _ => nofun

/-- It is to be destroyed, and no other is. -/
theorem Interrupted.doomed (h : Interrupted i f vs) :
    vs.filterMap (·.call.doomed?) = [(i.id, i.region)] := by
  cases h <;> rfl

/-- Nothing is logged. -/
theorem Interrupted.events (h : Interrupted i f vs) : vs.filterMap (·.call.event?) = [] := by
  cases h <;> rfl

end

namespace Tables

variable {t : Tables} {w : Weather} {owner : OwnerId} {vs : List Venture} {id : InstanceId}

/-- What is logged when an owner without instances wants them terminated. -/
def nothingOwned (owner : OwnerId) (now : Timestamp) : Event :=
  ⟨"Owner tried to terminate a server but has none.", owner.text, now⟩

/-- Why an owner's instances are terminated. -/
def byOwner : String := "terminated by its owner"

/-- The course of the termination of an owner's instances: what it gives, and its calls. -/
inductive Course (t : Tables) (w : Weather) (owner : OwnerId) :
    Outcome (List InstanceId) → List Venture → Prop
  /-- The owner's instances cannot be listed. -/
  | unlisted (f : Failure) (took : Bool) (h : w.mishap 0 = some (f, took)) :
    Course t w owner (.error f) [⟨.ownersInstances owner, some (f, took)⟩]
  /-- There are none. -/
  | nothing (now : Timestamp) (m : Mishap) (h : w.mishap 0 = none)
    (hnone : Registry.owned owner t.rows = []) :
    Course t w owner (.error (.user Termination.nothingOwned))
      [⟨.ownersInstances owner, none⟩, ⟨.log (nothingOwned owner now), m⟩]
  /-- All are terminated. -/
  | all (us : List Venture) (h : w.mishap 0 = none) (hsome : Registry.owned owner t.rows ≠ [])
    (hus : Completed byOwner (Registry.owned owner t.rows) us) :
    Course t w owner (.ok ((Registry.owned owner t.rows).map Instance.id))
      (⟨.ownersInstances owner, none⟩ :: us)
  /-- One termination fails. -/
  | part (before : List Instance) (i : Instance) (rest : List Instance) (f : Failure)
    (us ws : List Venture) (h : w.mishap 0 = none)
    (howned : Registry.owned owner t.rows = before ++ i :: rest)
    (hus : Completed byOwner before us) (hws : Interrupted i f ws) :
    Course t w owner (.error f) (⟨.ownersInstances owner, none⟩ :: (us ++ ws))

/-- The termination of an owner's instances has one of these courses. -/
theorem removeOwned_course (t : Tables) (w : Weather) (owner : OwnerId) :
    Course t w owner (t.carried w [] (Termination.removeOwned owner)).1
      (t.carried w [] (Termination.removeOwned owner)).2 := by
  have hends {o : Outcome (List InstanceId)} {us : List Venture}
      (h : t.Yields w [] (Termination.removeOwned owner) o us) (hc : Course t w owner o us) :
      Course t w owner (t.carried w [] (Termination.removeOwned owner)).1
        (t.carried w [] (Termination.removeOwned owner)).2 := by
    rw [show t.carried w [] (Termination.removeOwned owner) = (o, us) from h]
    exact hc
  let listed : Venture := ⟨.ownersInstances owner, none⟩
  obtain ⟨hm, hlist⟩ | ⟨f, took, hm, hlist⟩ := yields_call t w [] (.ownersInstances owner)
  · have hlisted : t.Yields w [] (Op.call (.ownersInstances owner))
        (.ok (Registry.owned owner t.rows)) [listed] := hlist
    cases howned : Registry.owned owner t.rows with
    | nil =>
      rw [howned] at hlisted
      have hlog := yields_record t w ([] ++ [listed]) owner.text
        "Owner tried to terminate a server but has none."
      exact hends (hlisted.andThen (hlog.andThen (yields_pure t w _ (.error _))))
        (.nothing _ _ hm howned)
    | cons first others =>
      rw [howned] at hlisted
      obtain ⟨us, hall, hus⟩ | ⟨before, i, rest, f, us, ws, heq, hpart, hus, hws⟩ :=
        terminateAll_course t w ([] ++ [listed]) byOwner (first :: others)
      · refine hends (hlisted.andThen hall) ?_
        rw [← howned] at hus ⊢
        exact .all us hm (by simp [howned]) hus
      · exact hends (hlisted.andThen hpart)
          (.part before i rest f us ws hm (howned.trans heq) hus hws)
  · exact hends (hlist.fails _) (.unlisted f took hm)

/-! ### What is left -/

/-- Of an instance there is no row left. -/
def Lacks (t : Tables) (id : InstanceId) : Prop :=
  (∀ r ∈ t.rows, r.id ≠ id) ∧ ∀ a ∈ t.activities, a.server ≠ id

/-- The rows of an instance are what they were. -/
def Keeps (t t' : Tables) (id : InstanceId) : Prop :=
  t'.rows.filter (fun r => r.id = id) = t.rows.filter (fun r => r.id = id) ∧
    t'.activities.filter (fun a => a.server = id) = t.activities.filter (fun a => a.server = id)

/-- A row that stays if its instance is not among some stays whatever else does. -/
theorem filter_keeps {α : Type} {key : α → InstanceId} {rows : List α} {removed : List InstanceId}
    {P : α → Prop} [DecidablePred P] (h : ∀ a ∈ rows, P a → key a ∉ removed) :
    (rows.filter fun a => key a ∉ removed).filter (fun a => P a) = rows.filter fun a => P a := by
  rw [List.filter_filter]
  refine List.filter_congr fun a ha => ?_
  by_cases hp : P a
  · simp [hp, h a ha hp]
  · simp [hp]

/-- The rows of an instance are gone if calls removed both. -/
theorem lacks_left (hrow : id ∈ vs.filterMap (Venture.effect? Call.row?))
    (hactivity : id ∈ vs.filterMap (Venture.effect? Call.activity?)) : (t.left vs).Lacks id := by
  unfold Lacks
  rw [rows_left, activities_left]
  constructor
  · intro r hr hid
    exact of_decide_eq_true (List.mem_filter.mp hr).2 (hid ▸ hrow)
  · intro a ha hid
    exact of_decide_eq_true (List.mem_filter.mp ha).2 (hid ▸ hactivity)

/-- The rows of an instance are what they were if no call removed one. -/
theorem keeps_left (hrow : id ∉ vs.filterMap (Venture.effect? Call.row?))
    (hactivity : id ∉ vs.filterMap (Venture.effect? Call.activity?)) : t.Keeps (t.left vs) id := by
  unfold Keeps
  rw [rows_left, activities_left]
  exact ⟨filter_keeps fun r _ hr => hr ▸ hrow, filter_keeps fun a _ ha => ha ▸ hactivity⟩

/-- An owner's instances are terminated one after another, and nothing else is done. -/
structure Confined (t : Tables) (w : Weather) (owner : OwnerId) (o : Outcome (List InstanceId))
    (vs : List Venture) : Prop where
  /-- A result names all instances of the owner, of which there are some, in the order in which they
  are listed; none of their rows remains, and one event was to be logged of each. -/
  ok : ∀ ids, o = .ok ids →
    Registry.owned owner t.rows ≠ [] ∧ ids = (Registry.owned owner t.rows).map Instance.id ∧
      (∀ i ∈ Registry.owned owner t.rows, (t.left vs).Lacks i.id) ∧
      (vs.filterMap (·.call.event?)).map (fun e => (e.message, e.actor)) =
        (Registry.owned owner t.rows).map fun i => (Termination.message i byOwner, owner.text)
  /-- An owner who has none is told so. One event is to be logged, and nothing else changes. -/
  nothing : Registry.owned owner t.rows = [] → w.mishap 0 = none →
    o = .error (.user Termination.nothingOwned) ∧
      (∃ now, vs.filterMap (·.call.event?) = [nothingOwned owner now]) ∧
      (t.left vs).rows = t.rows ∧ (t.left vs).activities = t.activities
  /-- When the instances cannot be listed, nothing changes. -/
  unlisted : ∀ f took, w.mishap 0 = some (f, took) → o = .error f ∧ t.left vs = t
  /-- When a termination fails, those before it are complete, those after it are not begun, and the
  instance keeps its row unless it was destroyed and the removal of the row took effect. -/
  part : ∀ f, o = .error f → Registry.owned owner t.rows ≠ [] → w.mishap 0 = none →
    ∃ before i rest, Registry.owned owner t.rows = before ++ i :: rest ∧
      (∀ j ∈ before, (t.left vs).Lacks j.id) ∧
      (vs.filterMap (·.call.event?)).map (fun e => (e.message, e.actor)) =
        before.map (fun j => (Termination.message j byOwner, owner.text)) ∧
      (∀ j ∈ rest, t.Keeps (t.left vs) j.id ∧ ∀ v ∈ vs, ∀ region, v.call ≠ .destroy j.id region) ∧
      (i ∈ (t.left vs).rows ∨ (⟨.destroy i.id i.region, none⟩ ∈ vs ∧
        ∃ v ∈ vs, v.call = .removeInstance i.id ∧ v.took))
  /-- What was to be logged stands in the log, unless that failed. -/
  events : (t.left vs).events = (vs.filterMap (Venture.effect? Call.event?)).reverse ++ t.events
  /-- The rows of other owners are what they were. -/
  rows : (t.left vs).rows.filter (fun r => r.owner ≠ owner) =
    t.rows.filter (fun r => r.owner ≠ owner)
  /-- So are the activity rows of instances that are not the owner's. -/
  activities : (t.left vs).activities.filter
      (fun a => a.server ∉ (Registry.owned owner t.rows).map Instance.id) =
    t.activities.filter (fun a => a.server ∉ (Registry.owned owner t.rows).map Instance.id)
  /-- Only instances of the owner are destroyed. -/
  destroys : ∀ v ∈ vs, ∀ id region, v.call = .destroy id region →
    ∃ i ∈ Registry.owned owner t.rows, i.id = id ∧ i.region = region

/-- What is destroyed by one of some calls is among what they destroy. -/
theorem mem_doomed {v : Venture} {region : String} (hv : v ∈ vs)
    (hcall : v.call = .destroy id region) : (id, region) ∈ vs.filterMap (·.call.doomed?) :=
  List.mem_filterMap.mpr ⟨v, hv, by rw [hcall]; rfl⟩

section

variable {o : Outcome (List InstanceId)} {β : Type} {of : Instance → β} {g : Venture → Option β}

/-- Whatever the calls for an instance come to, the calls of a course come to nothing else. -/
theorem Course.confined (hlist : ∀ m, g ⟨.ownersInstances owner, m⟩ = none)
    (hlog : ∀ e m, g ⟨.log e, m⟩ = none)
    (hall : ∀ {is us}, Completed byOwner is us → us.filterMap g = is.map of)
    (hpart : ∀ {i f us}, Interrupted i f us → ∀ b ∈ us.filterMap g, b = of i)
    (h : Course t w owner o vs) :
    ∀ b ∈ vs.filterMap g, b ∈ (Registry.owned owner t.rows).map of := by
  cases h with
  | unlisted f took h =>
    rw [List.filterMap_cons_none (hlist _)]
    exact fun _ => nofun
  | nothing now m h hnone =>
    rw [List.filterMap_cons_none (hlist _), List.filterMap_cons_none (hlog _ _)]
    exact fun _ => nofun
  | all us h hsome hus =>
    rw [List.filterMap_cons_none (hlist _), hall hus]
    exact fun _ => id
  | part before i rest f us ws h howned hus hws =>
    rw [List.filterMap_cons_none (hlist _), List.filterMap_append, hall hus, howned,
      List.map_append, List.map_cons]
    intro b hb
    obtain hb | hb := List.mem_append.mp hb
    · exact List.mem_append_left _ hb
    · exact List.mem_append_right _ (List.mem_cons.mpr (.inl (hpart hws b hb)))

/-- Only rows of the owner's instances are removed. -/
theorem Course.rows (h : Course t w owner o vs) :
    ∀ id ∈ vs.filterMap (Venture.effect? Call.row?),
      id ∈ (Registry.owned owner t.rows).map Instance.id :=
  h.confined (fun _ => Venture.effect?_of_none rfl) (fun _ _ => Venture.effect?_of_none rfl)
    Completed.rows Interrupted.mem_rows

/-- Only their activity rows are. -/
theorem Course.activities (h : Course t w owner o vs) :
    ∀ id ∈ vs.filterMap (Venture.effect? Call.activity?),
      id ∈ (Registry.owned owner t.rows).map Instance.id :=
  h.confined (fun _ => Venture.effect?_of_none rfl) (fun _ _ => Venture.effect?_of_none rfl)
    Completed.activities Interrupted.activities

/-- Only the owner's instances are destroyed. -/
theorem Course.doomed (h : Course t w owner o vs) : ∀ d ∈ vs.filterMap (·.call.doomed?),
    d ∈ (Registry.owned owner t.rows).map fun i => (i.id, i.region) := by
  refine h.confined (fun _ => rfl) (fun _ _ => rfl) Completed.doomed fun hi d hd => ?_
  rw [hi.doomed] at hd
  exact List.mem_singleton.mp hd

end

/-- The instances of an owner are told apart by their identifiers, and from all others. -/
theorem owned_nodup (hkey : (t.rows.map Instance.id).Nodup) (owner : OwnerId) :
    ((Registry.owned owner t.rows).map Instance.id).Nodup := by
  have hperm := (Sorting.sorted_perm (fun a b : Instance => a.createdAt.le b.createdAt)
    (t.rows.filter (·.owner = owner))).map Instance.id
  exact hperm.nodup_iff.mpr (hkey.sublist (List.filter_sublist.map _))

theorem mem_owned {i : Instance} :
    i ∈ Registry.owned owner t.rows ↔ i ∈ t.rows ∧ i.owner = owner := by
  simp [Registry.owned, Rows.mem_oldestFirst]

section

variable {before rest : List Instance} {i : Instance} {f : Failure} {us ws : List Venture}

/-- The call that lists the instances comes to nothing, and is followed by those for instances. -/
theorem filterMap_listed {β : Type} {g : Venture → Option β} {v : Venture} (hv : g v = none)
    (us ws : List Venture) :
    (v :: (us ++ ws)).filterMap g = us.filterMap g ++ ws.filterMap g := by
  rw [List.filterMap_cons_none hv, List.filterMap_append]

/-- The instances before one in the list are others, and so are those after it. -/
theorem apart_of_owned (hkey : (t.rows.map Instance.id).Nodup)
    (howned : Registry.owned owner t.rows = before ++ i :: rest) :
    i.id ∉ before.map Instance.id ∧
      ∀ j ∈ rest, j.id ∉ before.map Instance.id ∧ j.id ≠ i.id := by
  have hids := owned_nodup hkey owner
  rw [howned, List.map_append, List.map_cons] at hids
  obtain ⟨-, hnodup, hapart⟩ := List.nodup_append.mp hids
  refine ⟨fun h => hapart _ h _ List.mem_cons_self rfl, fun j hj => ⟨fun h => ?_, fun h => ?_⟩⟩
  · exact hapart _ h _ (List.mem_cons_of_mem _ (List.mem_map_of_mem hj)) rfl
  · exact (List.nodup_cons.mp hnodup).1 (h ▸ List.mem_map_of_mem hj)

variable (owner)

/-- The instances before the one whose termination fails have no rows left. -/
theorem lacks_before (t : Tables) (hus : Completed byOwner before us) (ws : List Venture) :
    ∀ j ∈ before, (t.left (⟨.ownersInstances owner, none⟩ :: (us ++ ws))).Lacks j.id := by
  intro j hj
  have hid : j.id ∈ before.map Instance.id := List.mem_map_of_mem hj
  refine lacks_left ?_ ?_
  · rw [filterMap_listed (Venture.effect?_of_none rfl), hus.rows]
    exact List.mem_append_left _ hid
  · rw [filterMap_listed (Venture.effect?_of_none rfl), hus.activities]
    exact List.mem_append_left _ hid

/-- Another instance keeps its rows. -/
theorem keeps_other (t : Tables) (hus : Completed byOwner before us) (hws : Interrupted i f ws)
    (hbefore : id ∉ before.map Instance.id) (hne : id ≠ i.id) :
    t.Keeps (t.left (⟨.ownersInstances owner, none⟩ :: (us ++ ws))) id := by
  refine keeps_left ?_ ?_
  · rw [filterMap_listed (Venture.effect?_of_none rfl), hus.rows]
    intro h
    obtain h | h := List.mem_append.mp h
    · exact hbefore h
    · exact hne (hws.mem_rows _ h)
  · rw [filterMap_listed (Venture.effect?_of_none rfl), hus.activities]
    intro h
    obtain h | h := List.mem_append.mp h
    · exact hbefore h
    · exact hne (hws.activities _ h)

/-- Another instance is not destroyed. -/
theorem not_destroyed_other (hus : Completed byOwner before us) (hws : Interrupted i f ws)
    (hbefore : id ∉ before.map Instance.id) (hne : id ≠ i.id) :
    ∀ v ∈ (⟨.ownersInstances owner, none⟩ :: (us ++ ws) : List Venture), ∀ region,
      v.call ≠ .destroy id region := by
  intro v hv region hcall
  have hmem := mem_doomed hv hcall
  rw [filterMap_listed rfl, hus.doomed, hws.doomed] at hmem
  obtain h | h := List.mem_append.mp hmem
  · obtain ⟨k, hk, heq⟩ := List.mem_map.mp h
    exact hbefore (List.mem_map.mpr ⟨k, hk, congrArg Prod.fst heq⟩)
  · exact hne (congrArg Prod.fst (List.mem_singleton.mp h))

/-- The instance whose termination fails keeps its row, unless it was destroyed and the removal of
the row took effect. -/
theorem row_or_removed (hi : i ∈ t.rows) (hus : Completed byOwner before us)
    (hws : Interrupted i f ws) (hbefore : i.id ∉ before.map Instance.id) :
    let vs := ⟨.ownersInstances owner, none⟩ :: (us ++ ws)
    i ∈ (t.left vs).rows ∨ (⟨.destroy i.id i.region, none⟩ ∈ vs ∧
      ∃ v ∈ vs, v.call = .removeInstance i.id ∧ v.took) := by
  intro vs
  obtain hnil | ⟨-, hdestroyed, v, hv, hremoved⟩ := hws.rows
  · refine .inl ?_
    rw [rows_left, filterMap_listed (Venture.effect?_of_none rfl), hus.rows, hnil,
      List.append_nil]
    exact List.mem_filter.mpr ⟨hi, decide_eq_true hbefore⟩
  · have hin {v : Venture} (h : v ∈ ws) : v ∈ vs :=
      List.mem_cons_of_mem _ (List.mem_append_right _ h)
    exact .inr ⟨hin hdestroyed, v, hin hv, hremoved⟩

end

/-- Whatever fails, and whenever, the termination of an owner's instances is confined to them, and
the first failure ends it: what comes before it is complete, and nothing comes after it. -/
theorem removeOwned_confined (t : Tables) (hkey : (t.rows.map Instance.id).Nodup) (w : Weather)
    (owner : OwnerId) :
    Confined t w owner (t.carried w [] (Termination.removeOwned owner)).1
      (t.carried w [] (Termination.removeOwned owner)).2 := by
  have hcourse := removeOwned_course t w owner
  generalize (t.carried w [] (Termination.removeOwned owner)).1 = o at hcourse ⊢
  generalize (t.carried w [] (Termination.removeOwned owner)).2 = vs at hcourse ⊢
  constructor
  case ok =>
    rintro ids rfl
    cases hcourse with
    | all us h hsome hus =>
      have hgone := lacks_before owner t hus []
      rw [List.append_nil] at hgone
      refine ⟨hsome, rfl, hgone, ?_⟩
      rw [List.filterMap_cons_none rfl, hus.events]
      exact List.map_congr_left fun i hi => by rw [(mem_owned.mp hi).2]
  case nothing =>
    intro hnone hm
    cases hcourse with
    | nothing now m h hnone =>
      refine ⟨rfl, ⟨now, rfl⟩, ?_, ?_⟩
      · rw [rows_left, List.filterMap_cons_none rfl,
          List.filterMap_cons_none (Venture.effect?_of_none rfl)]
        exact List.filter_eq_self.mpr fun _ _ => by simp
      · rw [activities_left, List.filterMap_cons_none rfl,
          List.filterMap_cons_none (Venture.effect?_of_none rfl)]
        exact List.filter_eq_self.mpr fun _ _ => by simp
    | unlisted f took h => simp [hm] at h
    | all us h hsome hus => exact absurd hnone hsome
    | part before i rest f us ws h howned hus hws => simp [hnone] at howned
  case unlisted =>
    intro f took hm
    cases hcourse with
    | unlisted f' took' h =>
      obtain ⟨rfl, rfl⟩ := Prod.mk.inj (Option.some.inj (hm.symm.trans h))
      refine ⟨rfl, ?_⟩
      cases took <;> rfl
    | nothing now m h hnone => simp [hm] at h
    | all us h hsome hus => simp [hm] at h
    | part before i rest f us ws h howned hus hws => simp [hm] at h
  case part =>
    rintro f rfl hsome hm
    cases hcourse with
    | unlisted f took h => simp [hm] at h
    | nothing now m h hnone => exact absurd hnone hsome
    | part before i rest f us ws h howned hus hws =>
      have hmine : ∀ j ∈ before ++ i :: rest, j ∈ t.rows ∧ j.owner = owner := fun j hj =>
        mem_owned.mp (howned ▸ hj)
      obtain ⟨hbefore, hrest⟩ := apart_of_owned hkey howned
      refine ⟨before, i, rest, howned, lacks_before owner t hus ws, ?_, fun j hj => ?_, ?_⟩
      · rw [filterMap_listed rfl, hws.events, List.append_nil, hus.events]
        exact List.map_congr_left fun j hj => by rw [(hmine j (List.mem_append_left _ hj)).2]
      · obtain ⟨hnot, hne⟩ := hrest j hj
        exact ⟨keeps_other owner t hus hws hnot hne, not_destroyed_other owner hus hws hnot hne⟩
      · have hi := (hmine i (List.mem_append_right _ List.mem_cons_self)).1
        exact row_or_removed owner hi hus hws hbefore
  case events => exact events_left t vs
  case rows =>
    rw [rows_left]
    refine filter_keeps fun r hr howner h => ?_
    obtain ⟨i, hi, hid⟩ := List.mem_map.mp (hcourse.rows _ h)
    obtain ⟨hi, hmine⟩ := mem_owned.mp hi
    have heq : i = r := List.inj_on_of_nodup_map hkey hi hr hid
    exact howner (heq ▸ hmine)
  case activities =>
    rw [activities_left]
    exact filter_keeps fun a _ hother h => hother (hcourse.activities _ h)
  case destroys =>
    intro v hv id region hcall
    obtain ⟨i, hi, heq⟩ := List.mem_map.mp (hcourse.doomed _ (mem_doomed hv hcall))
    exact ⟨i, hi, congrArg Prod.fst heq, congrArg Prod.snd heq⟩

/-- Two instances of an owner, and one of another. -/
def shared : Tables where
  rows := [doomed, { doomed with id := ⟨.numbered 2⟩, owner := ⟨"u2"⟩ },
    { doomed with id := ⟨.numbered 3⟩ }]
  activities := [⟨doomed.id, none, default⟩]

/-- The second of the owner's instances cannot be destroyed. -/
def secondFails : Weather where
  mishap n := if n = 5 then some (.internal "boom", false) else none
  clock _ := default

/-- The first of two instances is terminated, and the second is not. -/
theorem removeOwned_confined_second :
    (shared.rows.map Instance.id).Nodup ∧
    (shared.carried secondFails [] (Termination.removeOwned ⟨"u1"⟩)).1 =
      .error (.internal "boom") ∧
    Confined shared secondFails ⟨"u1"⟩
      (shared.carried secondFails [] (Termination.removeOwned ⟨"u1"⟩)).1
      (shared.carried secondFails [] (Termination.removeOwned ⟨"u1"⟩)).2 :=
  ⟨by decide, rfl, removeOwned_confined shared (by decide) secondFails ⟨"u1"⟩⟩

end Tables

end GameFleet
