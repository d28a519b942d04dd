import GameFleet.Reclaim

/-!
# Work (specification §5)

- `Yield`: what an operation gives.
- `Work`: an operation or a reclamation cycle on its way. A cycle goes on at any of its steps.
- `Work.pose?`: what work asks for next.
- `Work.outcome?`: how work has ended.
-/

namespace GameFleet

/-- What an operation gives. -/
inductive Yield where
  | nothing
  | flag (b : Bool)
  | admitted (i : Instance)
  | removed (ids : List InstanceId)
  | value (v : Json.Value)

/-- An operation or a cycle on its way. The cycle's steps go on once its survey has ended in
them. -/
inductive Work where
  | plain (p : Running Yield)
  | cycle (p : Running Batch)

namespace Batch

/-- The batch with one step replaced. -/
def setBranch (b : Batch) (i : Nat) (work : Running Unit) : Batch :=
  { b with branches := b.branches.modify i fun step => { step with work } }

/-- The steps that go on, by number. -/
def openSteps (b : Batch) : List Nat :=
  b.branches.zipIdx.filterMap fun (step, i) =>
    match step.work with
    | .done _ => none
    | .ask .. => some i

/-- The steps of a batch treat the same instances when one of them has gone on. -/
theorem ids_setBranch (t : Batch) (n : Nat) (work : Running Unit) :
    (t.setBranch n work).branches.map Branch.id = t.branches.map Branch.id := by
  refine List.ext_getElem? fun j => ?_
  simp only [setBranch, List.getElem?_map, List.getElem?_modify]
  cases t.branches[j]? with
  | none => rfl
  | some s =>
    by_cases h : n = j
    · simp [h]
    · simp [h]

/-- When one step of a batch has gone on, the others are as they were, and treat other instances. -/
theorem mem_setBranch {t : Batch} {n : Nat} {s x : Branch} {work : Running Unit}
    (hnodup : (t.branches.map Branch.id).Nodup) (hn : t.branches[n]? = some s)
    (hx : x ∈ (t.setBranch n work).branches) :
    x = { s with work } ∨ (x ∈ t.branches ∧ s.id ≠ x.id) := by
  obtain ⟨j, hj⟩ := List.mem_iff_getElem?.mp hx
  rw [setBranch, List.getElem?_modify] at hj
  by_cases h : n = j
  · subst h
    rw [hn] at hj
    simp only [Option.map_eq_map, Option.map_some, if_true, Option.some.injEq] at hj
    exact .inl hj.symm
  · simp only [h, if_false, Option.map_eq_map, Option.map_id'] at hj
    refine .inr ⟨List.mem_of_getElem? hj, fun he => h ?_⟩
    have hlt : n < (t.branches.map Branch.id).length := by
      rw [List.length_map]
      exact (List.getElem?_eq_some_iff.mp hn).1
    refine (List.getElem?_inj hlt hnodup).mp ?_
    rw [List.getElem?_map, List.getElem?_map, hn, hj]
    exact congrArg some he

end Batch

namespace Work

/-- The work of an operation. -/
def of {α : Type} (op : Op α) (encode : α → Yield) : Work := .plain (encode <$> op).run

/-- A cycle of a policy. -/
def ofPolicy (p : Policy) (s : FleetSettings) : Work := .cycle (p.survey s).run

/-- How work has ended, if it has. -/
def outcome? : Work → Option (Outcome Yield)
  | .plain (.done o) => some o
  | .cycle (.done (.error f)) => some (.error f)
  | .cycle (.done (.ok b)) =>
    if b.openSteps.isEmpty then some (b.outcome.map fun _ => .nothing) else none
  | _ => none

/-- What the step with a number asks for next, and how the work goes on with the answer. Only a
cycle after its survey has more than one step. -/
def pose? (step : Nat) : Work → Option ((r : Request) × (r.Answer → Work))
  | .plain (.ask r next) => some ⟨r, fun a => .plain (next a)⟩
  | .cycle (.ask r next) => some ⟨r, fun a => .cycle (next a)⟩
  | .cycle (.done (.ok b)) =>
    match b.branches[step]? with
    | some { work := .ask r next, .. } =>
      some ⟨r, fun a => .cycle (.done (.ok (b.setBranch step (next a))))⟩
    | _ => none
  | _ => none

/-- The steps that go on, by number. -/
def steps : Work → List Nat
  | .cycle (.done (.ok b)) => b.openSteps
  | _ => [0]

end Work

end GameFleet
