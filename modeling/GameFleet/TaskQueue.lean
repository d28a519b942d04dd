import GameFleet.Task

/-!
# The task queue (specification §4.1)

Tasks wait until they are due. Of the tasks that are due, the one that was due first is taken first,
and of those due at the same time the one that came first.

- `TaskQueue`: the tasks that wait.
- `TaskQueue.stamp`, `TaskQueue.push`: a task gets its time and its place, and waits with the
  others.
- `TaskQueue.enqueue`: a task comes, due at once.
- `TaskQueue.takeDue`: the next task is taken, the one that the specification pops.
- `TaskQueue.putBack`: a task that was taken waits again as it was.
- `TaskQueue.retry`: a task that failed waits for its next run.
-/

namespace GameFleet

/-- Whether a task is taken before another. -/
def Task.before (s t : Task) : Bool := s.due < t.due || (s.due == t.due && s.seq < t.seq)

/-- Whether a task is due. -/
def Task.isDue (now : Nat) (t : Task) : Bool := t.due ≤ now

/-- The tasks that wait. -/
structure TaskQueue where
  tasks : List Task := []
  /-- The place of the next task that comes. -/
  nextSeq : Nat := 1

namespace TaskQueue

/-- The first of two tasks to be taken; the one that may be absent comes from the right. -/
def earlier (t : Task) : Option Task → Task
  | none => t
  | some s => if s.before t then s else t

/-- The task of a list that is taken first, if any is due. -/
def earliest? (now : Nat) : List Task → Option Task
  | [] => none
  | t :: rest =>
    let next := earliest? now rest
    if t.isDue now then some (earlier t next) else next

/-- A task gets the time from which it is due, and the next place. -/
def stamp (q : TaskQueue) (o : TaskOrder) (id : String) (attempt due : Nat) : Task × TaskQueue :=
  ({ o with id, attempt, due, seq := q.nextSeq }, { q with nextSeq := q.nextSeq + 1 })

/-- A task waits with the others. -/
def push (q : TaskQueue) (t : Task) : TaskQueue := { q with tasks := q.tasks ++ [t] }

/-- A task comes, due at once. It waits as soon as it is stamped: nothing comes in between. -/
def enqueue (q : TaskQueue) (id : String) (now : Nat) (o : TaskOrder) : TaskQueue :=
  let stamped := q.stamp o id 1 now
  stamped.2.push stamped.1

/-- Whether a task of a kind with a payload waits. -/
def isQueued (q : TaskQueue) (kind : String) (payload : Json.Value) : Bool :=
  q.tasks.any fun t => t.kind == kind && t.payload.same payload

/-- The tasks without the one at a place. -/
def without (seq : Nat) (tasks : List Task) : List Task := tasks.eraseP fun t => t.seq == seq

/-- The next task is taken, if any is due. -/
def takeDue (q : TaskQueue) (now : Nat) : Option (Task × TaskQueue) :=
  (earliest? now q.tasks).map fun t => (t, { q with tasks := without t.seq q.tasks })

/-- A task that was taken waits again as it was. -/
def putBack (q : TaskQueue) (t : Task) : TaskQueue := q.push t

/-- A task whose run failed is stamped anew, and waits for the next run from then on. -/
def retry (q : TaskQueue) (now : Nat) (t : Task) : TaskQueue :=
  let stamped := q.stamp t.toTaskOrder t.id (t.attempt + 1) (now + t.policy.delay t.attempt)
  stamped.2.push stamped.1

/-- How many tasks wait. -/
def size (q : TaskQueue) : Nat := q.tasks.length

/-- The task that is taken first was waiting and is due. -/
theorem earliest?_mem {now : Nat} {tasks : List Task} {t : Task}
    (h : earliest? now tasks = some t) : t ∈ tasks ∧ t.isDue now = true := by
  induction tasks generalizing t with
  | nil => cases h
  | cons s rest ih =>
    simp only [earliest?] at h
    split at h
    · rename_i hs
      cases hr : earliest? now rest with
      | none =>
        rw [hr] at h
        cases h
        exact ⟨List.mem_cons_self .., hs⟩
      | some u =>
        rw [hr] at h
        simp only [earlier, Option.some.injEq] at h
        split at h
        · subst h
          exact ⟨List.mem_cons_of_mem _ (ih hr).1, (ih hr).2⟩
        · subst h
          exact ⟨List.mem_cons_self .., hs⟩
    · exact ⟨List.mem_cons_of_mem _ (ih h).1, (ih h).2⟩

/-- Nothing is taken exactly when nothing is due. -/
theorem earliest?_eq_none_iff {now : Nat} {tasks : List Task} :
    earliest? now tasks = none ↔ ∀ t ∈ tasks, t.isDue now = false := by
  induction tasks with
  | nil => simp [earliest?]
  | cons s rest ih =>
    simp only [earliest?]
    split
    · rename_i hs
      simp [hs]
    · rename_i hs
      simp [ih, hs]

end TaskQueue

end GameFleet
