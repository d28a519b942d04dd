import GameFleet.Instance

/-!
# Verdicts of the reclamation policies (specification §4.4)

Four policies judge the instances of the fleet: nobody plays on one, one never becomes ready, one
runs too long, or its owner has run out of credits.

- `Verdict`: keep the instance, warn its players, or evict it.
- `idle`, `stuck`, `lifetime`, `credit`: the verdicts of the four policies.
- `Activity.next`: what is known about an instance after it was looked at.
-/

namespace GameFleet

/-- What becomes of an instance. -/
inductive Verdict where
  | keep
  | warn
  | evict
  deriving DecidableEq, Repr, Inhabited

namespace Verdict

def text : Verdict → String
  | keep => "keep"
  | warn => "warn"
  | evict => "evict"

/-- An instance is evicted once nobody has been seen on it for the threshold. -/
def idle (activity : Option Activity) (threshold : Span) (now : Timestamp) : Verdict :=
  match activity.bind (·.emptySince) with
  | none => keep
  | some since => if threshold.reachedBy (now.since since) then evict else keep

/-- An instance that is still pending is evicted once it is as old as allowed. -/
def stuck (status : Status) (age : Int) (maxAge : Span) : Verdict :=
  if status = .pending ∧ maxAge.reachedBy age then evict else keep

/-- An instance is evicted at the greatest age, and its players are warned some time before. -/
def lifetime (age : Int) (warnAfter maxAge : Span) : Verdict :=
  if maxAge.reachedBy age then evict
  else if warnAfter.reachedBy age then warn
  else keep

/-- An instance is evicted when its owner has no credits left, and warned while there are few. -/
def credit (balance lowThreshold : Int) : Verdict :=
  if balance ≤ 0 then evict else if balance ≤ lowThreshold then warn else keep

end Verdict

/-- What is known about an instance after it was looked at: with players on it, it is not empty;
with none, or when it did not answer, it stays empty from when it was first. -/
def Activity.next (id : InstanceId) (previous : Option Activity) (players : Option Nat)
    (now : Timestamp) : Activity :=
  let since := previous.bind (·.emptySince)
  match players with
  | some (_ + 1) => ⟨id, none, now⟩
  | _ => ⟨id, some (since.getD now), now⟩

end GameFleet
