import GameFleet.Reclaim.Credit
import GameFleet.Reclaim.Idle
import GameFleet.Reclaim.Lifetime
import GameFleet.Reclaim.Stuck

/-!
# The surveys of all policies

- `Policy.survey`: what a cycle of a policy starts with.
-/

namespace GameFleet.Policy

/-- What a cycle of a policy starts with. -/
def survey (p : Policy) (s : FleetSettings) : Op Batch :=
  match p with
  | idle => Idle.survey s
  | stuck => Stuck.survey s
  | lifetime => Lifetime.survey s
  | credit => Credit.survey s

end GameFleet.Policy
