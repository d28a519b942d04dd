import GameFleet.Net.Url

/-!
# Targets of requests

- `Http.Target.pathOf`: the path in the target of a request. A target is a path, or a whole address
  with a scheme and a host before the path; a query may follow. Any other target has no path.
-/

namespace GameFleet.Http.Target

/-- Whether a character ends the path, or the host in front of it. -/
def endsPath (c : Char) : Bool := c = '?' || c = '#'

/-- What follows the host in a whole address. -/
def behindHost? (target : List Char) : Option (List Char) := do
  let rest ← Text.after? [':', '/', '/'] (target.dropWhile Url.isSchemeChar)
  return rest.dropWhile fun c => c ≠ '/' && !endsPath c

/-- The path in a target. -/
def pathOf (target : List Char) : List Char :=
  match target with
  | '/' :: _ => target.takeWhile (!endsPath ·)
  | _ =>
    match behindHost? target with
    | some ('/' :: rest) => '/' :: rest.takeWhile (!endsPath ·)
    | some _ => ['/']
    | none => []

end GameFleet.Http.Target
