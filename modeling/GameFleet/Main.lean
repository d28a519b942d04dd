import GameFleet.Json.Untyped
import GameFleet.Service

/-!
# The command line

Runs the program on a database without rows. The settings come from the environment, the messages
from standard input, one JSON object with `method`, `target` and `body` in each line; the replies
go to standard output. The only argument, which may be left out, is the time at the start, in
seconds from the start of 1970.
-/

namespace GameFleet.CommandLine

open Json

/-- The names of all settings. -/
def settingNames : List String := [
  "DATABASE_URL", "QS_HTTP_ADDR", "QS_PROVISIONER_URL", "QS_NOTIFIER_URL", "QS_BILLING_ENABLED",
  "QS_LOW_BALANCE_THRESHOLD", "QS_IDLE_MINUTES", "QS_VARIANT_IDLE_MINUTES",
  "QS_PENDING_MAX_AGE_MINUTES", "QS_LONG_RUNNING_WARN_HOURS", "QS_LONG_RUNNING_MAX_HOURS",
  "QS_PROBE_TIMEOUT_MS", "QS_TASK_TICK_MS", "QS_EMPTY_REAPER_PERIOD_SECS",
  "QS_PENDING_REAPER_PERIOD_SECS", "QS_LONG_RUNNING_REAPER_PERIOD_SECS",
  "QS_CREDIT_REAPER_PERIOD_SECS"]

/-- A member that holds a text, or a default. -/
def textOr (v : Value) (name fallback : String) : String :=
  match v.member? name with
  | some (.string s) => s
  | _ => fallback

/-- The message of a line; none for a line that is no JSON. -/
def message? (line : String) : Option Http.Message :=
  (Value.read? line).map fun v =>
    { method := textOr v "method" "GET", target := textOr v "target" "/healthz"
      contentType := some "application/json", body := textOr v "body" "" }

/-- A reply as it is printed: the status and the body. -/
def replyText (r : Http.Reply) : String :=
  let body : Value := match r.body with
    | .json v => v
    | .text s => .string s
    | _ => .null
  (Value.record [("status", .nat r.status), ("body", body)]).text

/-- The environment of the process, as far as it matters. -/
def environment : IO Environment := do
  let values ← settingNames.mapM fun name => return (name, ← IO.getEnv name)
  return fun name => (values.lookup name).join

/-- The moment of the first argument. -/
def moment (args : List String) : Timestamp :=
  .ofSeconds (((args.head?).bind fun s => Text.integer64? s.toList).getD 0)

end GameFleet.CommandLine

open GameFleet GameFleet.CommandLine in
/-- Runs the program until the messages end. -/
def main (args : List String) : IO UInt32 := do
  let env ← environment
  let input ← (← IO.getStdin).readToEnd
  let messages := (input.splitOn "\n").filterMap message?
  let session := Service.session (moment args) {} env messages
  session.replies.forM fun r => IO.println (replyText r)
  match session.failure with
  | none => return 0
  | some f =>
    IO.eprintln ("Error: " ++ f.message)
    return 1
