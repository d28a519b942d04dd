import GameFleet.Net.SocketAddress
import GameFleet.Table
import GameFleet.Text.Blank
import GameFleet.Time.Timestamp

/-!
# Settings (specification §8, configuration)

The fleet is set up by environment variables. Every variable of the fleet has a default, a value
that cannot be read counts as unset, and one out of range is moved into it.

- `Environment`: the variables that are set.
- `IdleThresholds`: how long nobody may play on an instance, for each variant.
- `FleetSettings`: the settings of the policies, and `FleetSettings.ofEnvironment`.
- `ControlSettings`: the settings of the whole program. These are required or have to be readable.
-/

namespace GameFleet

/-- The value of each variable that is set. -/
abbrev Environment := String → Option String

/-- How long nobody may play on an instance of a variant. -/
structure IdleThresholds where
  fallback : Span
  /-- The variants with a threshold of their own, by name. -/
  perVariant : List (String × Span)
  deriving DecidableEq, Repr

/-- The threshold of a variant. -/
def IdleThresholds.forVariant (t : IdleThresholds) (variant : String) : Span :=
  (t.perVariant.lookup variant).getD t.fallback

/-- How often each policy runs. -/
structure LoopPeriods where
  idle : Span
  stuck : Span
  lifetime : Span
  credit : Span
  deriving DecidableEq, Repr

/-- The settings of the policies. -/
structure FleetSettings where
  billing : Bool
  /-- Owners with at most this balance are warned. -/
  lowBalance : Int
  idle : IdleThresholds
  /-- How long an instance may be pending. -/
  pendingMaxAge : Span
  /-- From which age on the players of an instance are warned. -/
  warnAfter : Span
  /-- The age at which an instance is evicted. -/
  maxAge : Span
  /-- How long a console may take to answer. -/
  probeTimeout : Span
  /-- How often the task queue looks for a task. -/
  tick : Span
  periods : LoopPeriods
  deriving DecidableEq, Repr

namespace Span

def ofMinutes (m : Nat) : Span := ofSeconds (m * 60)

def ofHours (h : Nat) : Span := ofSeconds (h * 3600)

end Span

namespace FleetSettings

/-- A number moved between two bounds. -/
def clamp (lo hi n : Nat) : Nat := max lo (min n hi)

/-- The value of a variable that holds a natural number of 64 bits, blanks around it aside. -/
def natural? (env : Environment) (name : String) : Option Nat :=
  (env name).bind fun v => Text.natural? Text.maxWord64 (Text.trim v.toList)

/-- The value of a variable moved between two bounds, or a default. -/
def within (env : Environment) (name : String) (lo hi fallback : Nat) : Nat :=
  ((natural? env name).map (clamp lo hi)).getD fallback

/-- Whether a text says yes. -/
def saysYes (s : String) : Bool :=
  ["1", "true", "yes", "on"].contains (Text.lowered (Text.trimmed s))

/-- Minutes in a day. -/
def dayMinutes : Nat := 24 * 60

/-- An entry `name=minutes`; blanks around both count for nothing, and there has to be a name. -/
def variantEntry? (entry : List Char) : Option (String × Span) := do
  let (name, minutes) ← Text.splitOnce '=' entry
  let n ← Text.natural? Text.maxWord64 (Text.trim minutes)
  let name := Text.trim name
  if name.isEmpty then none
  else some (String.ofList name, Span.ofMinutes (clamp 1 dayMinutes n))

/-- The thresholds of a list `name=minutes,…`. Entries that cannot be read are passed over; of two
for one variant the later stands. -/
def variantThresholds (s : String) : List (String × Span) :=
  Table.ofList ((Text.splitAtChar ',' s.toList).filterMap variantEntry?)

/-- The balance up to which owners are warned. -/
def lowBalanceOf (env : Environment) : Int :=
  match (env "QS_LOW_BALANCE_THRESHOLD").bind fun v => Text.integer64? (Text.trim v.toList) with
  | some i => max 0 (min i 1000000)
  | none => 10

/-- The settings that an environment gives. The warnings before the greatest age start at least an
hour before it. -/
def ofEnvironment (env : Environment) : FleetSettings :=
  let maxHours := within env "QS_LONG_RUNNING_MAX_HOURS" 1 (7 * 24) 10
  let lastWarning := maxHours - 1
  let period (name : String) (fallback : Nat) : Span :=
    .ofSeconds (within env name 5 86400 fallback)
  { billing := ((env "QS_BILLING_ENABLED").map saysYes).getD false
    lowBalance := lowBalanceOf env
    idle :=
      { fallback := .ofMinutes (within env "QS_IDLE_MINUTES" 1 dayMinutes 10)
        perVariant := ((env "QS_VARIANT_IDLE_MINUTES").map variantThresholds).getD [] }
    pendingMaxAge := .ofMinutes (within env "QS_PENDING_MAX_AGE_MINUTES" 1 dayMinutes 10)
    warnAfter :=
      .ofHours (within env "QS_LONG_RUNNING_WARN_HOURS" 0 lastWarning (min 9 lastWarning))
    maxAge := .ofHours maxHours
    probeTimeout := .ofMillis (within env "QS_PROBE_TIMEOUT_MS" 500 60000 5000)
    tick := .ofMillis (within env "QS_TASK_TICK_MS" 100 60000 1000)
    periods :=
      { idle := period "QS_EMPTY_REAPER_PERIOD_SECS" 60
        stuck := period "QS_PENDING_REAPER_PERIOD_SECS" 900
        lifetime := period "QS_LONG_RUNNING_REAPER_PERIOD_SECS" 1800
        credit := period "QS_CREDIT_REAPER_PERIOD_SECS" 60 } }

/-- How long deploying an instance may take. It ends before a pending instance is evicted. -/
def deployTimeout (s : FleetSettings) : Span := ⟨s.pendingMaxAge.nanos * 4 / 5⟩

end FleetSettings

/-- Why the program cannot be set up. -/
inductive SettingsError where
  | required (name : String)
  | unreadable (name : String)
  deriving DecidableEq, Repr

namespace SettingsError

def message : SettingsError → String
  | required name => name ++ " is required"
  | unreadable name => "parse " ++ name

end SettingsError

/-- The settings of the whole program. -/
structure ControlSettings where
  databaseUrl : String
  httpAddress : SocketAddress
  provisionerUrl : String
  notifierUrl : Option String
  fleet : FleetSettings
  deriving DecidableEq, Repr

namespace ControlSettings

/-- Whether a text is more than blanks. -/
def isFilled (s : String) : Bool := !(Text.trim s.toList).isEmpty

/-- The settings that an environment gives, or the first thing that is wrong with it. -/
def ofEnvironment (env : Environment) : Except SettingsError ControlSettings := do
  let some databaseUrl := env "DATABASE_URL" | .error (.required "DATABASE_URL")
  let some provisionerUrl := env "QS_PROVISIONER_URL" | .error (.required "QS_PROVISIONER_URL")
  let address := ((env "QS_HTTP_ADDR").filter isFilled).getD "0.0.0.0:8080"
  let some httpAddress := SocketAddress.read? address | .error (.unreadable "QS_HTTP_ADDR")
  return {
    databaseUrl, httpAddress, provisionerUrl
    notifierUrl := ((env "QS_NOTIFIER_URL").map Text.trimmed).filter (· ≠ "")
    fleet := FleetSettings.ofEnvironment env }

end ControlSettings

end GameFleet
