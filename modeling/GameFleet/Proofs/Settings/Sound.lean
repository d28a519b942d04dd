import GameFleet.Reclaim.Cycle
import GameFleet.Settings
import Mathlib.Tactic.Common

/-!
# No environment gives bad settings (specification §8, configuration)

Whatever stands in the environment, the settings are computed without a fault, lie within their
bounds and are in order, so that no policy is turned off and none gets ahead of another.

- `FleetSettings.ofEnvironment?`: the settings, computed as far as the numbers allow: bounds that
  cross and products that do not fit end it. `ofEnvironment?_eq`: nothing ends it.
- `FleetSettings.Sound`: the bounds of the settings and their order, and `sound_ofEnvironment`.
- `FleetSettings.Exact`: the verdicts of the policies say what the settings say, and `Sound.exact`.
- `FleetSettings.Sound.deploys_in_time`: a deployment that begins early enough ends before the
  pending instance is evicted.
- `FleetSettings.environment_sound`: the theorem.
-/

namespace GameFleet.FleetSettings

/-! ### Numbers that fit -/

/-- A number moved between two bounds; none when the bounds cross. -/
def clamp? (lo hi n : Nat) : Option Nat := do
  guard (lo ≤ hi)
  return clamp lo hi n

/-- A product of numbers of 64 bits; none when it has more. -/
def times? (a b : Nat) : Option Nat := do
  guard (a * b ≤ Text.maxWord64)
  return a * b

/-- The value of a variable moved between two bounds, or a default. -/
def within? (env : Environment) (name : String) (lo hi fallback : Nat) : Option Nat :=
  match natural? env name with
  | none => some fallback
  | some n => clamp? lo hi n

/-- That many minutes, in seconds. -/
def minutes? (m : Nat) : Option Span := Span.ofSeconds <$> times? m 60

/-- That many hours, in seconds. -/
def hours? (h : Nat) : Option Span := Span.ofSeconds <$> times? h 3600

/-- The name and the minutes of an entry `name=minutes`. -/
def namedMinutes? (entry : List Char) : Option (String × Nat) := do
  let (name, minutes) ← Text.splitOnce '=' entry
  let n ← Text.natural? Text.maxWord64 (Text.trim minutes)
  let name := Text.trim name
  if name.isEmpty then none else some (String.ofList name, n)

/-- The threshold of an entry, or nothing where the entry is passed over. -/
def threshold? (entry : List Char) : Option (Option (String × Span)) :=
  match namedMinutes? entry with
  | none => some none
  | some (name, n) => do
    let m ← clamp? 1 dayMinutes n
    let span ← minutes? m
    return some (name, span)

/-- The thresholds of a list of entries. -/
def thresholds? (s : String) : Option (List (String × Span)) := do
  let entries ← (Text.splitAtChar ',' s.toList).mapM threshold?
  return Table.ofList (entries.filterMap id)

/-- The balance up to which owners are warned. -/
def lowBalance? (env : Environment) : Option Int := do
  guard ((0 : Int) ≤ 1000000)
  return lowBalanceOf env

/-- The settings that an environment gives, if every number on the way fits and no bounds cross. -/
def ofEnvironment? (env : Environment) : Option FleetSettings := do
  let maxHours ← within? env "QS_LONG_RUNNING_MAX_HOURS" 1 (7 * 24) 10
  let lastWarning := maxHours - 1
  let warnHours ← within? env "QS_LONG_RUNNING_WARN_HOURS" 0 lastWarning (min 9 lastWarning)
  let lowBalance ← lowBalance? env
  let fallback ← minutes? (← within? env "QS_IDLE_MINUTES" 1 dayMinutes 10)
  let perVariant ← ((env "QS_VARIANT_IDLE_MINUTES").map thresholds?).getD (some [])
  let pendingMaxAge ← minutes? (← within? env "QS_PENDING_MAX_AGE_MINUTES" 1 dayMinutes 10)
  let warnAfter ← hours? warnHours
  let maxAge ← hours? maxHours
  let probe ← within? env "QS_PROBE_TIMEOUT_MS" 500 60000 5000
  let tick ← within? env "QS_TASK_TICK_MS" 100 60000 1000
  let idle ← within? env "QS_EMPTY_REAPER_PERIOD_SECS" 5 86400 60
  let stuck ← within? env "QS_PENDING_REAPER_PERIOD_SECS" 5 86400 900
  let lifetime ← within? env "QS_LONG_RUNNING_REAPER_PERIOD_SECS" 5 86400 1800
  let credit ← within? env "QS_CREDIT_REAPER_PERIOD_SECS" 5 86400 60
  return {
    billing := ((env "QS_BILLING_ENABLED").map saysYes).getD false
    lowBalance, idle := { fallback, perVariant }, pendingMaxAge, warnAfter, maxAge
    probeTimeout := .ofMillis probe, tick := .ofMillis tick
    periods := {
      idle := .ofSeconds idle, stuck := .ofSeconds stuck, lifetime := .ofSeconds lifetime
      credit := .ofSeconds credit } }

/-- How long deploying an instance may take, if four times the age of a pending instance is a length
of time: whole seconds of 64 bits. -/
def deployTimeout? (s : FleetSettings) : Option Span := do
  guard (s.pendingMaxAge.nanos * 4 < (Text.maxWord64 + 1) * Span.second)
  return s.deployTimeout

variable {env : Environment} {name : String} {lo hi fallback n m : Nat}

theorem clamp?_eq (h : lo ≤ hi) (n : Nat) : clamp? lo hi n = some (clamp lo hi n) := by
  simp [clamp?, guard, h]

theorem within?_eq (h : lo ≤ hi) (env : Environment) (name : String) (fallback : Nat) :
    within? env name lo hi fallback = some (within env name lo hi fallback) := by
  unfold within? within
  cases natural? env name with
  | none => rfl
  | some n => exact clamp?_eq h n

/-- A number that was moved between bounds in order lies between them. -/
theorem clamp_between (h : lo ≤ hi) (n : Nat) : lo ≤ clamp lo hi n ∧ clamp lo hi n ≤ hi := by
  unfold clamp
  omega

/-- The value of a variable lies between its bounds when its default does. -/
theorem within_between (h : lo ≤ fallback) (h' : fallback ≤ hi) (env : Environment)
    (name : String) :
    lo ≤ within env name lo hi fallback ∧ within env name lo hi fallback ≤ hi := by
  unfold within
  cases natural? env name with
  | none => exact ⟨h, h'⟩
  | some n => exact clamp_between (Nat.le_trans h h') n

theorem minutes?_eq (h : m ≤ dayMinutes) : minutes? m = some (.ofMinutes m) := by
  have hfit : m * 60 ≤ Text.maxWord64 := by
    unfold dayMinutes at h
    unfold Text.maxWord64
    omega
  simp [minutes?, times?, guard, hfit, Span.ofMinutes]

theorem hours?_eq (h : m ≤ 7 * 24) : hours? m = some (.ofHours m) := by
  have hfit : m * 3600 ≤ Text.maxWord64 := by
    unfold Text.maxWord64
    omega
  simp [hours?, times?, guard, hfit, Span.ofHours]

/-- An entry's threshold is its minutes, moved between one and those of a day. -/
theorem variantEntry_eq (entry : List Char) : variantEntry? entry =
    (namedMinutes? entry).map fun e => (e.1, .ofMinutes (clamp 1 dayMinutes e.2)) := by
  unfold variantEntry? namedMinutes?
  cases Text.splitOnce '=' entry with
  | none => rfl
  | some parts =>
    simp only [Option.bind_eq_bind, Option.bind_some]
    cases Text.natural? Text.maxWord64 (Text.trim parts.2) with
    | none => rfl
    | some n =>
      simp only [Option.bind_some]
      split <;> rfl

theorem threshold?_eq (entry : List Char) : threshold? entry = some ( variantEntry? entry) := by
  rw [variantEntry_eq]
  unfold threshold?
  cases namedMinutes? entry with
  | none => rfl
  | some e =>
    have hday : 1 ≤ dayMinutes := by decide
    simp [clamp?_eq hday, minutes?_eq (clamp_between hday e.2).2]

theorem thresholds?_eq (s : String) : thresholds? s = some (variantThresholds s) := by
  have hall : (Text.splitAtChar ',' s.toList).mapM threshold? =
      some ((Text.splitAtChar ',' s.toList).map variantEntry?) := by
    induction Text.splitAtChar ',' s.toList with
    | nil => rfl
    | cons entry rest ih => simp [threshold?_eq, ih]
  simp [thresholds?, hall, variantThresholds, List.filterMap_map]

/-- The greatest age in hours lies between one hour and a week. -/
theorem maxHours_between (env : Environment) :
    1 ≤ within env "QS_LONG_RUNNING_MAX_HOURS" 1 (7 * 24) 10 ∧
      within env "QS_LONG_RUNNING_MAX_HOURS" 1 (7 * 24) 10 ≤ 7 * 24 :=
  within_between (by decide) (by decide) env _

/-- The warnings start before any last hour in which they may. -/
theorem warnHours_between (env : Environment) (last : Nat) :
    within env "QS_LONG_RUNNING_WARN_HOURS" 0 last (min 9 last) ≤ last :=
  (within_between (Nat.zero_le _) (Nat.min_le_right _ _) env _).2

/-- Whatever stands in the environment, the settings are computed: no bounds cross, although one is
computed from another variable, and every product fits. -/
theorem ofEnvironment?_eq (env : Environment) : ofEnvironment? env = some (ofEnvironment env) := by
  have hmax := (maxHours_between env).2
  have hlast := warnHours_between env (within env "QS_LONG_RUNNING_MAX_HOURS" 1 (7 * 24) 10 - 1)
  have hwarn := hours?_eq (Nat.le_trans hlast (Nat.le_trans (Nat.sub_le _ 1) hmax))
  have hday (name : String) :
      minutes? (within env name 1 dayMinutes 10) = some (.ofMinutes (within env name 1 _ 10)) :=
    minutes?_eq (within_between (by decide) (by decide) env name).2
  have hthresholds : ((env "QS_VARIANT_IDLE_MINUTES").map thresholds?).getD (some []) =
      some (((env "QS_VARIANT_IDLE_MINUTES").map variantThresholds).getD []) := by
    cases env "QS_VARIANT_IDLE_MINUTES" with
    | none => rfl
    | some s => exact thresholds?_eq s
  have hbalance : lowBalance? env = some (lowBalanceOf env) := rfl
  have h₁ : 1 ≤ 7 * 24 := by decide
  have h₂ : 1 ≤ dayMinutes := by decide
  have h₃ : 500 ≤ 60000 := by decide
  have h₄ : 100 ≤ 60000 := by decide
  have h₅ : 5 ≤ 86400 := by decide
  simp only [ofEnvironment?, within?_eq h₁, within?_eq h₂, within?_eq h₃, within?_eq h₄,
    within?_eq h₅, within?_eq (Nat.zero_le _), Option.bind_eq_bind, Option.bind_some, hday,
    hours?_eq hmax, hwarn, hthresholds, hbalance]
  rfl

end FleetSettings

/-! ### Settings within their bounds and in order -/

/-- A length of time lies between two others. -/
def Span.Between (lo hi d : Span) : Prop := lo.nanos ≤ d.nanos ∧ d.nanos ≤ hi.nanos

namespace Span

variable {lo hi n : Nat} {d : Span}

theorem between_ofSeconds (h : lo ≤ n ∧ n ≤ hi) :
    Between (ofSeconds lo) (ofSeconds hi) (ofSeconds n) :=
  ⟨Nat.mul_le_mul_right _ h.1, Nat.mul_le_mul_right _ h.2⟩

theorem between_ofMillis (h : lo ≤ n ∧ n ≤ hi) :
    Between (ofMillis lo) (ofMillis hi) (ofMillis n) :=
  ⟨Nat.mul_le_mul_right _ h.1, Nat.mul_le_mul_right _ h.2⟩

theorem between_ofMinutes (h : lo ≤ n ∧ n ≤ hi) :
    Between (ofMinutes lo) (ofMinutes hi) (ofMinutes n) :=
  between_ofSeconds ⟨Nat.mul_le_mul_right _ h.1, Nat.mul_le_mul_right _ h.2⟩

/-- Lengths of time up to a week can be compared with the time between moments. -/
theorem isComparable_of_le (h : d.nanos ≤ (ofHours (7 * 24)).nanos) : d.isComparable = true := by
  unfold isComparable
  rw [decide_eq_true_eq]
  exact Nat.le_trans h (by decide)

/-- A length of time that can be compared has passed when that many nanoseconds have. -/
theorem reachedBy_iff (h : d.isComparable = true) (nanos : Int) :
    d.reachedBy nanos = true ↔ (d.nanos : Int) ≤ nanos := by
  simp [reachedBy, h]

end Span

namespace FleetSettings

/-- The settings lie within their bounds and are in order. -/
structure Sound (s : FleetSettings) : Prop where
  /-- Deploying an instance may take some time, and less than an instance may be pending. -/
  deployTimeout : 0 < s.deployTimeout.nanos ∧ s.deployTimeout.nanos < s.pendingMaxAge.nanos
  pendingMaxAge : Span.Between (.ofMinutes 1) (.ofMinutes dayMinutes) s.pendingMaxAge
  /-- Players are warned before their instance is evicted. -/
  warnAfter : s.warnAfter.nanos < s.maxAge.nanos
  maxAge : Span.Between (.ofHours 1) (.ofHours (7 * 24)) s.maxAge
  /-- Every policy runs again and again. -/
  periods : ∀ p : Policy, Span.Between (.ofSeconds 5) (.ofHours 24) (p.period s.periods)
  fallback : Span.Between (.ofMinutes 1) (.ofMinutes dayMinutes) s.idle.fallback
  perVariant : ∀ e ∈ s.idle.perVariant, Span.Between (.ofMinutes 1) (.ofMinutes dayMinutes) e.2
  probeTimeout : Span.Between (.ofMillis 500) (.ofMillis 60000) s.probeTimeout
  tick : Span.Between (.ofMillis 100) (.ofMillis 60000) s.tick
  lowBalance : 0 ≤ s.lowBalance ∧ s.lowBalance ≤ 1000000

variable {s : FleetSettings}

/-- Every variant has a threshold between a minute and a day. -/
theorem Sound.forVariant (h : s.Sound) (variant : String) :
    Span.Between (.ofMinutes 1) (.ofMinutes dayMinutes) (s.idle.forVariant variant) := by
  unfold IdleThresholds.forVariant
  cases hlookup : s.idle.perVariant.lookup variant with
  | none => exact h.fallback
  | some d =>
    obtain ⟨l₁, l₂, heq, -⟩ := List.lookup_eq_some_iff.mp hlookup
    exact h.perVariant (variant, d) (by simp [heq])

/-- Four fifths of a time of at least a minute are some time, and less. -/
theorem deployTimeout_between (h : (Span.ofMinutes 1).nanos ≤ s.pendingMaxAge.nanos) :
    0 < s.deployTimeout.nanos ∧ s.deployTimeout.nanos < s.pendingMaxAge.nanos := by
  have hminute : (Span.ofMinutes 1).nanos = 60000000000 := rfl
  unfold deployTimeout
  show 0 < s.pendingMaxAge.nanos * 4 / 5 ∧ s.pendingMaxAge.nanos * 4 / 5 < s.pendingMaxAge.nanos
  omega

/-- The entries of a list of thresholds lie between a minute and a day. -/
theorem variantThresholds_between {text : String} {e : String × Span}
    (h : e ∈ variantThresholds text) :
    Span.Between (.ofMinutes 1) (.ofMinutes dayMinutes) e.2 := by
  obtain ⟨entry, -, hentry⟩ := List.mem_filterMap.mp (Table.mem_of_mem_ofList h)
  rw [variantEntry_eq] at hentry
  obtain ⟨named, -, rfl⟩ := Option.map_eq_some_iff.mp hentry
  exact Span.between_ofMinutes (clamp_between (by decide) _)

/-- Whatever stands in the environment, its settings lie within their bounds and are in order. -/
theorem sound_ofEnvironment (env : Environment) : (ofEnvironment env).Sound := by
  have hday (name : String) : Span.Between (.ofMinutes 1) (.ofMinutes dayMinutes)
      (.ofMinutes (within env name 1 dayMinutes 10)) :=
    Span.between_ofMinutes (within_between (by decide) (by decide) env name)
  have hperiod {fallback : Nat} (name : String) (h : 5 ≤ fallback ∧ fallback ≤ 86400) :
      Span.Between (.ofSeconds 5) (.ofHours 24) (.ofSeconds (within env name 5 86400 fallback)) :=
    Span.between_ofSeconds (within_between h.1 h.2 env name)
  have hmax := maxHours_between env
  constructor
  case deployTimeout => exact deployTimeout_between (hday _).1
  case pendingMaxAge => exact hday _
  case warnAfter =>
    -- The last warning lies an hour before the greatest age, which is an hour at least.
    have hwarn := warnHours_between env
      (within env "QS_LONG_RUNNING_MAX_HOURS" 1 (7 * 24) 10 - 1)
    refine Nat.mul_lt_mul_of_pos_right (Nat.mul_lt_mul_of_pos_right ?_ (by decide)) (by decide)
    omega
  case maxAge =>
    exact ⟨Nat.mul_le_mul_right _ (Nat.mul_le_mul_right _ hmax.1),
      Nat.mul_le_mul_right _ (Nat.mul_le_mul_right _ hmax.2)⟩
  case periods =>
    intro p
    cases p with
    | idle => exact hperiod _ (by decide)
    | stuck => exact hperiod _ (by decide)
    | lifetime => exact hperiod _ (by decide)
    | credit => exact hperiod _ (by decide)
  case fallback => exact hday _
  case perVariant =>
    intro e he
    change e ∈ ((env "QS_VARIANT_IDLE_MINUTES").map variantThresholds).getD [] at he
    cases htext : env "QS_VARIANT_IDLE_MINUTES" with
    | none =>
      rw [htext] at he
      cases he
    | some text =>
      rw [htext] at he
      exact variantThresholds_between he
  case probeTimeout =>
    exact Span.between_ofMillis (within_between (by decide) (by decide) env _)
  case tick => exact Span.between_ofMillis (within_between (by decide) (by decide) env _)
  case lowBalance =>
    show 0 ≤ lowBalanceOf env ∧ lowBalanceOf env ≤ 1000000
    unfold lowBalanceOf
    split
    · omega
    · decide

/-! ### Verdicts -/

/-- The times with which the policies compare how old an instance of a variant is, and for how long
nobody has been seen on it. -/
def limits (s : FleetSettings) (variant : String) : List Span :=
  [s.pendingMaxAge, s.warnAfter, s.maxAge, s.idle.forVariant variant]

/-- All of them are short enough to be compared: none turns its policy off. -/
theorem Sound.isComparable (h : s.Sound) (variant : String) :
    ∀ d ∈ s.limits variant, d.isComparable = true := by
  have hday {d : Span} (hd : Span.Between (.ofMinutes 1) (.ofMinutes dayMinutes) d) :
      d.isComparable = true :=
    Span.isComparable_of_le (Nat.le_trans hd.2 (by decide))
  have hmax : s.maxAge.nanos ≤ (Span.ofHours (7 * 24)).nanos := h.maxAge.2
  intro d hd
  simp only [limits, List.mem_cons, List.not_mem_nil, or_false] at hd
  rcases hd with rfl | rfl | rfl | rfl
  · exact hday h.pendingMaxAge
  · exact Span.isComparable_of_le (Nat.le_trans (Nat.le_of_lt h.warnAfter) hmax)
  · exact Span.isComparable_of_le hmax
  · exact hday (h.forVariant variant)

/-- The policies judge by the plain numbers of the settings, for every instance at any time. -/
structure Exact (s : FleetSettings) : Prop where
  stuck : ∀ (i : Instance) (now : Timestamp),
    Verdict.stuck i.status (i.age now) s.pendingMaxAge = .evict ↔
      i.status = .pending ∧ (s.pendingMaxAge.nanos : Int) ≤ i.age now
  evicts : ∀ (i : Instance) (now : Timestamp),
    Verdict.lifetime (i.age now) s.warnAfter s.maxAge = .evict ↔
      (s.maxAge.nanos : Int) ≤ i.age now
  warns : ∀ (i : Instance) (now : Timestamp),
    Verdict.lifetime (i.age now) s.warnAfter s.maxAge = .warn ↔
      (s.warnAfter.nanos : Int) ≤ i.age now ∧ i.age now < s.maxAge.nanos
  idle : ∀ (variant : String) (a : Option Activity) (now : Timestamp),
    Verdict.idle a (s.idle.forVariant variant) now = .evict ↔
      ∃ since, a.bind Activity.emptySince = some since ∧
        ((s.idle.forVariant variant).nanos : Int) ≤ now.since since

theorem Sound.exact (h : s.Sound) : s.Exact := by
  have hreached (variant : String) {d : Span} (hd : d ∈ s.limits variant) (nanos : Int) :
      d.reachedBy nanos = true ↔ (d.nanos : Int) ≤ nanos :=
    Span.reachedBy_iff (h.isComparable variant d hd) nanos
  have hpending := hreached "" (d := s.pendingMaxAge) (by simp [limits])
  have hwarn := hreached "" (d := s.warnAfter) (by simp [limits])
  have hmax := hreached "" (d := s.maxAge) (by simp [limits])
  constructor
  case stuck =>
    intro i now
    unfold Verdict.stuck
    rw [← hpending]
    split
    · exact iff_of_true rfl ‹_›
    · exact iff_of_false (by decide) ‹_›
  case evicts =>
    intro i now
    unfold Verdict.lifetime
    rw [← hmax]
    split
    · exact iff_of_true rfl ‹_›
    · refine iff_of_false ?_ ‹_›
      split <;> decide
  case warns =>
    intro i now
    unfold Verdict.lifetime
    rw [← hwarn, ← Int.not_le, ← hmax]
    split
    · exact iff_of_false (by decide) fun h => h.2 ‹_›
    · split
      · exact iff_of_true rfl ⟨‹_›, ‹_›⟩
      · exact iff_of_false (by decide) fun h => absurd h.1 ‹_›
  case idle =>
    intro variant a now
    have hidle := hreached variant (d := s.idle.forVariant variant) (by simp [limits])
    unfold Verdict.idle
    cases hsince : a.bind Activity.emptySince with
    | none => simp
    | some since =>
      simp only [Option.some.injEq, exists_eq_left', ← hidle]
      split
      · exact iff_of_true rfl ‹_›
      · exact iff_of_false (by decide) ‹_›

/-! ### Deployments -/

/-- Moments that a clock without leap seconds shows lie as far apart as the moments between say. -/
theorem since_add_since {a b c : Timestamp} (ha : a.isLeap = false) (hb : b.isLeap = false)
    (hc : c.isLeap = false) : c.since b + b.since a = c.since a := by
  rw [Timestamp.since_eq_sub hc hb, Timestamp.since_eq_sub hb ha, Timestamp.since_eq_sub hc ha]
  unfold Span.second
  omega

/-- A deployment that begins while a pending instance has more time left than deploying may take
ends before the instance is evicted: as long as deploying may take, no verdict says so. -/
theorem Sound.deploys_in_time (h : s.Sound) {i : Instance} {start now : Timestamp}
    (hi : i.createdAt.isLeap = false) (hstart : start.isLeap = false) (hnow : now.isLeap = false)
    (hbegun : i.age start < (s.pendingMaxAge.nanos : Int) - s.deployTimeout.nanos)
    (htaken : now.since start ≤ s.deployTimeout.nanos) :
    Verdict.stuck i.status (i.age now) s.pendingMaxAge ≠ .evict := by
  intro hevict
  have hage := ((h.exact.stuck i now).mp hevict).2
  have hsum : now.since start + i.age start = i.age now := since_add_since hi hstart hnow
  omega

/-- No environment turns a policy off or puts the policies out of order. Whatever texts stand in the
variables, the settings are computed without a number that does not fit, lie within their bounds and
are in order; the policies judge by their plain numbers; and a deployment that begins while a
pending instance has more time left than deploying may take ends, by its own limit, before the
instance is evicted. -/
theorem environment_sound (env : Environment) :
    (ofEnvironment? env = some (ofEnvironment env) ∧
      deployTimeout? (ofEnvironment env) = some (ofEnvironment env).deployTimeout) ∧
    (ofEnvironment env).Sound ∧
    (∀ variant, ∀ d ∈ (ofEnvironment env).limits variant, d.isComparable = true) ∧
    (ofEnvironment env).Exact ∧
    ∀ (i : Instance) (start now : Timestamp),
      i.createdAt.isLeap = false → start.isLeap = false → now.isLeap = false →
      i.age start < ((ofEnvironment env).pendingMaxAge.nanos : Int)
        - (ofEnvironment env).deployTimeout.nanos →
      now.since start ≤ (ofEnvironment env).deployTimeout.nanos →
      Verdict.stuck i.status (i.age now) (ofEnvironment env).pendingMaxAge ≠ .evict := by
  have hsound := sound_ofEnvironment env
  have htimeout : deployTimeout? (ofEnvironment env) = some (ofEnvironment env).deployTimeout := by
    have hfit : (ofEnvironment env).pendingMaxAge.nanos * 4 <
        (Text.maxWord64 + 1) * Span.second :=
      Nat.lt_of_le_of_lt (Nat.mul_le_mul_right 4 hsound.pendingMaxAge.2) (by decide)
    simp [deployTimeout?, guard, hfit]
  exact ⟨⟨ofEnvironment?_eq env, htimeout⟩, hsound, hsound.isComparable, hsound.exact,
    fun _ _ _ hi hstart hnow hbegun htaken =>
      hsound.deploys_in_time hi hstart hnow hbegun htaken⟩

/-- The shortest time for which an instance may be pending: a deployment that begins a second before
twelve have passed may take until a second is left. -/
theorem environment_sound_shortest :
    let s := ofEnvironment fun name =>
      if name = "QS_PENDING_MAX_AGE_MINUTES" then some " 0 " else none
    let i := Instance.pending default ⟨"owner"⟩ "region" "variant" none (.ofSeconds 0)
    s.pendingMaxAge = .ofSeconds 60 ∧ s.deployTimeout = .ofSeconds 48 ∧
      Verdict.stuck i.status (i.age (.ofSeconds 59)) s.pendingMaxAge ≠ .evict :=
  ⟨by decide, by decide,
    (environment_sound _).2.2.2.2 _ (.ofSeconds 11) (.ofSeconds 59) rfl rfl rfl (by decide)
      (by decide)⟩

end FleetSettings

end GameFleet
