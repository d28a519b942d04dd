import GameFleet.Proofs.Idle.Cycle
import Mathlib.Data.List.TakeWhile

/-!
# The idle countdown (specification §4.4)

The idle policy knows of an instance only what the last look at it left behind. Over any run of
cycles this is enough: nobody has been seen since the first look was over of those at the end of the
run that saw nobody.

- `Probe.sawNobody`, `countdown`: a look that saw nobody, and since when nobody has been seen.
- `Idle.told`: the activity row after some looks.
- `Idle.Due`: nobody has been seen for as long as it takes.
- `Idle.History`: cycles, one after another, and the looks at an instance that they took.
- `Idle.History.recounts`: the invariant.
- `Idle.countdown_exact`: the theorem, and `Idle.countdown_exact_served` the case of an instance
  that stops answering.
-/

namespace GameFleet

/-- A look saw nobody: nobody played, or there was no answer. -/
def Probe.sawNobody (p : Probe) : Bool :=
  match p.players with
  | some (_ + 1) => false
  | _ => true

/-- Since when nobody has been seen, by the looks at an instance, the last first: since the first
look was over of the last ones that saw nobody. -/
def countdown (ps : List Probe) : Option Timestamp :=
  (ps.takeWhile Probe.sawNobody).getLast?.map Probe.completed

variable {p : Probe} {ps : List Probe} {since : Timestamp}

/-- Another look that saw nobody starts the countdown or lets it go on; one that saw somebody ends
it. -/
theorem countdown_cons (p : Probe) (ps : List Probe) : countdown (p :: ps) =
    if p.sawNobody then some ((countdown ps).getD p.completed) else none := by
  unfold countdown
  rw [List.takeWhile_cons]
  split
  · rw [List.getLast?_cons, Option.map_some]
    cases (ps.takeWhile Probe.sawNobody).getLast? <;> rfl
  · rfl

/-- The countdown began at one of the looks. -/
theorem exists_mem_of_countdown (h : countdown ps = some since) :
    ∃ q ∈ ps.takeWhile Probe.sawNobody, q.sawNobody = true ∧ q.completed = since := by
  obtain ⟨q, hq, rfl⟩ := Option.map_eq_some_iff.mp h
  have hmem := List.mem_of_getLast? hq
  exact ⟨q, hmem, List.mem_takeWhile_imp hmem, rfl⟩

/-- Players end the countdown, and only a later look starts it again. -/
theorem exists_later_of_countdown {later earlier : List Probe} {busy : Probe}
    (hbusy : busy.sawNobody = false) (h : countdown (later ++ busy :: earlier) = some since) :
    ∃ q ∈ later, q.sawNobody = true ∧ q.completed = since := by
  obtain ⟨q, hq, hnobody, hsince⟩ := exists_mem_of_countdown h
  refine ⟨q, ?_, hnobody, hsince⟩
  -- The looks at the end of the run that saw nobody are all later than the one that saw somebody.
  rw [List.takeWhile_append] at hq
  split at hq
  · rw [List.takeWhile_cons_of_neg (by simp [hbusy]), List.append_nil] at hq
    exact hq
  · exact List.takeWhile_subset _ hq

namespace Idle

variable {s : FleetSettings} {i : Instance} {x₀ x y : Scene} {tr : List Asked} {id : InstanceId}
  {threshold : Span} {t : Timestamp}

/-- The activity row after some looks, the last first. -/
def told (id : InstanceId) : List Probe → Option Activity
  | [] => none
  | p :: ps => some ⟨id, countdown (p :: ps), p.completed⟩

/-- The activity row says since when nobody has been seen. -/
theorem emptySince_told (id : InstanceId) (ps : List Probe) :
    (told id ps).bind Activity.emptySince = countdown ps := by
  cases ps <;> rfl

/-- What is written down after a look is what all looks so far tell. -/
theorem next_told (id : InstanceId) (p : Probe) (ps : List Probe) :
    Activity.next id (told id ps) p.players p.completed =
      ⟨id, countdown (p :: ps), p.completed⟩ := by
  unfold Activity.next
  rw [countdown_cons, emptySince_told]
  match p with
  | ⟨none, _⟩ => rfl
  | ⟨some 0, _⟩ => rfl
  | ⟨some (_ + 1), _⟩ => rfl

/-- Nobody has been seen for as long as it takes. -/
def Due (threshold : Span) (ps : List Probe) (t : Timestamp) : Prop :=
  ∃ since, countdown ps = some since ∧ (threshold.nanos : Int) ≤ t.since since

/-- The verdict after some looks. -/
theorem idle_told_iff (ht : t.InRange) (hps : ∀ p ∈ ps, p.completed.InRange) :
    Verdict.idle (told id ps) threshold t = .evict ↔ Due threshold ps t := by
  unfold Verdict.idle Due
  rw [emptySince_told]
  cases hc : countdown ps with
  | none => simp
  | some since =>
    obtain ⟨q, hq, -, rfl⟩ := exists_mem_of_countdown hc
    have hiff := Span.reachedBy_since_iff (d := threshold) ht
      (hps q (List.takeWhile_subset _ hq))
    simp only [Option.some.injEq, exists_eq_left', ← hiff]
    split
    · simp_all
    · simp_all

/-! ### Cycles, one after another -/

/-- Cycles run one after another, and others go on between them; the looks that the cycles took at
an instance, the last first. -/
inductive History (s : FleetSettings) (i : Instance) (x₀ : Scene) : List Probe → Scene → Prop where
  | start : History s i x₀ [] x₀
  | beside {ps : List Probe} {x y : Scene} (h : History s i x₀ ps x) (hb : x.Beside i y) :
      History s i x₀ ps y
  | cycle {ps : List Probe} {x y : Scene} {tr : List Asked} (h : History s i x₀ ps x)
      (hc : Cycle s i x tr y) : History s i x₀ ((probe? i.id tr).toList ++ ps) y

/-- What is known about an instance is what the looks at it told. -/
structure Recounts (i : Instance) (ps : List Probe) (x : Scene) : Prop where
  holds : x.Holds i
  activity : x.activity? i.id = told i.id ps
  inRange : ∀ p ∈ ps, p.completed.InRange

/-- An instance that was not looked at told nothing. -/
theorem Evicted.probe?_eq_none (h : Evicted s i tr) : probe? i.id tr = none := by
  have hnone : Asked.ofStep i.id tr = [] :=
    List.filter_eq_nil_iff.mpr fun e he => by simpa using h.unasked e he
  rw [probe?, hnone]
  rfl

/-- A cycle evicts an instance exactly when it is due, and looks at it otherwise. -/
theorem Recounts.cycle (h : Recounts i ps x) (hready : i.status = .ready)
    (hc : Cycle s i x tr y) :
    ∃ t, judgedAt? tr = some t ∧
      ((Due (s.idle.forVariant i.variant) ps t ∧ Evicted s i tr ∧ Recounts i ps y) ∨
        (¬Due (s.idle.forVariant i.variant) ps t ∧
          ∃ p, Probed s i tr p ∧ Recounts i (p :: ps) y)) := by
  obtain ⟨t, hjudged, ht, hy, hcases⟩ := cycle_cases h.holds hready hc
  rw [h.activity] at hcases
  refine ⟨t, hjudged, ?_⟩
  obtain ⟨hevict, hevicted, hactivity⟩ | ⟨hstays, p, hprobed, hp, hactivity⟩ := hcases
  · exact .inl ⟨(idle_told_iff ht h.inRange).mp hevict, hevicted, hy, hactivity, h.inRange⟩
  · refine .inr ⟨mt (idle_told_iff ht h.inRange).mpr hstays, p, hprobed, hy, ?_, ?_⟩
    · rw [hactivity, next_told, told]
    · exact List.forall_mem_cons.mpr ⟨hp, h.inRange⟩

/-- However many cycles there were, what is known about the instance is what the looks at it
told. -/
theorem History.recounts (hready : i.status = .ready) (hx₀ : x₀.Holds i)
    (hnone : x₀.activity? i.id = none) (h : History s i x₀ ps x) : Recounts i ps x := by
  induction h with
  | start => exact ⟨hx₀, hnone, nofun⟩
  | beside h hb ih => exact ⟨hb.holds ih.holds, hb.activity.trans ih.activity, ih.inRange⟩
  | cycle h hc ih =>
    -- A cycle that evicts takes no look, and leaves the row as the last look left it.
    obtain ⟨t, -, ⟨-, hevicted, hrecounts⟩ | ⟨-, p, hprobed, hrecounts⟩⟩ := ih.cycle hready hc
    · rw [hevicted.probe?_eq_none]
      exact hrecounts
    · rw [hprobed.probe]
      exact hrecounts

/-- **The idle countdown.** A ready instance stays in the fleet that nothing was known about at
first, and cycles run one after another, whatever the consoles answer. The next cycle has the
instance removed exactly when nobody has been seen on it for its threshold, and then does not look
at it; otherwise it looks at it, has nothing enqueued for it, and writes down when the look was over
and since when nobody has been seen. So an instance on which players were seen is only removed once
the threshold has passed since a later look that saw nobody. -/
theorem countdown_exact (hready : i.status = .ready) (hx₀ : x₀.Holds i)
    (hnone : x₀.activity? i.id = none) (h : History s i x₀ ps x) (hc : Cycle s i x tr y) :
    ∃ t, judgedAt? tr = some t ∧
      (Evicted s i tr ↔ Due (s.idle.forVariant i.variant) ps t) ∧
      (¬Due (s.idle.forVariant i.variant) ps t → ∃ p, Probed s i tr p ∧
        y.activity? i.id = some ⟨i.id, countdown (p :: ps), p.completed⟩) ∧
      ∀ later busy earlier, ps = later ++ busy :: earlier → busy.sawNobody = false →
        Evicted s i tr → ∃ q ∈ later, q.sawNobody = true ∧
          ((s.idle.forVariant i.variant).nanos : Int) ≤ t.since q.completed := by
  obtain ⟨t, hjudged, hcases⟩ := (h.recounts hready hx₀ hnone).cycle hready hc
  have hiff : Evicted s i tr ↔ Due (s.idle.forVariant i.variant) ps t := by
    obtain ⟨hdue, hevicted, -⟩ | ⟨hnot, p, hprobed, -⟩ := hcases
    · exact iff_of_true hevicted hdue
    · -- A cycle that looks at the instance does not evict it as well.
      refine iff_of_false (fun hevicted => ?_) hnot
      have hnone := hprobed.probe
      rw [hevicted.probe?_eq_none] at hnone
      cases hnone
  refine ⟨t, hjudged, hiff, fun hnot => ?_, fun later busy earlier hps hbusy hevicted => ?_⟩
  · obtain ⟨hdue, -⟩ | ⟨-, p, hprobed, hrecounts⟩ := hcases
    · exact absurd hdue hnot
    · exact ⟨p, hprobed, hrecounts.activity⟩
  · obtain ⟨since, hsince, hle⟩ := hiff.mp hevicted
    rw [hps] at hsince
    obtain ⟨q, hq, hnobody, rfl⟩ := exists_later_of_countdown hbusy hsince
    exact ⟨q, hq, hnobody, hle⟩

/-! ### An instance that stops answering -/

/-- The settings when no variable is set. -/
def unset : FleetSettings := .ofEnvironment fun _ => none

/-- An instance with a console. -/
def served : Instance where
  id := ⟨.numbered 0⟩
  owner := ⟨"owner"⟩
  status := .ready
  region := "us-east"
  variant := "plain"
  guild := none
  endpoints := some ⟨⟨"10.0.0.1", 27015⟩, none, ⟨"10.0.0.1", 27015⟩⟩
  credentials := some ⟨"", "", none⟩
  createdAt := .ofSeconds 0

/-- What is known of it, after some seconds. -/
def seen (emptySince : Option Int) (checkedAt : Int) : Activity :=
  ⟨served.id, emptySince.map Timestamp.ofSeconds, .ofSeconds checkedAt⟩

/-- A fleet of that instance alone, after some seconds. -/
def alone (known : List Activity) (seconds : Int) : Scene :=
  ⟨[served], known, {}, .ofSeconds seconds⟩

section

variable (known : List Activity) (seconds : Int)

theorem alone_lists : (alone known seconds).Answers (.call (.listInstances (some .ready)))
    (.ok [served]) (alone known seconds) :=
  ⟨rfl, _, rfl, .refl _⟩

theorem alone_knows : (alone known seconds).Answers (.call .listActivities) (.ok known)
    (alone known seconds) :=
  ⟨rfl, _, rfl, .refl _⟩

theorem alone_tells : (alone known seconds).Answers .now (Timestamp.ofSeconds seconds)
    (alone known seconds) :=
  ⟨rfl, rfl⟩

theorem alone_replies (q : ConsoleQuery) (o : Outcome String) :
    (alone known seconds).Answers (.call (.console q)) o (alone known seconds) :=
  rfl

theorem alone_finds : (alone known seconds).Answers (.call (.findInstance served.id))
    (.ok (some served)) (alone known seconds) :=
  ⟨rfl, rfl⟩

theorem alone_records (a : Activity) : (alone known seconds).Answers (.call (.recordActivity a))
    (.ok ()) (alone (Rows.put Activity.server a known) seconds) :=
  ⟨rfl, rfl⟩

theorem alone_searches (kind : String) (payload : Json.Value) :
    (alone known seconds).Answers (.isQueued kind payload) false (alone known seconds) :=
  ⟨rfl, rfl⟩

theorem alone_enqueues (o : TaskOrder) : (alone known seconds).Answers (.enqueue o) ()
    { alone known seconds with queue := TaskQueue.enqueue {} "task" 0 o } :=
  ⟨_, _, rfl⟩

end

theorem alone_passes (known : List Activity) (seconds later : Int)
    (h : (Timestamp.ofSeconds later).InRange) :
    (alone known seconds).Beside served (alone known later) :=
  ⟨fun hx => ⟨hx.row, hx.rows, hx.activities, h⟩, rfl⟩

theorem cycle_busy : ∃ tr, Cycle unset served (alone [] 0) tr (alone [seen none 0] 0) ∧
    probe? served.id tr = some ⟨some 2, .ofSeconds 0⟩ :=
  ⟨_, ⟨_, _,
    .step (k := 0) rfl (alone_lists ..) <|
    .step (k := 0) rfl (alone_knows ..) <|
    .step (k := 0) rfl (alone_tells ..) <|
    .step (k := 0) rfl (alone_replies _ _ _ (.ok "players : 2")) <|
    .step (k := 0) rfl (alone_tells ..) <|
    .step (k := 0) rfl (alone_finds ..) <|
    .step (k := 0) rfl (alone_records ..) <| .rest _ _, rfl⟩, rfl⟩

theorem cycle_silent : ∃ tr,
    Cycle unset served (alone [seen none 0] 60) tr (alone [seen (some 60) 60] 60) ∧
      probe? served.id tr = some ⟨none, .ofSeconds 60⟩ :=
  ⟨_, ⟨_, _,
    .step (k := 0) rfl (alone_lists ..) <|
    .step (k := 0) rfl (alone_knows ..) <|
    .step (k := 0) rfl (alone_tells ..) <|
    .step (k := 0) rfl (alone_replies _ _ _ (.error .shuttingDown)) <|
    .step (k := 0) rfl (alone_tells ..) <|
    .step (k := 0) rfl (alone_finds ..) <|
    .step (k := 0) rfl (alone_records ..) <| .rest _ _, rfl⟩, rfl⟩

theorem cycle_due : ∃ tr y, Cycle unset served (alone [seen (some 60) 60] 660) tr y ∧
    judgedAt? tr = some (.ofSeconds 660) :=
  ⟨_, _, ⟨_, _,
    .step (k := 0) rfl (alone_lists ..) <|
    .step (k := 0) rfl (alone_knows ..) <|
    .step (k := 0) rfl (alone_tells ..) <|
    .step (k := 0) rfl (alone_searches ..) <|
    .step (k := 0) rfl (alone_enqueues ..) <| .rest _ _, rfl⟩, rfl⟩

/-- Players were seen on the instance at first, and a minute later it did not answer. Ten minutes
after that it is removed. -/
theorem countdown_exact_served : ∃ x tr y,
    History unset served (alone [] 0) [⟨none, .ofSeconds 60⟩, ⟨some 2, .ofSeconds 0⟩] x ∧
      Cycle unset served x tr y ∧ judgedAt? tr = some (.ofSeconds 660) ∧
      Evicted unset served tr := by
  obtain ⟨tr₁, hbusy, hprobe₁⟩ := cycle_busy
  obtain ⟨tr₂, hsilent, hprobe₂⟩ := cycle_silent
  obtain ⟨tr₃, y, hdue, hjudged⟩ := cycle_due
  have hrange : ∀ seconds : Int, 0 ≤ seconds → seconds ≤ 660 →
      (Timestamp.ofSeconds seconds).InRange := fun seconds h h' =>
    ⟨by simp only [Timestamp.ofSeconds]; omega, by simp only [Timestamp.ofSeconds]; omega,
      (by decide : 0 < 2 * Span.second)⟩
  have hholds : (alone [] 0).Holds served :=
    ⟨List.mem_singleton.mpr rfl, by decide, by decide, hrange 0 (by decide) (by decide)⟩
  have h₁ := History.start.cycle hbusy
  rw [hprobe₁] at h₁
  have h₂ := (h₁.beside (alone_passes _ 0 60 (hrange 60 (by decide) (by decide)))).cycle hsilent
  rw [hprobe₂] at h₂
  have h₃ := h₂.beside (alone_passes _ 60 660 (hrange 660 (by decide) (by decide)))
  obtain ⟨t, ht, hiff, -⟩ := countdown_exact rfl hholds rfl h₃ hdue
  obtain rfl : t = .ofSeconds 660 := Option.some.inj (ht.symm.trans hjudged)
  exact ⟨_, tr₃, y, h₃, hdue, hjudged, hiff.mpr ⟨.ofSeconds 60, rfl, by decide⟩⟩

end Idle

end GameFleet
