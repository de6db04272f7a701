import TTLockConnect.Coordinator.SensorPolls

/-! # Polls of one lock, one after another

Polls that do not overlap, what goes on between them, and restarts, which create the coordinator anew
over the record of the store. Time does not go back. -/

namespace TTLockConnect.Coordinator.SensorRuns

open TTLockConnect.Text TTLockConnect.Models TTLockConnect.Api TTLockConnect.Coordinator.State
open TTLockConnect.Coordinator.Poll TTLockConnect.Coordinator.Overwrite
open TTLockConnect.Coordinator.Retry
open TTLockConnect.Coordinator.SensorTier TTLockConnect.Coordinator.SensorPolls
open TTLockConnect.Async.Coroutine TTLockConnect.Async.Coroutine.Coro TTLockConnect.Async.Runs

/-- What happens next. -/
inductive PollEvent where
  | poll (w : CalmWorld)
  /-- Anything between two polls that leaves alone what decides about the door sensor. -/
  | meanwhile (change : LockUpdateCoordinator → LockUpdateCoordinator)
  | restart (fresh : LockUpdateCoordinator)

instance (c c' : LockUpdateCoordinator) : Decidable (Steady c c') :=
  decidable_of_iff (c'.store = c.store ∧ c'.sensorRecheckDone = c.sensorRecheckDone ∧
    gate c'.data.sensor = gate c.data.sensor ∧ c'.lockId = c.lockId ∧
      c.now.instant ≤ c'.now.instant)
    ⟨fun ⟨h₁, h₂, h₃, h₄, h₅⟩ => ⟨h₁, h₂, h₃, h₄, h₅⟩,
      fun h => ⟨h.store, h.recheck, h.sensor, h.lockId, h.later⟩⟩

/-- `LockUpdateCoordinator.__init__`, over the record of the store. -/
def recreated (c fresh : LockUpdateCoordinator) : LockUpdateCoordinator :=
  { fresh with
    lockId := c.lockId
    bleVersion := none
    bleKey := none
    sensorRecheckDone := false
    detailsLastFetched := none
    passageLastFetched := none
    gatewaysLastFetched := none
    codesLastFetched := none
    lastUpdateSuccess := true
    data := { name := fresh.data.name, mac := fresh.data.mac, features := fresh.data.features }
    store := c.store }

/-- One step. -/
def step (c : LockUpdateCoordinator) : PollEvent → Option LockUpdateCoordinator
  | .poll w => some (asyncRefresh.run w.answer c).2
  | .meanwhile change => if Steady c (change c) then some (change c) else none
  | .restart fresh =>
    if c.now.instant ≤ fresh.now.instant then some (recreated c fresh) else none

abbrev SensorMove := Move LockUpdateCoordinator PollEvent

/-- The calls of `doorSensor/query` in a move. -/
def asked (m : SensorMove) : List Query :=
  match m.label with
  | .poll w => queries w.toWorld m.src
  | _ => []

/-- The coordinator is created anew. -/
def IsRestart (m : SensorMove) : Prop := ∃ fresh, m.label = .restart fresh

/-- **What a step can do.** -/
inductive Stepped (m : SensorMove) : Prop where
  | polled {w : CalmWorld} : m.label = .poll w →
      Polled w m.src m.dst (gate m.dst.data.sensor) (asked m) → Stepped m
  | steady : asked m = [] → Steady m.src m.dst → Stepped m
  | restarted : IsRestart m → asked m = [] → m.dst.store = m.src.store →
      m.dst.sensorRecheckDone = false → gate m.dst.data.sensor = none → Stepped m

theorem step_cases {c c' : LockUpdateCoordinator} {e : PollEvent} (h : step c e = some c') :
    Stepped ⟨c, e, c'⟩ := by
  cases e with
  | poll w =>
    obtain rfl := Option.some.inj h
    exact .polled rfl (asyncRefresh_polled w c)
  | meanwhile change =>
    simp only [step] at h
    split_ifs at h with hs
    obtain rfl := Option.some.inj h
    exact .steady rfl hs
  | restart fresh =>
    simp only [step] at h
    split_ifs at h
    obtain rfl := Option.some.inj h
    exact .restarted ⟨fresh, rfl⟩ rfl rfl rfl rfl

/-- When a record allows a probe of a sensor that is not present. -/
theorem probeDue_cases {w : CalmWorld} {c : LockUpdateCoordinator}
    (h : probeDue (w.move .storeLoad (behindDetails w.toWorld c)) = true) :
    (c.store.doorSensorConfirmedAbsent = true ∧ c.sensorRecheckDone = false) ∨
    (c.store.doorSensorConfirmedAbsent = false ∧
      ∀ last, c.store.doorSensorLastFailedReq = some last →
        last.instant < (w.move .storeLoad (behindDetails w.toWorld c)).dayAgo) := by
  have hs := (steady_behindDetails w c).trans (w.steady .storeLoad _)
  unfold probeDue at h
  rw [hs.store, hs.recheck] at h
  split_ifs at h with habs
  · exact .inl ⟨habs, by simpa using h⟩
  · refine .inr ⟨Bool.eq_false_iff.mpr habs, fun last hlast => ?_⟩
    rw [hlast] at h
    simp only [Option.any_some, Bool.not_eq_true', decide_eq_false_iff_not] at h
    exact Int.not_le.mp h

/-! ### Days by the wall clock -/

/-- **A poll that looks for a sensor after a failure that counts** does so when local time has not
been put forward in the day before. -/
def ProbesByDay (w : World) (c : LockUpdateCoordinator) : Prop :=
  Asks w c → sensorPresent c.data.sensor = false → c.store.doorSensorConfirmedAbsent = false →
    c.store.doorSensorLastFailedReq.isSome = true →
      (w.move .storeLoad (behindDetails w c)).now.offset ≤
        (w.move .storeLoad (behindDetails w c)).offsetDayAgo

/-- **A poll that asks a sensor again** does so when local time has not been put forward since. -/
def RefreshesByDay (w : World) (c : LockUpdateCoordinator) : Prop :=
  Asks w c → ∀ last, gate c.data.sensor = some (some last) →
    (behindDetails w c).now.offset ≤ last.offset

section Days
variable {w : World} {c : LockUpdateCoordinator} {last now : LocalTime}

/-- The day that has passed on the wall clock is 24 hours at least, if the clock was not put forward. -/
theorem dayAgo_le (h : c.now.offset ≤ c.offsetDayAgo) :
    c.dayAgo + Duration.ofDays 1 ≤ c.now.instant := by
  unfold LockUpdateCoordinator.dayAgo LocalTime.wall Duration.ofSeconds
  change (_ : ℤ) ≤ _
  omega

/-- A failure that no longer bars a probe is more than a day old. -/
theorem dayApart_of_probeDue (hday : ProbesByDay w c) (hasks : Asks w c)
    (hp : sensorPresent c.data.sensor = false) (habs : c.store.doorSensorConfirmedAbsent = false)
    (hlast : c.store.doorSensorLastFailedReq = some last)
    (hdue : last.instant < (w.move .storeLoad (behindDetails w c)).dayAgo) :
    last.instant + Duration.ofDays 1 < (w.move .storeLoad (behindDetails w c)).now.instant := by
  have hle := dayAgo_le (hday hasks hp habs (by rw [hlast]; rfl))
  exact Int.lt_of_lt_of_le (Int.add_lt_add_right hdue _) hle

/-- A stamp that no longer bars a query is more than a day old. -/
theorem dayApart_of_wall (hoffset : now.offset ≤ last.offset)
    (hdue : last.wall < now.wall - Duration.ofDays 1) :
    last.instant + Duration.ofDays 1 < now.instant := by
  unfold LocalTime.wall Duration.ofSeconds at hdue
  change (_ : ℤ) < _
  change (_ : ℤ) < _ at hdue
  omega

end Days

/-! ### Sample polls -/

/-- A cloud that answers for the door sensor like this. -/
def replyWith (sensor : Except PyError Sensor) : (q : Request) → Except PyError (Reply q)
  | .detail _ => .ok { sampleDetails with featureValue := some "2000" }
  | .doorSensor _ => sensor
  | q => sampleReply q

theorem leaves_still (_ : Request) (c : LockUpdateCoordinator) : Leaves (fun _ => False) c c :=
  .refl c

theorem steady_still (_ : Request) (c : LockUpdateCoordinator) : Steady c c := .refl c

/-- A poll of a lock that supports a door sensor. -/
def pollWith (sensor : Except PyError Sensor) : PollEvent := .poll
  { reply := replyWith sensor
    move := fun _ c => c
    leaves := leaves_still
    steady := steady_still }

/-- Hours without a poll. -/
def wait (hours : ℤ) : PollEvent := .meanwhile fun c =>
  { c with now := { c.now with instant := c.now.instant + Duration.ofHours hours } }

section Still
variable {w : World} {c : LockUpdateCoordinator}

/-- Around such a poll the clock stands still. -/
theorem now_behindDetails (hmove : w.move = fun _ c => c) :
    (behindDetails w c).now = c.now ∧ (behindDetails w c).offsetDayAgo = c.offsetDayAgo := by
  unfold behindDetails
  rw [hmove]
  split_ifs
  · cases w.reply (.detail c.lockId) <;> exact ⟨rfl, rfl⟩
  · exact ⟨rfl, rfl⟩

theorem probesByDay_still (hmove : w.move = fun _ c => c) (hday : c.now.offset ≤ c.offsetDayAgo) :
    ProbesByDay w c := by
  intro _ _ _ _
  have hbehind := now_behindDetails (c := c) hmove
  rw [hmove]
  dsimp only
  rw [hbehind.1, hbehind.2]
  exact hday

end Still

end TTLockConnect.Coordinator.SensorRuns
