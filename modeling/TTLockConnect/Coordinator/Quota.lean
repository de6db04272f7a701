import TTLockConnect.Coordinator.SensorRuns

/-! # One query of the door sensor a day

A query is remembered by the stamp of a sensor that is present, by the stamp of a failure in the
record, or by the flag of the instance under the verdict. As long as every query is, and local time
is not put forward, the next is more than a day away; a query that finds no battery, that fails in
another way, or whose poll fails later is remembered nowhere, and the next poll asks again. -/

namespace TTLockConnect.Coordinator.Quota

open TTLockConnect.Text TTLockConnect.Models TTLockConnect.Api TTLockConnect.Coordinator.State
open TTLockConnect.Coordinator.Overwrite TTLockConnect.Coordinator.Retry
open TTLockConnect.Coordinator.SensorTier TTLockConnect.Coordinator.SensorPolls
open TTLockConnect.Coordinator.SensorRuns TTLockConnect.Async.Runs

/-! ### When a poll remembers its query -/

/-- What a query says is remembered: a battery if the poll goes through, a failure if that of a
sensor that is present goes through, and any other error only under the verdict. -/
def Remembered (w : World) (c : LockUpdateCoordinator) : Outcome → Prop
  | .sensor battery => battery.isSome = true ∧ GoesThrough w c ∧
      (sensorPresent c.data.sensor = true ∨ ∃ u, w.reply .storeSave = .ok u)
  | .requestFailed => sensorPresent c.data.sensor = true → GoesThrough w c
  | .other => sensorPresent c.data.sensor = false ∧ c.store.doorSensorConfirmedAbsent = true

/-- **When a poll remembers**, and reckons with whole days. -/
structure Remembers (w : World) (c : LockUpdateCoordinator) : Prop where
  query : Asks w c → Remembered w c (outcome w c.lockId)
  /-- A sensor that is present is not dropped. -/
  supported : sensorPresent c.data.sensor = true → GoesThrough w c →
    (featuresOf w c).has doorSensorBit = true
  probes : ProbesByDay w c
  refreshes : RefreshesByDay w c

/-- A day apart at least. -/
abbrev DayOrMore (p q : Query) : Prop := p.sent + Duration.ofDays 1 ≤ q.sent

/-- The query is remembered, so that the next is a day away. -/
def Held (c : LockUpdateCoordinator) (q : Query) : Prop :=
  (∃ last, gate c.data.sensor = some (some last) ∧ q.sent ≤ last.instant) ∨
  (gate c.data.sensor = none ∧ c.store.doorSensorConfirmedAbsent = true ∧
    c.sensorRecheckDone = true) ∨
  (gate c.data.sensor = none ∧ c.store.doorSensorConfirmedAbsent = false ∧
    ∃ last, c.store.doorSensorLastFailedReq = some last ∧ q.sent ≤ last.instant)

section Step
variable {w : CalmWorld} {c c' : LockUpdateCoordinator} {p q : Query} {t : LocalTime}
  {g : Option (Option LocalTime)}

theorem Held.congr (h : Held c q) (hg : gate c'.data.sensor = gate c.data.sensor)
    (hstore : c'.store = c.store) (hflag : c'.sensorRecheckDone = c.sensorRecheckDone) :
    Held c' q := by
  unfold Held
  rw [hg, hstore, hflag]
  exact h

/-- A sensor that is present is asked more than a day after the queries it stands for. -/
theorem dayOrMore_of_refreshed (hp : sensorPresent c.data.sensor = true) {sent : LocalTime}
    (hday : ∀ last, gate c.data.sensor = some (some last) → sent.offset ≤ last.offset)
    (hdue : queriedRecently (c.data.sensor.getD {}) sent = false) (hheld : Held c p) (o : Outcome) :
    DayOrMore p ⟨sent.instant, o⟩ := by
  have hne : gate c.data.sensor ≠ none := by
    rw [Ne, gate_eq_none_iff, hp]
    decide
  rcases hheld with ⟨last, hg, hle⟩ | ⟨hg, -⟩ | ⟨hg, -⟩
  · have hlast : (c.data.sensor.getD {}).lastFetched = some last := by
      cases hs : c.data.sensor with
      | none =>
        rw [hs] at hg
        cases hg
      | some s =>
        rw [hs, gate_some] at hg
        split_ifs at hg
        exact Option.some.inj hg
    unfold queriedRecently at hdue
    rw [hlast] at hdue
    simp only [Option.any_some, decide_eq_false_iff_not] at hdue
    have hlt : last.instant + Duration.ofDays 1 < sent.instant :=
      dayApart_of_wall (hday last hg) (Int.not_le.mp hdue)
    exact Int.le_trans (Int.add_le_add_right hle _) (Int.le_of_lt hlt)
  · exact absurd hg hne
  · exact absurd hg hne

/-- A probe comes more than a day after the queries that are remembered. -/
theorem dayOrMore_of_probed (hp : sensorPresent c.data.sensor = false) (hasks : Asks w.toWorld c)
    (hday : ProbesByDay w.toWorld c)
    (hdue : probeDue (w.move .storeLoad (behindDetails w.toWorld c)) = true) (hheld : Held c p)
    (o : Outcome) :
    DayOrMore p ⟨(w.move .storeLoad (behindDetails w.toWorld c)).now.instant, o⟩ := by
  have hnone := (gate_eq_none_iff _).mpr hp
  rcases probeDue_cases hdue with ⟨habs, hflag⟩ | ⟨habs, hgate⟩
  · rcases hheld with ⟨last, hg, -⟩ | ⟨-, -, hdone⟩ | ⟨-, hnot, -⟩
    · cases hnone.symm.trans hg
    · cases hflag.symm.trans hdone
    · cases habs.symm.trans hnot
  · rcases hheld with ⟨last, hg, -⟩ | ⟨-, hyes, -⟩ | ⟨-, -, last, hlast, hle⟩
    · cases hnone.symm.trans hg
    · cases habs.symm.trans hyes
    · have hlt := dayApart_of_probeDue hday hasks hp habs hlast (hgate last hlast)
      exact Int.le_trans (Int.add_le_add_right hle _) (Int.le_of_lt hlt)

/-- A battery makes the sensor present. -/
theorem gate_battery (sensor : SensorData) {battery : Option ℤ} (hb : battery.isSome = true)
    (t : LocalTime) : gate (some (answered sensor (.sensor battery) t)) = some (some t) :=
  if_pos hb

/-- A failure leaves a sensor that is present so. -/
theorem gate_failed (hp : sensorPresent c.data.sensor = true) (t : LocalTime) :
    gate (some (answered (c.data.sensor.getD {}) .requestFailed t)) = some (some t) := by
  cases hs : c.data.sensor with
  | none =>
    rw [hs] at hp
    cases hp
  | some s =>
    rw [hs] at hp
    exact if_pos hp

/-- The stamp of a sensor that has been asked. -/
theorem gate_of_refreshed (hp : sensorPresent c.data.sensor = true)
    (hrem : Remembered w.toWorld c (outcome w.toWorld c.lockId))
    (hl : Learnt w.toWorld c True t g) : g = some (some t) := by
  have htaken := hl.taken
  cases ho : outcome w.toWorld c.lockId with
  | sensor battery =>
    rw [ho] at hrem htaken
    obtain ⟨hb, hgo, -⟩ := hrem
    rw [htaken nofun trivial hgo, gate_battery _ hb]
  | requestFailed =>
    rw [ho] at hrem htaken
    rw [htaken nofun trivial (hrem hp), gate_failed hp]
  | other =>
    rw [ho] at hrem
    cases hp.symm.trans hrem.1

/-- What holds a probe. -/
theorem held_of_probed (hp : sensorPresent c.data.sensor = false)
    (hrem : Remembered w.toWorld c (outcome w.toWorld c.lockId)) {g}
    (hg : gate c'.data.sensor = g) (hrec : Recorded w c c' t)
    (hl : Learnt w.toWorld c (∃ u, w.reply .storeSave = .ok u) t g) (hle : p.sent ≤ t.instant) :
    Held c' p := by
  have hstore := hrec.store
  have hflag := hrec.recheck
  cases ho : outcome w.toWorld c.lockId with
  | sensor battery =>
    have htaken := hl.taken
    rw [ho] at hrem htaken
    obtain ⟨hb, hgo, hpresent | hsaved⟩ := hrem
    · cases hp.symm.trans hpresent
    · exact .inl ⟨t, by rw [hg, htaken nofun hsaved hgo, gate_battery _ hb], hle⟩
  | other =>
    have hnone := gate_of_failure hp (fun battery hb => by rw [ho] at hb; cases hb) hl
    rw [ho] at hrem hstore hflag
    refine .inr (.inl ⟨hg.trans hnone, ?_, ?_⟩)
    · rw [hstore]
      exact hrem.2
    · rw [hflag, recheckAfter, hrem.2, Bool.or_true, Bool.true_or]
  | requestFailed =>
    have hnone := gate_of_failure hp (fun battery hb => by rw [ho] at hb; cases hb) hl
    rw [ho] at hstore hflag
    cases habs : c.store.doorSensorConfirmedAbsent with
    | true =>
      have hkept : recorded c.store .requestFailed t = c.store := if_pos habs
      rw [hkept] at hstore
      refine .inr (.inl ⟨hg.trans hnone, by rw [hstore, habs], ?_⟩)
      rw [hflag, recheckAfter, habs, Bool.or_true, Bool.true_or]
    | false =>
      have hfailed : recorded c.store .requestFailed t = _ := if_neg (Bool.eq_false_iff.mp habs)
      rw [hfailed] at hstore
      by_cases hthree :
          SENSOR_ABSENT_AFTER_FAILURES ≤ c.store.doorSensorCountFailedReq + 1
      · refine .inr (.inl ⟨hg.trans hnone, ?_, ?_⟩)
        · rw [hstore]
          exact decide_eq_true hthree
        · rw [hflag, recheckAfter, decide_eq_true ⟨rfl, hthree⟩, Bool.or_true]
      · refine .inr (.inr ⟨hg.trans hnone, ?_, t, ?_, hle⟩)
        · rw [hstore]
          exact decide_eq_false hthree
        · rw [hstore]

/-- The queries so far, and one more. -/
theorem sent_le {qs : List Query} (hday : ∀ p ∈ qs, DayOrMore p q) (hle : q.sent ≤ t.instant) :
    p ∈ qs ++ [q] → p.sent ≤ t.instant := by
  intro hmem
  rcases List.mem_append.mp hmem with hmem | hmem
  · have hpos : p.sent ≤ p.sent + Duration.ofDays 1 := Int.le_add_of_nonneg_right (by decide)
    exact Int.le_trans hpos (Int.le_trans (hday p hmem) hle)
  · rw [List.mem_singleton.mp hmem]
    exact hle

/-- **A step keeps the queries a day apart, and remembers its own.** -/
theorem quota_step {m : SensorMove} {qs : List Query} (hst : Stepped m) (hre : ¬ IsRestart m)
    (hrem : ∀ w, m.label = .poll w → Remembers w.toWorld m.src)
    (hheld : ∀ p ∈ qs, Held m.src p) :
    (∀ p ∈ qs, ∀ q ∈ asked m, DayOrMore p q) ∧ (asked m).Pairwise DayOrMore ∧
      ∀ p ∈ qs ++ asked m, Held m.dst p := by
  cases hst with
  | restarted h => exact absurd h hre
  | steady hq hs =>
    rw [hq, List.append_nil]
    exact ⟨nofun, .nil, fun p hp => (hheld p hp).congr hs.sensor hs.store hs.recheck⟩
  | @polled w hl hp =>
    have hrem := hrem w hl
    generalize hg : gate m.dst.data.sensor = g at hp
    generalize asked m = qs' at hp
    cases hp with
    | quiet hk hsame =>
      rw [List.append_nil]
      exact ⟨nofun, .nil, fun p hp => (hheld p hp).congr (hg.trans hsame) hk.store hk.recheck⟩
    | dropped hk hf hgo hnone =>
      -- a sensor that is present is not dropped
      have hsame : gate m.src.data.sensor = none := by
        refine (gate_eq_none_iff _).mpr ?_
        by_contra hp
        exact hf (hrem.supported (Bool.of_not_eq_false hp) hgo)
      have hkept : gate m.dst.data.sensor = gate m.src.data.sensor := by rw [hg, hnone, hsame]
      rw [List.append_nil]
      exact ⟨nofun, .nil, fun p hp => (hheld p hp).congr hkept hk.store hk.recheck⟩
    | @refreshed t hasks hp hle _ hk hlearnt =>
      have hdue := hasks.due
      rw [if_pos hp] at hdue
      have hstamp := gate_of_refreshed hp (hrem.query hasks) hlearnt
      have hday := fun p hmem => dayOrMore_of_refreshed hp (hrem.refreshes hasks) hdue
        (hheld p hmem) (outcome w.toWorld m.src.lockId)
      refine ⟨fun p hmem q hq => ?_, List.pairwise_singleton _ _, fun p hmem => ?_⟩
      · rw [List.mem_singleton.mp hq]
        exact hday p hmem
      · exact .inl ⟨t, hg.trans hstamp, sent_le hday hle hmem⟩
    | @probed t hasks hp hle _ hrec hlearnt =>
      have hdue := hasks.due
      rw [if_neg (Bool.eq_false_iff.mp hp)] at hdue
      have hday := fun p hmem => dayOrMore_of_probed hp hasks hrem.probes hdue.2
        (hheld p hmem) (outcome w.toWorld m.src.lockId)
      refine ⟨fun p hmem q hq => ?_, List.pairwise_singleton _ _, fun p hmem => ?_⟩
      · rw [List.mem_singleton.mp hq]
        exact hday p hmem
      · exact held_of_probed hp (hrem.query hasks) hg hrec hlearnt (sent_le hday hle hmem)

end Step

/-! ### Runs -/

section Run
variable {c₀ c : LockUpdateCoordinator} {τ : List SensorMove}

/-- The queries so far are a day apart, and all are remembered. -/
theorem run_held (hr : Run step c₀ τ c) (hsame : ∀ m ∈ τ, ¬ IsRestart m)
    (hrem : ∀ m ∈ τ, ∀ w, m.label = .poll w → Remembers w.toWorld m.src) :
    (τ.flatMap asked).Pairwise DayOrMore ∧ ∀ p ∈ τ.flatMap asked, Held c p := by
  induction hr with
  | nil => exact ⟨.nil, nofun⟩
  | @snoc τ s s' e _ hs ih =>
    obtain ⟨hday, hheld⟩ := ih (fun m hm => hsame m (List.mem_append_left _ hm))
      fun m hm => hrem m (List.mem_append_left _ hm)
    have hlast : ⟨s, e, s'⟩ ∈ τ ++ [(⟨s, e, s'⟩ : SensorMove)] := by simp
    obtain ⟨hbetween, hown, hheld'⟩ :=
      quota_step (m := ⟨s, e, s'⟩) (step_cases hs) (hsame _ hlast) (hrem _ hlast) hheld
    rw [List.flatMap_append, List.flatMap_singleton]
    exact ⟨List.pairwise_append.mpr ⟨hday, hown, hbetween⟩, hheld'⟩

end Run

end TTLockConnect.Coordinator.Quota
