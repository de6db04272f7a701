import TTLockConnect.Coordinator.SensorTier

/-! # What a poll makes of the door sensor

`Polled`: a poll asks for the door sensor at most once, and what it learns gets into the record at
once, but into the data only if the whole poll goes through. -/

namespace TTLockConnect.Coordinator.SensorPolls

open TTLockConnect.Text TTLockConnect.Models TTLockConnect.Api TTLockConnect.Coordinator.State
open TTLockConnect.Coordinator.Poll TTLockConnect.Coordinator.Retry
open TTLockConnect.Coordinator.SensorTier
open TTLockConnect.Async.Coroutine TTLockConnect.Async.Coroutine.Coro

/-! ### What a poll is told -/

section Told
variable (w : World) (c : LockUpdateCoordinator)

/-- The coordinator behind the details. -/
def behindDetails : LockUpdateCoordinator :=
  if c.slowTierDue c.detailsLastFetched c.now then
    match w.reply (.detail c.lockId) with
    | .ok details => { w.move (.detail c.lockId) c with
        bleVersion := details.lockVersion
        bleKey := details.aesKeyStr
        detailsLastFetched := some c.now }
    | .error _ => c
  else c

/-- The features by which the poll goes. -/
def featuresOf : Features :=
  if c.slowTierDue c.detailsLastFetched c.now then
    match w.reply (.detail c.lockId) with
    | .ok details =>
      match Features.fromFeatureValue details.featureValue with
      | .ok features => features
      | .error _ => c.data.features
    | .error _ => c.data.features
  else c.data.features

/-- The poll gets as far as the door sensor. -/
structure Begins : Prop where
  connectable : c.connectable = true
  details : Due c .details → Arrives w c.lockId .details

/-- The door sensor apart, every call of the poll succeeds, or its failure is tolerated. -/
structure GoesThrough : Prop extends Begins w c where
  state : StateAnswers w (behindDetails w c)
  groups : ∀ g, Due c g → Arrives w c.lockId g

/-- The poll asks for the door sensor. -/
structure Asks : Prop extends Begins w c where
  supported : (featuresOf w c).has doorSensorBit = true
  due : if sensorPresent c.data.sensor then
      queriedRecently (c.data.sensor.getD {}) (behindDetails w c).now = false
    else (∃ u, w.reply .storeLoad = .ok u) ∧
      probeDue (w.move .storeLoad (behindDetails w c)) = true

end Told

variable {w : CalmWorld} {c c' s s' : LockUpdateCoordinator} {d : LockState}

/-- What the details come to. -/
theorem updateDetails_cases (w : World) (c : LockUpdateCoordinator) :
    (¬ (Due c .details → Arrives w c.lockId .details) ∧ ∃ e s,
      (updateDetails c.now c.data).run w.answer c = (.error e, s)) ∨
    ((Due c .details → Arrives w c.lockId .details) ∧ ∃ d,
      (updateDetails c.now c.data).run w.answer c = (.ok d, behindDetails w c) ∧
        d.features = featuresOf w c ∧ d.sensor = c.data.sensor ∧ d.locked = c.data.locked) := by
  unfold updateDetails behindDetails featuresOf
  rw [run_bind, run_get]
  dsimp only
  by_cases hdue : c.slowTierDue c.detailsLastFetched c.now = true
  · have hd : Due c .details := ⟨hdue, nofun⟩
    rw [if_pos hdue, if_pos hdue, if_pos hdue, getLock, run_bind, run_call, World.answer]
    cases hr : w.reply (.detail c.lockId) with
    | error e =>
      refine .inl ⟨fun h => ?_, e, _, rfl⟩
      obtain ⟨details, _, hok, _⟩ := h hd
      cases hr.symm.trans hok
    | ok details =>
      dsimp only
      rw [run_bind, run_fromExcept]
      cases hf : Features.fromFeatureValue details.featureValue with
      | error e =>
        refine .inl ⟨fun h => ?_, e, _, rfl⟩
        obtain ⟨details', features, hok, hfeatures⟩ := h hd
        cases hr.symm.trans hok
        cases hf.symm.trans hfeatures
      | ok features =>
        exact .inr ⟨fun _ => ⟨details, features, hr, hf⟩, _, rfl, rfl, rfl, rfl⟩
  · rw [if_neg hdue, if_neg hdue, if_neg hdue]
    exact .inr ⟨fun h => absurd h.1 hdue, c.data, rfl, rfl, rfl, rfl⟩

theorem steady_behindDetails (w : CalmWorld) (c : LockUpdateCoordinator) :
    Steady c (behindDetails w.toWorld c) := by
  have hs := w.steady (.detail c.lockId) c
  unfold behindDetails
  split_ifs
  · cases w.reply (.detail c.lockId) with
    | ok details => exact ⟨hs.store, hs.recheck, hs.sensor, hs.lockId, hs.later⟩
    | error e => exact .refl c
  · exact .refl c

/-- What the details have changed is only their own. -/
theorem leaves_behindDetails (w : World) (c : LockUpdateCoordinator) :
    Leaves (· = .details) c (behindDetails w c) := by
  unfold behindDetails
  split_ifs
  · cases w.reply (.detail c.lockId) with
    | ok details => exact (leaves_move w _ c).trans (leaves_fetched _ _ _ _)
    | error e => exact .refl c
  · exact .refl c

/-! ### When a poll goes through -/

section Through
variable {w : World} {t : LocalTime} {may : Group → Prop} {g : Group} {α β : Type}

theorem due_of_leaves (h : Leaves may c s) (hg : ¬ may g) :
    DueAt c.now s g ↔ Due c g := by
  rw [Due, DueAt, DueAt, h.stamps g hg, h.hasGateway]
  unfold LockUpdateCoordinator.slowTierDue
  rw [h.slowInterval]

/-- A sequence returns if both parts do. -/
theorem returns_bind_iff {p : Method α} {f : α → Method β} {P R : Prop} (hp : Returns w p s ↔ P)
    (hf : ∀ a s', p.run w.answer s = (.ok a, s') → (Returns w (f a) s' ↔ R)) :
    Returns w (p >>= f) s ↔ P ∧ R := by
  cases hrun : p.run w.answer s with
  | mk r s' =>
    have hret : Returns w p s ↔ r.toBool = true := by rw [Returns, hrun]
    cases r with
    | ok a =>
      rw [returns_bind hrun, hf a s' hrun, ← hp, hret]
      exact (and_iff_right rfl).symm
    | error e =>
      refine iff_of_false (not_returns_bind hrun) fun h => ?_
      exact Bool.false_ne_true (hret.mp (hp.mpr h.1))

/-- A slow group returns unless it is due and does not arrive. -/
theorem returns_fetch {p : Method LockState} (hf : Fetch w t g s (p.run w.answer s)) :
    Returns w p s ↔ (DueAt t s g → Arrives w s.lockId g) := by
  unfold Returns
  generalize p.run w.answer s = out at hf
  cases hf with
  | idle hn => exact iff_of_true rfl fun hdue => absurd hdue hn
  | failed hdue ha _ => exact iff_of_false Bool.false_ne_true fun h => ha (h hdue)
  | fetched _ ha _ _ => exact iff_of_true rfl fun _ => ha

theorem updateCodes_fetch (t : LocalTime) (d : LockState) (s : LockUpdateCoordinator) :
    Fetch w t .codes s ((updateCodes t d).run w.answer s) := by
  unfold updateCodes
  rw [run_bind, run_get]
  by_cases hdue : s.slowTierDue s.codesLastFetched t = true
  · simp only [hdue, if_true]
    rw [listPasscodes, run_bind, run_call]
    cases hr : w.reply (.listKeyboardPwd s.lockId) with
    | error e =>
      simp only [World.answer, hr]
      refine .failed (dueAt_of_ne hdue (by decide)) ?_ (leaves_move w _ s)
      rintro ⟨⟨passcodes, h⟩, _⟩
      cases hr.symm.trans h
    | ok passcodes =>
      simp only [World.answer, hr]
      rw [listEkeys, run_bind, run_call]
      cases hr' : w.reply (.listKey s.lockId) with
      | error e =>
        simp only [World.answer, hr']
        refine .failed (dueAt_of_ne hdue (by decide)) ?_ ((leaves_move w _ s).trans (leaves_move w _ _))
        rintro ⟨_, ekeys, h⟩
        cases hr'.symm.trans h
      | ok ekeys =>
        simp only [World.answer, hr']
        refine .fetched (dueAt_of_ne hdue (by decide)) ⟨⟨passcodes, hr⟩, ekeys, hr'⟩ ?_ rfl
        exact ((leaves_move w _ s).trans (leaves_move w _ _)).trans (leaves_stamped .codes _ _)
  · simp only [hdue]
    exact .idle fun h => hdue h.1

/-- **The tiers behind the sensor return if the poll goes through.** -/
theorem returns_behindSensor (hb : Begins w c)
    (hs : Leaves (fun _ => False) (behindDetails w c) s) (hd : d.locked = c.data.locked) :
    Returns w (behindSensor c.now d) s ↔ GoesThrough w c := by
  have hdetails := leaves_behindDetails w c
  have hid : s.lockId = c.lockId := hs.lockId.trans hdetails.lockId
  have hlocked : d.locked = (behindDetails w c).data.locked := by rw [hd, hdetails.data]
  have h₁ : Leaves (· = .details) c s := hdetails.trans (hs.mono fun _ h => h.elim)
  have hstate := returns_updateState (w := w) hs hlocked
  have hrest : Returns w (behindSensor c.now d) s ↔
      StateAnswers w (behindDetails w c) ∧ (Due c .passage → Arrives w c.lockId .passage) ∧
        (Due c .gateways → Arrives w c.lockId .gateways) ∧
          (Due c .codes → Arrives w c.lockId .codes) := by
    refine returns_bind_iff hstate fun d₂ s₂ hrun₂ => ?_
    have hspares : Spares w (fun _ => False) (updateState d) := updateState_spares d
    have hl₂ := hspares s
    rw [hrun₂] at hl₂
    have h₂ : Leaves (· = .details) c s₂ := h₁.trans (hl₂.mono fun _ h => h.elim)
    have hp := returns_fetch (updatePassage_fetch (w := w) c.now d₂ s₂)
    have hne : ¬ Group.passage = .details := nofun
    rw [due_of_leaves h₂ hne, h₂.lockId] at hp
    refine returns_bind_iff hp fun d₃ s₃ hrun₃ => ?_
    have hl₃ := updatePassage_spares (w := w) c.now d₂ s₂
    rw [hrun₃] at hl₃
    have h₃ : Leaves (fun g => g = .details ∨ g = .passage) c s₃ :=
      (h₂.mono fun _ => .inl).trans (hl₃.mono fun _ => .inr)
    have hg := returns_fetch (updateGateways_fetch (w := w) c.now d₃ s₃)
    rw [due_of_leaves h₃ (by simp), h₃.lockId] at hg
    refine returns_bind_iff hg fun d₄ s₄ hrun₄ => ?_
    have hl₄ := updateGateways_spares (w := w) c.now d₃ s₃
    rw [hrun₄] at hl₄
    have h₄ : Leaves (fun g => (g = .details ∨ g = .passage) ∨ g = .gateways) c s₄ :=
      (h₃.mono fun _ => .inl).trans (hl₄.mono fun _ => .inr)
    have hc := returns_fetch (updateCodes_fetch (w := w) c.now d₄ s₄)
    rwa [due_of_leaves h₄ (by simp), h₄.lockId] at hc
  rw [hrest]
  constructor
  · rintro ⟨hstate, hp, hg, hc⟩
    refine ⟨hb, hstate, fun g => ?_⟩
    cases g with
    | details => exact hb.details
    | passage => exact hp
    | gateways => exact hg
    | codes => exact hc
  · intro h
    exact ⟨h.state, h.groups .passage, h.groups .gateways, h.groups .codes⟩

end Through

/-! ### A poll -/

/-- A call of `doorSensor/query`. -/
structure Query where
  sent : Instant
  outcome : Outcome
  deriving DecidableEq, Repr

/-- The calls of `doorSensor/query` in a poll. -/
def queries (w : World) (c : LockUpdateCoordinator) : List Query :=
  (queryTimes (asyncRefresh.calls w.answer c)).map fun t => ⟨t, outcome w c.lockId⟩

/-- What gets into the data of what a query has said. -/
structure Learnt (w : World) (c : LockUpdateCoordinator) (saved : Prop) (t : LocalTime)
    (g : Option (Option LocalTime)) : Prop where
  either : g = gate c.data.sensor ∨
    g = gate (some (answered (c.data.sensor.getD {}) (outcome w c.lockId) t))
  taken : outcome w c.lockId ≠ .other → saved → GoesThrough w c →
    g = gate (some (answered (c.data.sensor.getD {}) (outcome w c.lockId) t))

/-- **What a poll does**, when it ends in `c'` with `g` for the gate of its sensor. -/
inductive Polled (w : CalmWorld) (c c' : LockUpdateCoordinator) (g : Option (Option LocalTime)) :
    List Query → Prop where
  | quiet : Kept c c' → g = gate c.data.sensor → Polled w c c' g []
  /-- The lock supports no sensor. -/
  | dropped : Kept c c' → ¬ (featuresOf w.toWorld c).has doorSensorBit = true →
      GoesThrough w.toWorld c → g = none → Polled w c c' g []
  /-- A sensor that is present is asked. -/
  | refreshed {t : LocalTime} : Asks w.toWorld c → sensorPresent c.data.sensor = true →
      (behindDetails w.toWorld c).now.instant ≤ t.instant → t.instant ≤ c'.now.instant → Kept c c' →
      Learnt w.toWorld c True t g →
      Polled w c c' g [⟨(behindDetails w.toWorld c).now.instant, outcome w.toWorld c.lockId⟩]
  /-- A sensor is looked for. -/
  | probed {t : LocalTime} : Asks w.toWorld c → sensorPresent c.data.sensor = false →
      (w.move .storeLoad (behindDetails w.toWorld c)).now.instant ≤ t.instant → t.instant ≤ c'.now.instant →
      Recorded w c c' t → Learnt w.toWorld c (∃ u, w.reply .storeSave = .ok u) t g →
      Polled w c c' g [⟨(w.move .storeLoad (behindDetails w.toWorld c)).now.instant,
        outcome w.toWorld c.lockId⟩]

section Polls
variable {g : Option (Option LocalTime)} {qs : List Query} {r : Except PyError SensorData}
  {times : List Instant}

/-- A sensor that is not there is not present. -/
theorem gate_getD (sensor : Option SensorData) : gate (some (sensor.getD {})) = gate sensor := by
  cases sensor with
  | none => rfl
  | some s => rfl

/-- The gate of the sensor behind a poll: a poll that fails leaves the data as they are. -/
def gateOf (c : LockUpdateCoordinator) : Except PyError LockState → Option (Option LocalTime)
  | .ok d => gate d.sensor
  | .error _ => gate c.data.sensor

/-- The tiers behind the sensor. -/
theorem behindSensor_gateOf (hb : Begins w.toWorld c)
    (hs : Leaves (fun _ => False) (behindDetails w.toWorld c) s) (hd : d.locked = c.data.locked) :
    queryTimes ((behindSensor c.now d).calls w.answer s) = [] ∧
      Steady s ((behindSensor c.now d).run w.answer s).2 ∧
      (GoesThrough w.toWorld c →
        gateOf c ((behindSensor c.now d).run w.answer s).1 = gate d.sensor) ∧
      (¬ GoesThrough w.toWorld c →
        gateOf c ((behindSensor c.now d).run w.answer s).1 = gate c.data.sensor) := by
  have hret := returns_behindSensor hb hs hd
  obtain ⟨hq, hsteady, hcarry⟩ := quiet_behindSensor (w := w) c.now d s
  unfold Returns at hret
  refine ⟨hq, hsteady, fun h => ?_, fun h => ?_⟩
  · have hok := hret.mpr h
    cases hr : ((behindSensor c.now d).run w.answer s).1 with
    | ok d' => exact hcarry d' hr
    | error e =>
      rw [hr] at hok
      cases hok
  · cases hr : ((behindSensor c.now d).run w.answer s).1 with
    | ok d' =>
      rw [hr] at hret
      exact absurd (hret.mp rfl) h
    | error e => rfl

theorem recorded_congr {t : LocalTime} {c₁ c₂ : LockUpdateCoordinator} (h : Recorded w c₁ s t)
    (h₁ : Steady c c₁) (h₂ : Steady s c₂) : Recorded w c c₂ t where
  store := by rw [h₂.store, h.store, h₁.store, h₁.lockId]
  recheck := by
    rw [h₂.recheck, h.recheck, recheckAfter, recheckAfter, h₁.recheck, h₁.store, h₁.lockId]
  lockId := h₂.lockId.trans (h.lockId.trans h₁.lockId)

/-- What has been read gets into the data if the poll goes through. -/
theorem read_learnt {t : LocalTime} {saved : Prop}
    (h : Read w c.lockId (c.data.sensor.getD {}) t saved r)
    (htaken : ∀ a, r = .ok a → GoesThrough w.toWorld c → g = gate (some a))
    (hkept : (¬ GoesThrough w.toWorld c ∨ ¬ ∃ a, r = .ok a) → g = gate c.data.sensor) :
    Learnt w.toWorld c saved t g := by
  have hvalue : ∀ a, r = .ok a → GoesThrough w.toWorld c →
      g = gate (some (answered (c.data.sensor.getD {}) (outcome w.toWorld c.lockId) t)) := by
    intro a ha hg
    rw [htaken a ha hg, h.value a ha]
  constructor
  · by_cases hg : GoesThrough w.toWorld c
    · by_cases hr : ∃ a, r = .ok a
      · obtain ⟨a, ha⟩ := hr
        exact .inr (hvalue a ha hg)
      · exact .inl (hkept (.inr hr))
    · exact .inl (hkept (.inl hg))
  · intro ho hsaved hg
    obtain ⟨a, ha⟩ := h.returns ho hsaved
    exact hvalue a ha hg

/-- The tier of the sensor, and what follows it. -/
theorem sensed_polled (hb : Begins w.toWorld c)
    (hf : (featuresOf w.toWorld c).has doorSensorBit = true)
    (h : Sensed w (c.data.sensor.getD {}) (behindDetails w.toWorld c) s r times)
    (hsteady : Steady s s')
    (htaken : ∀ a, r = .ok a → GoesThrough w.toWorld c → g = gate (some a))
    (hkept : (¬ GoesThrough w.toWorld c ∨ ¬ ∃ a, r = .ok a) → g = gate c.data.sensor) :
    Polled w c s' g (times.map fun t => ⟨t, outcome w.toWorld c.lockId⟩) := by
  have hbehind := steady_behindDetails w c
  have hid : (behindDetails w.toWorld c).lockId = c.lockId := hbehind.lockId
  have hpresent : sensorPresent c.data.sensor = (c.data.sensor.getD {}).present := by
    cases c.data.sensor <;> rfl
  cases h with
  | quiet hvalue hs =>
    refine .quiet ((hbehind.kept.trans hs.kept).trans hsteady.kept) ?_
    by_cases hg : GoesThrough w.toWorld c
    · by_cases hr : ∃ a, r = .ok a
      · obtain ⟨a, ha⟩ := hr
        rw [htaken a ha hg, hvalue a ha, gate_getD]
      · exact hkept (.inr hr)
    · exact hkept (.inl hg)
  | refreshed hp hdue hle hlater hs hread =>
    rw [hid] at hread
    have hasks : Asks w.toWorld c := by
      refine ⟨hb, hf, ?_⟩
      rw [if_pos (hpresent.trans hp)]
      exact hdue
    exact .refreshed hasks (hpresent.trans hp) hle (Int.le_trans hlater hsteady.later)
      ((hbehind.kept.trans hs.kept).trans hsteady.kept) (read_learnt hread htaken hkept)
  | probed hp hload hdue hle hlater hprobed hread =>
    rw [hid] at hread
    have hnot : ¬ sensorPresent c.data.sensor = true := by
      rw [hpresent, hp]
      exact Bool.false_ne_true
    have hasks : Asks w.toWorld c := by
      refine ⟨hb, hf, ?_⟩
      rw [if_neg hnot]
      exact ⟨hload, hdue⟩
    exact .probed hasks (hpresent.trans hp) hle (Int.le_trans hlater hsteady.later)
      (recorded_congr hprobed.toRecorded hbehind hsteady) (read_learnt hread htaken hkept)

/-- The tier of the sensor, to be put into the data. -/
theorem put_polled {p : Method SensorData} (hb : Begins w.toWorld c)
    (hf : (featuresOf w.toWorld c).has doorSensorBit = true) (hd : d.locked = c.data.locked)
    (hspares : Spares w.toWorld (fun _ => False) p)
    (hsensed : Sensed w (c.data.sensor.getD {}) (behindDetails w.toWorld c)
      (p.run w.answer (behindDetails w.toWorld c)).2 (p.run w.answer (behindDetails w.toWorld c)).1
      (queryTimes (p.calls w.answer (behindDetails w.toWorld c)))) :
    let rest : Method LockState :=
      (p >>= fun sensor => pure { d with sensor := some sensor }) >>= behindSensor c.now
    Polled w c (rest.run w.answer (behindDetails w.toWorld c)).2
      (gateOf c (rest.run w.answer (behindDetails w.toWorld c)).1)
      ((queryTimes (rest.calls w.answer (behindDetails w.toWorld c))).map fun t =>
        ⟨t, outcome w.toWorld c.lockId⟩) := by
  intro rest
  have hleaves := hspares (behindDetails w.toWorld c)
  have hrun : rest.run w.answer (behindDetails w.toWorld c) =
      match p.run w.answer (behindDetails w.toWorld c) with
      | (.ok sensor, s) =>
        (behindSensor c.now { d with sensor := some sensor }).run w.answer s
      | (.error e, s) => (.error e, s) := by
    rw [run_bind, run_bind]
    cases p.run w.answer (behindDetails w.toWorld c) with
    | mk r s => cases r <;> rfl
  have hcalls : queryTimes (rest.calls w.answer (behindDetails w.toWorld c)) =
      queryTimes (p.calls w.answer (behindDetails w.toWorld c)) ++
        match p.run w.answer (behindDetails w.toWorld c) with
        | (.ok sensor, s) => queryTimes
            ((behindSensor c.now { d with sensor := some sensor }).calls w.answer s)
        | (.error _, _) => [] := by
    rw [calls_bind, calls_bind, run_bind, queryTimes_append, queryTimes_append]
    cases p.run w.answer (behindDetails w.toWorld c) with
    | mk r s =>
      cases r with
      | ok sensor => exact congrArg (· ++ _) (List.append_nil _)
      | error e => exact List.append_nil _
  rw [hrun, hcalls]
  cases hp : p.run w.answer (behindDetails w.toWorld c) with
  | mk r s =>
    rw [hp] at hleaves hsensed
    cases r with
    | ok sensor =>
      have hd' : { d with sensor := some sensor }.locked = c.data.locked := hd
      obtain ⟨hq, hsteady, hgo, hnot⟩ := behindSensor_gateOf hb hleaves hd'
      dsimp only
      rw [hq, List.append_nil]
      refine sensed_polled hb hf hsensed hsteady (fun a ha hg => ?_) fun h => ?_
      · rw [hgo hg, ← Except.ok.inj ha]
      · exact hnot (h.resolve_right fun hne => hne ⟨sensor, rfl⟩)
    | error e =>
      dsimp only
      rw [List.append_nil]
      exact sensed_polled hb hf hsensed (.refl s) nofun fun _ => rfl

/-- The tier of the sensor and those behind it. -/
theorem updateSensor_polled (hb : Begins w.toWorld c) (hf : d.features = featuresOf w.toWorld c)
    (hs : d.sensor = c.data.sensor) (hd : d.locked = c.data.locked) :
    let rest : Method LockState := updateSensor d >>= behindSensor c.now
    Polled w c (rest.run w.answer (behindDetails w.toWorld c)).2
      (gateOf c (rest.run w.answer (behindDetails w.toWorld c)).1)
      ((queryTimes (rest.calls w.answer (behindDetails w.toWorld c))).map fun t =>
        ⟨t, outcome w.toWorld c.lockId⟩) := by
  have hbehind := steady_behindDetails w c
  unfold updateSensor
  rw [hs]
  by_cases hhas : d.features.has doorSensorBit = true
  · have hsupported : (featuresOf w.toWorld c).has doorSensorBit = true := hf ▸ hhas
    rw [if_pos hhas]
    dsimp only
    by_cases hp : (c.data.sensor.getD {}).present = true
    · rw [if_pos hp]
      exact put_polled hb hsupported hd (updatePresentSensor_spares _)
        (updatePresentSensor_sensed w hp _)
    · rw [if_neg hp]
      exact put_polled hb hsupported hd (checkForSensor_spares _)
        (checkForSensor_sensed w (Bool.eq_false_iff.mpr hp) _)
  · rw [if_neg hhas]
    intro rest
    have hd' : { d with sensor := none }.locked = c.data.locked := hd
    obtain ⟨hq, hsteady, hgo, hnot⟩ := behindSensor_gateOf (w := w) hb (.refl _) hd'
    have hcalls : queryTimes (rest.calls w.answer (behindDetails w.toWorld c)) = [] := hq
    have hkept : Kept c (rest.run w.answer (behindDetails w.toWorld c)).2 :=
      hbehind.kept.trans hsteady.kept
    rw [hcalls]
    by_cases hg : GoesThrough w.toWorld c
    · exact .dropped hkept (hf ▸ hhas) hg (hgo hg)
    · exact .quiet hkept (hnot hg)

/-- **The tiers of a poll.** -/
theorem fetchAll_polled (w : CalmWorld) (hc : c.connectable = true) :
    Polled w c (fetchAll.run w.answer c).2 (gateOf c (fetchAll.run w.answer c).1)
      ((queryTimes (fetchAll.calls w.answer c)).map fun t => ⟨t, outcome w.toWorld c.lockId⟩) := by
  have hdef : fetchAll.run w.answer c = (updateDetails c.now c.data >>= fun d =>
      updateSensor d >>= behindSensor c.now).run w.answer c := rfl
  have hcalls : fetchAll.calls w.answer c = (updateDetails c.now c.data >>= fun d =>
      updateSensor d >>= behindSensor c.now).calls w.answer c := rfl
  obtain ⟨hq, hsteady, -⟩ := quiet_updateDetails (w := w) c.now c.data c
  rw [hdef, hcalls, run_bind, calls_bind, queryTimes_append, hq, List.nil_append]
  rcases updateDetails_cases w.toWorld c with ⟨-, e, s, hrun⟩ | ⟨hd, d, hrun, hf, hs, hl⟩
  · rw [hrun] at hsteady ⊢
    exact .quiet hsteady.kept rfl
  · rw [hrun]
    exact updateSensor_polled ⟨hc, hd⟩ hf hs hl

/-- The private copy apart, a poll leaves the data alone. -/
theorem fetchAll_data (w : World) (c : LockUpdateCoordinator) :
    (fetchAll.run w.answer c).2.data = c.data := by
  have hall {α : Type} {may : Group → Prop} {p : Method α} (h : Spares w may p) :
      Spares w (fun _ => True) p := fun s => (h s).mono fun _ _ => trivial
  have hdetails (t : LocalTime) (d : LockState) : Spares w (fun _ => True) (updateDetails t d) := by
    intro s
    have hf := updateDetails_fetch (w := w) t d s
    generalize (updateDetails t d).run w.answer s = out at hf
    cases hf with
    | idle _ => exact .refl s
    | failed _ _ hl => exact hl.mono fun _ _ => trivial
    | fetched _ _ hl _ => exact hl.mono fun _ _ => trivial
  have hfetch : Spares w (fun _ => True) fetchAll := by
    refine spares_bind spares_get fun c => spares_bind (hdetails _ _) fun d => ?_
    refine spares_bind (updateSensor_spares _) fun d => spares_bind (updateState_spares _) fun d => ?_
    refine spares_bind (hall (updatePassage_spares _ _)) fun d => ?_
    exact spares_bind (hall (updateGateways_spares _ _)) fun d => hall (updateCodes_spares _ _)
  exact (hfetch c).data

theorem polled_congr {s₁ s₂ : LockUpdateCoordinator} (h : Polled w c s₁ g qs)
    (hstore : s₂.store = s₁.store) (hrecheck : s₂.sensorRecheckDone = s₁.sensorRecheckDone)
    (hid : s₂.lockId = s₁.lockId) (hnow : s₂.now = s₁.now) : Polled w c s₂ g qs := by
  have hkept : Kept c s₁ → Kept c s₂ := fun h => ⟨hstore.trans h.store,
    hrecheck.trans h.recheck, hid.trans h.lockId, hnow ▸ h.later⟩
  cases h with
  | quiet hk hg => exact .quiet (hkept hk) hg
  | dropped hk hf hg hn => exact .dropped (hkept hk) hf hg hn
  | refreshed ha hp hle hlater hk hl => exact .refreshed ha hp hle (hnow ▸ hlater) (hkept hk) hl
  | probed ha hp hle hlater hr hl =>
    exact .probed ha hp hle (hnow ▸ hlater)
      ⟨hstore.trans hr.store, hrecheck.trans hr.recheck, hid.trans hr.lockId⟩ hl

/-- How a refresh ends. -/
theorem asyncRefresh_run (hc : c.connectable = true) :
    (asyncRefresh.run w.answer c).2 =
      match fetchAll.run w.answer c with
      | (.ok d, s) => { s with data := d, lastUpdateSuccess := true }
      | (.error e, s) => if e.isException then { s with lastUpdateSuccess := false } else s := by
  unfold asyncRefresh asyncUpdateData
  rw [run_tryCatch, run_bind, run_bind, run_get]
  dsimp only
  rw [if_neg (not_not_intro hc), run_tryCatch]
  cases fetchAll.run w.answer c with
  | mk r s =>
    cases r with
    | ok d => rfl
    | error e =>
      by_cases he : e.isException = true
      · dsimp only
        rw [if_pos he, if_pos he]
        rfl
      · dsimp only
        rw [if_neg he, if_neg he, run_throw]
        dsimp only
        rw [if_neg he]
        rfl

theorem asyncRefresh_calls (w : World) (c : LockUpdateCoordinator) :
    asyncRefresh.calls w.answer c =
      if c.connectable = true then fetchAll.calls w.answer c else [] := by
  have hfailing (e : PyError) (s : LockUpdateCoordinator) :
      (if e.isException then throw .updateFailed else throw e : Method LockState).calls w.answer s =
        [] := by
    split_ifs <;> rfl
  have hupdate : asyncUpdateData.calls w.answer c =
      if c.connectable = true then fetchAll.calls w.answer c else [] := by
    unfold asyncUpdateData
    rw [calls_bind, run_get]
    dsimp only
    by_cases hc : c.connectable = true
    · rw [if_neg (not_not_intro hc), if_pos hc, calls_tryCatch_of_silent _ hfailing]
      rfl
    · rw [if_pos hc, if_neg hc]
      rfl
  unfold asyncRefresh
  rw [calls_tryCatch_of_silent, calls_bind_of_silent _ fun _ _ => rfl, hupdate]
  intro e s
  split_ifs <;> rfl

/-- **A poll.** -/
theorem asyncRefresh_polled (w : CalmWorld) (c : LockUpdateCoordinator) :
    Polled w c (asyncRefresh.run w.answer c).2
      (gate (asyncRefresh.run w.answer c).2.data.sensor) (queries w.toWorld c) := by
  by_cases hc : c.connectable = true
  · have hdata := fetchAll_data w.toWorld c
    have hp := fetchAll_polled w hc
    unfold queries
    rw [asyncRefresh_calls, if_pos hc, asyncRefresh_run hc]
    cases hrun : fetchAll.run w.answer c with
    | mk r s =>
      rw [hrun] at hp hdata
      cases r with
      | ok d => exact polled_congr hp rfl rfl rfl rfl
      | error e =>
        have hg : gateOf c (.error e) = gate s.data.sensor := by
          rw [show s.data = c.data from hdata]
          rfl
        rw [hg] at hp
        dsimp only
        split_ifs
        · exact polled_congr hp rfl rfl rfl rfl
        · exact hp
  · have hrun : asyncRefresh.run w.answer c = (.ok (), { c with lastUpdateSuccess := false }) := by
      unfold asyncRefresh asyncUpdateData
      rw [run_tryCatch, run_bind, run_bind, run_get]
      dsimp only
      rw [if_pos hc]
      rfl
    unfold queries
    rw [hrun, asyncRefresh_calls, if_neg hc]
    exact .quiet ⟨rfl, rfl, rfl, Int.le_refl _⟩ rfl

theorem gate_eq_none_iff (sensor : Option SensorData) :
    gate sensor = none ↔ sensorPresent sensor = false := by
  rw [← isSome_gate, Option.isSome_eq_false_iff, Option.isNone_iff_eq_none]

/-- Where no sensor is found, none is present. -/
theorem gate_of_failure (hp : sensorPresent c.data.sensor = false)
    (ho : ∀ battery, outcome w.toWorld c.lockId ≠ .sensor battery) {saved : Prop}
    {t : LocalTime} (hl : Learnt w.toWorld c saved t g) : g = none := by
  have hnone := (gate_eq_none_iff _).mpr hp
  rcases hl.either with hg | hg
  · rw [hg, hnone]
  · have hnot : (c.data.sensor.getD {}).present = false := by
      cases hs : c.data.sensor with
      | none => rfl
      | some s =>
        rw [hs] at hp
        exact hp
    rw [hg]
    cases hout : outcome w.toWorld c.lockId with
    | sensor battery => exact absurd hout (ho battery)
    | requestFailed => exact if_neg (Bool.eq_false_iff.mp hnot)
    | other => exact if_neg (Bool.eq_false_iff.mp hnot)

end Polls

end TTLockConnect.Coordinator.SensorPolls
