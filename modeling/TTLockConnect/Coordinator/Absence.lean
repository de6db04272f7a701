import TTLockConnect.Coordinator.SensorRuns
import Mathlib.Data.List.Induction

/-! # When a door sensor counts as absent

The record counts the failed probes since the last success. It is written only by probes, and each
failure that counts is stamped, so that the three that make the verdict are more than a day apart;
while the verdict stands, the flag of an instance lets one more probe through. -/

namespace TTLockConnect.Coordinator.Absence

open TTLockConnect.Models TTLockConnect.Coordinator.State TTLockConnect.Coordinator.Overwrite
open TTLockConnect.Coordinator.SensorTier TTLockConnect.Coordinator.SensorPolls
open TTLockConnect.Coordinator.SensorRuns TTLockConnect.Async.Runs

/-! ### Probes -/

/-- The probes in a move: the queries of a poll that finds no sensor present. -/
def probed (m : SensorMove) : List Query :=
  if sensorPresent m.src.data.sensor then [] else asked m

def probes (τ : List SensorMove) : List Query := τ.flatMap probed

/-- A probe is counted with the failures before it, or a success makes the count begin anew. -/
def counting (failed : List Query) (q : Query) : List Query :=
  match q.outcome with
  | .sensor _ => []
  | .requestFailed => failed ++ [q]
  | .other => failed

/-- The failed probes since the last one that found a sensor. -/
def failedSince (qs : List Query) : List Query := qs.foldl counting []

/-- The verdict. -/
abbrev confirmedAbsent (c : LockUpdateCoordinator) : Bool := c.store.doorSensorConfirmedAbsent

/-- A verdict with three failures, or none with at most two. -/
def Consistent (r : StoreRecord) : Prop :=
  r.doorSensorConfirmedAbsent = true ∧ r.doorSensorCountFailedReq = 3 ∨
    r.doorSensorConfirmedAbsent = false ∧ r.doorSensorCountFailedReq ≤ 2

/-- More than a day apart. -/
abbrev DayApart (p q : Query) : Prop := p.sent + Duration.ofDays 1 < q.sent

section Probes
variable {m : SensorMove} {τ τ' : List SensorMove} {qs : List Query} {q : Query}

theorem probes_append (τ τ' : List SensorMove) : probes (τ ++ τ') = probes τ ++ probes τ' :=
  List.flatMap_append

theorem probes_snoc (τ : List SensorMove) (m : SensorMove) :
    probes (τ ++ [m]) = probes τ ++ probed m := by
  rw [probes_append]
  exact congrArg (probes τ ++ ·) (List.append_nil _)

theorem failedSince_snoc (qs : List Query) (q : Query) :
    failedSince (qs ++ [q]) = counting (failedSince qs) q := List.foldl_concat ..

theorem probed_of_asked (h : asked m = []) : probed m = [] := by
  unfold probed
  rw [h]
  split_ifs <;> rfl

theorem probed_of_present (h : sensorPresent m.src.data.sensor = true) : probed m = [] := if_pos h

theorem probed_of_not_present (h : sensorPresent m.src.data.sensor = false) : probed m = asked m :=
  if_neg (Bool.eq_false_iff.mp h)

/-- **What a move does to the record**: a probe changes it, and nothing else does. -/
inductive Judged (m : SensorMove) : Prop where
  | kept : probed m = [] → m.dst.store = m.src.store →
      (¬ IsRestart m → m.dst.sensorRecheckDone = m.src.sensorRecheckDone) →
      (sensorPresent m.dst.data.sensor = true → sensorPresent m.src.data.sensor = true) → Judged m
  | probed {q : Query} {t : LocalTime} : probed m = [q] → q.sent ≤ t.instant →
      (confirmedAbsent m.src = true → m.src.sensorRecheckDone = false) →
      (confirmedAbsent m.src = false → ∀ last, m.src.store.doorSensorLastFailedReq = some last →
        last.instant + Duration.ofDays 1 < q.sent) →
      m.dst.store = recorded m.src.store q.outcome t →
      m.dst.sensorRecheckDone = recheckAfter m.src q.outcome →
      (sensorPresent m.dst.data.sensor = true → ∃ battery, q.outcome = .sensor battery) → Judged m

/-- The days of the record are whole ones. -/
abbrev ByDay (m : SensorMove) : Prop := ∀ w, m.label = .poll w → ProbesByDay w.toWorld m.src

theorem judged_of_stepped (h : Stepped m) (hday : ByDay m) : Judged m := by
  cases h with
  | steady hq hs =>
    refine .kept (probed_of_asked hq) hs.store (fun _ => hs.recheck) fun hp => ?_
    rwa [← isSome_gate, hs.sensor, isSome_gate] at hp
  | restarted hre hq hstore _ hg =>
    refine .kept (probed_of_asked hq) hstore (fun hn => absurd hre hn) fun hp => ?_
    rw [← isSome_gate, hg] at hp
    cases hp
  | @polled w hl hp =>
    generalize hg : gate m.dst.data.sensor = g at hp
    generalize hqs : asked m = qs at hp
    have hpresent : sensorPresent m.dst.data.sensor = g.isSome := by rw [← hg, isSome_gate]
    cases hp with
    | quiet hk hsame =>
      refine .kept (probed_of_asked hqs) hk.store (fun _ => hk.recheck) fun hp => ?_
      rwa [hpresent, hsame, isSome_gate] at hp
    | dropped hk _ _ hnone =>
      refine .kept (probed_of_asked hqs) hk.store (fun _ => hk.recheck) fun hp => ?_
      rw [hpresent, hnone] at hp
      cases hp
    | refreshed _ hp _ _ hk _ =>
      exact .kept (probed_of_present hp) hk.store (fun _ => hk.recheck) fun _ => hp
    | probed hasks hp hle _ hrec hlearnt =>
      have hdue := hasks.due
      rw [if_neg (Bool.eq_false_iff.mp hp)] at hdue
      have hcases := probeDue_cases hdue.2
      refine .probed ((probed_of_not_present hp).trans hqs) hle (fun habs => ?_)
        (fun habs => ?_) hrec.store hrec.recheck fun hp' => ?_
      · rcases hcases with ⟨-, hflag⟩ | ⟨hnot, -⟩
        · exact hflag
        · cases habs.symm.trans hnot
      · rcases hcases with ⟨hyes, -⟩ | ⟨-, hlast⟩
        · cases habs.symm.trans hyes
        · exact fun last h => dayApart_of_probeDue (hday w hl) hasks hp habs h (hlast last h)
      · by_contra hne
        have hnone := gate_of_failure hp (fun battery hb => hne ⟨battery, hb⟩) hlearnt
        rw [hpresent, hnone] at hp'
        cases hp'

end Probes

/-! ### The count -/

/-- The failures that count: as many as the record says, more than a day apart, and the record has
the stamp of the last. -/
structure Counted (failed : List Query) (r : StoreRecord) : Prop where
  length : failed.length = r.doorSensorCountFailedReq
  apart : failed.Pairwise DayApart
  stamped : ∀ p ∈ failed, ∃ last, r.doorSensorLastFailedReq = some last ∧ p.sent ≤ last.instant

/-- **What the record says of the probes so far.** -/
structure Tracked (qs : List Query) (c : LockUpdateCoordinator) : Prop where
  consistent : Consistent c.store
  present : sensorPresent c.data.sensor = true → confirmedAbsent c = false
  counted : confirmedAbsent c = false → Counted (failedSince qs) c.store

section Count
variable {m : SensorMove} {qs : List Query} {q : Query} {t : LocalTime} {r : StoreRecord}
  {failed : List Query}

/-- A failure is more than a day after those that have been counted. -/
theorem Counted.dayApart (h : Counted failed r) (hgate : ∀ last,
    r.doorSensorLastFailedReq = some last → last.instant + Duration.ofDays 1 < q.sent) :
    ∀ p ∈ failed, DayApart p q := by
  intro p hp
  obtain ⟨last, hlast, hle⟩ := h.stamped p hp
  exact Int.lt_of_le_of_lt (Int.add_le_add_right hle _) (hgate last hlast)

/-- A failure is counted. -/
theorem Counted.snoc (h : Counted failed r) (hle : q.sent ≤ t.instant) (hgate : ∀ last,
    r.doorSensorLastFailedReq = some last → last.instant + Duration.ofDays 1 < q.sent)
    {r' : StoreRecord} (hcount : r'.doorSensorCountFailedReq = r.doorSensorCountFailedReq + 1)
    (hstamp : r'.doorSensorLastFailedReq = some t) : Counted (failed ++ [q]) r' := by
  have hday := h.dayApart hgate
  refine ⟨?_, ?_, fun p hp => ⟨t, hstamp, ?_⟩⟩
  · rw [List.length_append, h.length, hcount]
    rfl
  · refine List.pairwise_append.mpr ⟨h.apart, List.pairwise_singleton _ _, fun p hp x hx => ?_⟩
    rw [List.mem_singleton.mp hx]
    exact hday p hp
  · rcases List.mem_append.mp hp with hp | hp
    · have hpq : p.sent + Duration.ofDays 1 < q.sent := hday p hp
      have hpos : p.sent ≤ p.sent + Duration.ofDays 1 := Int.le_add_of_nonneg_right (by decide)
      exact Int.le_trans hpos (Int.le_trans (Int.le_of_lt hpq) hle)
    · rw [List.mem_singleton.mp hp]
      exact hle

theorem recorded_failed (h : r.doorSensorConfirmedAbsent = false) (t : LocalTime) :
    recorded r .requestFailed t =
      { doorSensorLastFailedReq := some t
        doorSensorCountFailedReq := r.doorSensorCountFailedReq + 1
        doorSensorConfirmedAbsent :=
          decide (SENSOR_ABSENT_AFTER_FAILURES ≤ r.doorSensorCountFailedReq + 1) } :=
  if_neg (Bool.eq_false_iff.mp h)

theorem consistent_recorded (h : Consistent r) (o : Outcome) (t : LocalTime) :
    Consistent (recorded r o t) := by
  cases o with
  | sensor battery => exact .inr ⟨rfl, Nat.zero_le 2⟩
  | other => exact h
  | requestFailed =>
    rcases h with ⟨habs, hcount⟩ | ⟨habs, hcount⟩
    · have hkept : recorded r .requestFailed t = r := if_pos habs
      rw [hkept]
      exact .inl ⟨habs, hcount⟩
    · rw [recorded_failed habs]
      by_cases hthree : SENSOR_ABSENT_AFTER_FAILURES ≤ r.doorSensorCountFailedReq + 1
      · have heq : r.doorSensorCountFailedReq + 1 = 3 := by
          unfold SENSOR_ABSENT_AFTER_FAILURES at hthree
          omega
        exact .inl ⟨decide_eq_true hthree, heq⟩
      · have hle : r.doorSensorCountFailedReq + 1 ≤ 2 := by
          unfold SENSOR_ABSENT_AFTER_FAILURES at hthree
          omega
        exact .inr ⟨decide_eq_false hthree, hle⟩

/-- **A step keeps the count.** -/
theorem tracked_step (h : Tracked qs m.src) (hj : Judged m) :
    Tracked (qs ++ probed m) m.dst := by
  cases hj with
  | kept hq hstore _ hpresent =>
    have habs : confirmedAbsent m.dst = confirmedAbsent m.src :=
      congrArg StoreRecord.doorSensorConfirmedAbsent hstore
    rw [hq, List.append_nil]
    exact ⟨hstore ▸ h.consistent, fun hp => habs.trans (h.present (hpresent hp)),
      fun hn => hstore ▸ h.counted (habs.symm.trans hn)⟩
  | @probed q t hq hle _ hgate hstore _ hpresent =>
    rw [hq]
    refine ⟨hstore ▸ consistent_recorded h.consistent q.outcome t, fun hp => ?_, fun hn => ?_⟩
    · obtain ⟨battery, hb⟩ := hpresent hp
      unfold confirmedAbsent
      rw [hstore, hb]
      rfl
    · unfold confirmedAbsent at hn
      rw [failedSince_snoc, counting]
      cases ho : q.outcome with
      | sensor battery =>
        rw [hstore, ho]
        exact ⟨rfl, .nil, nofun⟩
      | other =>
        rw [hstore, ho] at hn ⊢
        exact h.counted hn
      | requestFailed =>
        rw [hstore, ho] at hn ⊢
        cases habs : confirmedAbsent m.src with
        | true =>
          have hkept : recorded m.src.store .requestFailed t = m.src.store := if_pos habs
          rw [hkept] at hn
          cases habs.symm.trans hn
        | false =>
          have hrec := recorded_failed habs t
          refine (h.counted habs).snoc hle (hgate habs) ?_ ?_
          · rw [hrec]
          · rw [hrec]

end Count

/-! ### The verdict -/

/-- The verdict turns true. -/
def Turns (m : SensorMove) : Prop := confirmedAbsent m.src = false ∧ confirmedAbsent m.dst = true

/-- Within an instance whose lock counts as having no sensor. -/
def UnderVerdict (m : SensorMove) : Prop := ¬ IsRestart m ∧ confirmedAbsent m.src = true

section Verdict
variable {m : SensorMove} {τ : List SensorMove} {qs : List Query} {c₀ c₁ c₂ c : LockUpdateCoordinator}

theorem failed_of_mem_failedSince (qs : List Query) :
    ∀ p ∈ failedSince qs, p.outcome = .requestFailed := by
  induction qs using List.reverseRecOn with
  | nil => nofun
  | append_singleton qs q ih =>
    intro p hp
    rw [failedSince_snoc, counting] at hp
    cases ho : q.outcome with
    | sensor battery =>
      rw [ho] at hp
      cases hp
    | other =>
      rw [ho] at hp
      exact ih p hp
    | requestFailed =>
      rw [ho] at hp
      rcases List.mem_append.mp hp with hp | hp
      · exact ih p hp
      · rw [List.mem_singleton.mp hp, ho]

/-- The move in which the verdict turns true: its probe is the third failure. -/
structure ThirdFailure (qs : List Query) (m : SensorMove) : Prop where
  failures : ∃ p₁ p₂ p₃, failedSince (qs ++ probed m) = [p₁, p₂, p₃] ∧ probed m = [p₃] ∧
    DayApart p₁ p₂ ∧ DayApart p₂ p₃ ∧ ∀ p ∈ [p₁, p₂, p₃], p.outcome = .requestFailed
  flag : m.dst.sensorRecheckDone = true

theorem thirdFailure_of_turns (h : Tracked qs m.src) (hj : Judged m) (ht : Turns m) :
    ThirdFailure qs m := by
  obtain ⟨hsrc, hdst⟩ := ht
  cases hj with
  | kept _ hstore _ _ =>
    unfold confirmedAbsent at hdst
    rw [hstore] at hdst
    cases hsrc.symm.trans hdst
  | @probed q t hq hle _ hgate hstore hflag _ =>
    unfold confirmedAbsent at hdst
    rw [hstore] at hdst
    cases ho : q.outcome with
    | sensor battery =>
      rw [ho] at hdst
      cases hdst
    | other =>
      rw [ho] at hdst
      cases hsrc.symm.trans hdst
    | requestFailed =>
      rw [ho, recorded_failed hsrc] at hdst
      have hthree : SENSOR_ABSENT_AFTER_FAILURES ≤ m.src.store.doorSensorCountFailedReq + 1 :=
        of_decide_eq_true hdst
      have hcounted := h.counted hsrc
      have hall : failedSince (qs ++ probed m) = failedSince qs ++ [q] := by
        rw [hq, failedSince_snoc, counting, ho]
      have hlength : (failedSince qs).length = 2 := by
        have hcount := hcounted.length
        rcases h.consistent with ⟨habs, -⟩ | ⟨-, hle⟩
        · cases hsrc.symm.trans habs
        · unfold SENSOR_ABSENT_AFTER_FAILURES at hthree
          omega
      obtain ⟨p₁, p₂, heq⟩ := List.length_eq_two.mp hlength
      have hday := hcounted.dayApart (hgate hsrc)
      have hapart := hcounted.apart
      rw [heq] at hday hapart hall
      refine ⟨⟨p₁, p₂, q, hall, hq, ?_, hday p₂ (by simp), ?_⟩, ?_⟩
      · exact (List.pairwise_cons.mp hapart).1 p₂ (by simp)
      · intro p hp
        exact failed_of_mem_failedSince (qs ++ probed m) p (hall ▸ hp)
      · rw [hflag, ho, recheckAfter, decide_eq_true ⟨rfl, hthree⟩, Bool.or_true]

/-- Under the verdict, a query takes the flag. -/
theorem asked_le (h : Tracked qs m.src) (hj : Judged m) (hu : UnderVerdict m) :
    (asked m).length + m.src.sensorRecheckDone.toNat ≤ m.dst.sensorRecheckDone.toNat := by
  obtain ⟨hre, habs⟩ := hu
  have hpresent : sensorPresent m.src.data.sensor = false := by
    by_contra hp
    have hnot := h.present (Bool.of_not_eq_false hp)
    cases habs.symm.trans hnot
  rw [← probed_of_not_present hpresent]
  cases hj with
  | kept hq _ hflag _ =>
    rw [hq, hflag hre]
    exact Nat.le_of_eq (Nat.zero_add _)
  | @probed q t hq _ hfree _ _ hflag _ =>
    have htaken : m.dst.sensorRecheckDone = true := by
      rw [hflag, recheckAfter, show m.src.store.doorSensorConfirmedAbsent = true from habs]
      simp
    rw [hq, hfree habs, htaken]
    exact Nat.le_refl 1

/-- The invariant along a run. -/
theorem run_tracked (hstore : c₀.store = {}) (hsensor : c₀.data.sensor = none)
    (hr : Run step c₀ τ c) (hday : ∀ m ∈ τ, ByDay m) : Tracked (probes τ) c := by
  induction hr with
  | nil =>
    rw [probes, List.flatMap_nil]
    refine ⟨?_, fun hp => ?_, fun _ => ?_⟩
    · rw [hstore]
      exact .inr ⟨rfl, Nat.zero_le 2⟩
    · rw [hsensor] at hp
      cases hp
    · rw [hstore]
      exact ⟨rfl, .nil, nofun⟩
  | @snoc τ s s' e _ hs ih =>
    have htracked := ih fun m hm => hday m (List.mem_append_left _ hm)
    have hlast : ByDay ⟨s, e, s'⟩ := hday _ (List.mem_append_right _ (List.mem_singleton_self _))
    rw [probes_snoc]
    exact tracked_step (m := ⟨s, e, s'⟩) htracked (judged_of_stepped (step_cases hs) hlast)

theorem tracked_at (hstore : c₀.store = {}) (hsensor : c₀.data.sensor = none)
    {τ₀ τ₁ : List SensorMove} (hr : Run step c₀ (τ₀ ++ m :: τ₁) c)
    (hday : ∀ m' ∈ τ₀ ++ m :: τ₁, ByDay m') : Tracked (probes τ₀) m.src ∧ Judged m := by
  obtain ⟨hr₀, hs⟩ := hr.up_to
  have htracked := run_tracked hstore hsensor hr₀ fun m hm => hday m (List.mem_append_left _ hm)
  have hm : ByDay m := hday m (List.mem_append_right _ List.mem_cons_self)
  exact ⟨htracked, judged_of_stepped (step_cases hs) hm⟩

/-- What an instance may still ask under the verdict. -/
theorem run_asked_le (hr : Run step c₁ τ c₂) (hτ : ∀ m ∈ τ, UnderVerdict m ∧
    ∃ qs, Tracked qs m.src ∧ Judged m) :
    (τ.flatMap asked).length + c₁.sensorRecheckDone.toNat ≤ c₂.sensorRecheckDone.toNat := by
  induction hr with
  | nil => exact Nat.le_of_eq (Nat.zero_add _)
  | @snoc τ s s' e _ hs ih =>
    have hle := ih fun m hm => hτ m (List.mem_append_left _ hm)
    obtain ⟨hu, qs, ht, hj⟩ := hτ ⟨s, e, s'⟩ (by simp)
    have hstep := asked_le ht hj hu
    rw [List.flatMap_append, List.length_append, List.flatMap_singleton]
    dsimp only at hstep
    omega

end Verdict

/-- **The verdict is sound.** -/
structure VerdictSound (τ : List SensorMove) : Prop where
  consistent : ∀ m ∈ τ, Consistent m.src.store ∧ Consistent m.dst.store
  turns : ∀ τ₀ m τ₁, τ = τ₀ ++ m :: τ₁ → Turns m → ThirdFailure (probes τ₀) m
  /-- An instance asks once more at most. -/
  recheck : ∀ τ₀ τ₁ τ₂, τ = τ₀ ++ τ₁ ++ τ₂ → (∀ m ∈ τ₁, UnderVerdict m) →
    (τ₁.flatMap asked).length ≤ 1
  /-- The instance that reached the verdict does not. -/
  reached : ∀ τ₀ m τ₁ τ₂, τ = (τ₀ ++ [m]) ++ τ₁ ++ τ₂ → Turns m → (∀ m ∈ τ₁, UnderVerdict m) →
    τ₁.flatMap asked = []

/-- **In every run from an empty record** whose probes count whole days. -/
theorem run_verdictSound {c₀ c : LockUpdateCoordinator} {τ : List SensorMove}
    (hstore : c₀.store = {}) (hsensor : c₀.data.sensor = none) (hr : Run step c₀ τ c)
    (hday : ∀ m ∈ τ, ByDay m) : VerdictSound τ := by
  have hat : ∀ m ∈ τ, ∃ qs, Tracked qs m.src ∧ Judged m := by
    intro m hm
    obtain ⟨τ₀, τ₁, rfl⟩ := List.append_of_mem hm
    exact ⟨_, tracked_at hstore hsensor hr hday⟩
  -- a part of the run within one instance, under the verdict
  have hpart {τ₀ τ₁ τ₂ : List SensorMove} (hτ : τ = τ₀ ++ τ₁ ++ τ₂)
      (hu : ∀ m ∈ τ₁, UnderVerdict m) : ∃ c₁ c₂ : LockUpdateCoordinator, Run step c₀ τ₀ c₁ ∧
        (τ₁.flatMap asked).length + c₁.sensorRecheckDone.toNat ≤ c₂.sensorRecheckDone.toNat := by
    rw [hτ] at hr
    obtain ⟨c₂, hr₁, -⟩ := hr.split
    obtain ⟨c₁, hr₀, hr₁⟩ := hr₁.split
    refine ⟨c₁, c₂, hr₀, run_asked_le hr₁ fun m hm => ⟨hu m hm, ?_⟩⟩
    exact hat m (by rw [hτ]; simp [hm])
  constructor
  · intro m hm
    obtain ⟨qs, ht, hj⟩ := hat m hm
    exact ⟨ht.consistent, (tracked_step ht hj).consistent⟩
  · rintro τ₀ m τ₁ rfl hturns
    obtain ⟨ht, hj⟩ := tracked_at hstore hsensor hr hday
    exact thirdFailure_of_turns ht hj hturns
  · intro τ₀ τ₁ τ₂ hτ hu
    obtain ⟨c₁, c₂, -, hle⟩ := hpart hτ hu
    have hone := Bool.toNat_le c₂.sensorRecheckDone
    omega
  · intro τ₀ m τ₁ τ₂ hτ hturns hu
    obtain ⟨c₁, c₂, hr₁, hle⟩ := hpart hτ hu
    obtain ⟨ht, hj⟩ := tracked_at hstore hsensor hr₁ fun m' hm =>
      hday m' (by rw [hτ, List.append_assoc]; exact List.mem_append_left _ hm)
    have hflag := (thirdFailure_of_turns ht hj hturns).flag
    have hone := Bool.toNat_le c₂.sensorRecheckDone
    rw [hr₁.eq_dst, hflag, Bool.toNat_true] at hle
    exact List.length_eq_zero_iff.mp (by omega)

/-! ### Sample runs -/

/-- A new coordinator, at noon of 28 March 2025 in Berlin. -/
def berlin : LockUpdateCoordinator :=
  { sampleCoordinator with now := ⟨Duration.ofSeconds 1743159600, 3600⟩ }

/-- Two failures, 25 hours apart, and 23 hours and a second in which the clocks are put forward. -/
def overSpring : List PollEvent :=
  [pollWith (.error .requestFailed), wait 25, pollWith (.error .requestFailed),
    .meanwhile fun c => { c with
      now := ⟨c.now.instant + Duration.ofSeconds (23 * 3600 + 1), 7200⟩
      offsetDayAgo := 3600 }]

/-- The third failure. -/
def thirdPoll : SensorMove :=
  let s := (play step berlin overSpring).2
  ⟨s, pollWith (.error .requestFailed), (step s (pollWith (.error .requestFailed))).getD s⟩

/-- **A failure counts less than a day after another when local time is put forward.** -/
theorem overSpring_tooSoon : ¬ ∀ (c₀ c : LockUpdateCoordinator) (τ : List SensorMove),
    c₀.store = {} → c₀.data.sensor = none → Run step c₀ τ c → VerdictSound τ := by
  intro h
  have hr : Run step berlin ((play step berlin overSpring).1 ++ [thirdPoll]) thirdPoll.dst :=
    (run_play berlin overSpring).snoc rfl
  have hturns : Turns thirdPoll := by
    unfold Turns
    decide +kernel
  obtain ⟨⟨p₁, p₂, p₃, hfailed, -, -, hday, -⟩, -⟩ :=
    (h berlin _ _ rfl rfl hr).turns _ thirdPoll [] rfl hturns
  have hsent : (failedSince (probes (play step berlin overSpring).1 ++ probed thirdPoll)).map
      Query.sent = [1743159600000000, 1743249600000000, 1743332401000000] := by decide +kernel
  rw [hfailed] at hsent
  simp only [List.map_cons, List.map_nil, List.cons.injEq] at hsent
  obtain ⟨-, h₂, h₃, -⟩ := hsent
  rw [DayApart, h₂, h₃] at hday
  exact absurd hday (by decide)

/-- Three failures, each more than a day after the one before, and a restart with one more. -/
def noSensor : List PollEvent :=
  let failing := pollWith (.error .requestFailed)
  [failing, wait 25, failing, wait 25, failing, failing,
    .restart { sampleCoordinator with now := ⟨Duration.ofHours 51, 0⟩ }, failing, failing]

abbrev noSensorMoves : List SensorMove := (play step sampleCoordinator noSensor).1

/-- Six polls ask four times. -/
theorem run_verdictSound_noSensor :
    (noSensorMoves.length = 9 ∧ (probes noSensorMoves).length = 4) ∧ VerdictSound noSensorMoves := by
  refine ⟨by decide +kernel, run_verdictSound rfl rfl (run_play sampleCoordinator noSensor) ?_⟩
  intro m hm w hl
  have hsrc : ∀ m ∈ noSensorMoves, m.src.now.offset ≤ m.src.offsetDayAgo := by decide +kernel
  have hlabel := label_of_mem_play hm
  rw [hl] at hlabel
  simp only [noSensor, pollWith, wait, List.mem_cons, PollEvent.poll.injEq, reduceCtorEq,
    List.not_mem_nil, or_false, false_or, or_self] at hlabel
  subst hlabel
  exact probesByDay_still rfl (hsrc m hm)

end TTLockConnect.Coordinator.Absence
