import TTLockConnect.Async.Requests
import TTLockConnect.Diagnostics.Replies
import TTLockConnect.Services.Settings
import Mathlib.Data.Prod.Lex
import Mathlib.Tactic.IntervalCases

/-! # From a call for the passage mode to the passage mode

What `configure_passage_mode` is asked for goes to the cloud as the parameters of a request, comes
back in a later reply, and decides at each moment whether passage mode is active and the auto-lock
suspended. On the way nothing changes but that seconds are dropped: the lock is in passage mode on the
days and between the times of the call, and what a cloud reports back that keeps the parameters under
their names is what is already shown. That the cloud does so is an assumption, `Echoes`; its
documentation under `docs` describes a report of another shape. -/

namespace TTLockConnect.Services.PassageMode

open TTLockConnect.Text TTLockConnect.Models TTLockConnect.Coordinator.State
open TTLockConnect.Cloud.Client TTLockConnect.Webhook.Records TTLockConnect.Diagnostics.Replies
open TTLockConnect.Services.Cleanup (Hass)
open TTLockConnect.Services.Commands TTLockConnect.Services.Settings
open TTLockConnect.Async.Coroutine TTLockConnect.Async.Coroutine.Coro TTLockConnect.Async.Mutex
open TTLockConnect.Async.Runs TTLockConnect.Async.EventLoop TTLockConnect.Async.Requests
open TTLockConnect.Async.Replay (exchanges)

/-! ### What is asked for -/

/-- The day of the week at `t`. -/
def weekdayAt (t : LocalTime) : Option Weekday := WEEKDAYS[(t.isoweekday - 1).toNat]?

/-- The hour and the minute at `t`. -/
def clockAt (t : LocalTime) : ℤ ×ₗ ℤ := toLex (t.minuteOfDay / 60, t.minuteOfDay % 60)

/-- The hour and the minute of a time of day. -/
def clock (t : Time) : ℤ ×ₗ ℤ := toLex (t.hour, t.minute)

/-- **The call asks for passage mode at `t`**: it enables it, the day is one of those it names, and the
clock has reached the start and not yet the end, or all day is meant. -/
def Requested (data : PassageModeCall) (t : LocalTime) : Prop :=
  data.enabled = some true ∧ (∃ day ∈ data.weekDays.getD WEEKDAYS, weekdayAt t = some day) ∧
    (data.allDay = some true ∨ clock (data.startTime.getD .midnight) ≤ clockAt t ∧
      clockAt t < clock (data.endTime.getD .midnight))

theorem onOff_toBool (flag : Option Bool) : (onOff flag).toBool = true ↔ flag = some true := by
  rcases flag with _ | _ | _ <;> decide

/-- Days are numbered from Monday. -/
theorem weekdayAt_eq_some_iff (t : LocalTime) (day : Weekday) :
    weekdayAt t = some day ↔ (WEEKDAYS.idxOf day : ℤ) + 1 = t.isoweekday := by
  have hrange : 1 ≤ t.isoweekday ∧ t.isoweekday ≤ 7 := by
    simp only [LocalTime.isoweekday]
    omega
  obtain ⟨k, hk⟩ : ∃ k : ℕ, t.isoweekday = k + 1 := ⟨(t.isoweekday - 1).toNat, by omega⟩
  have hlt : k < 7 := by omega
  rw [weekdayAt, hk, add_sub_cancel_right, Int.toNat_natCast, add_left_inj, Int.natCast_inj]
  interval_cases k <;> cases day <;> decide

theorem isoweekday_mem_days {data : PassageModeCall} {t : LocalTime} :
    t.isoweekday ∈ data.days ↔ ∃ day ∈ data.weekDays.getD WEEKDAYS, weekdayAt t = some day := by
  simp only [PassageModeCall.days, List.mem_map, weekdayAt_eq_some_iff]

/-- Clocks are compared as minutes of the day are. -/
theorem clock_le_clockAt {a : Time} {t : LocalTime} :
    clock a ≤ clockAt t ↔ a.minuteOfDay ≤ t.minuteOfDay := by
  have ha := a.minute_lt
  rw [clock, clockAt, Prod.Lex.toLex_le_toLex, Time.minuteOfDay]
  omega

theorem clockAt_lt_clock {a : Time} {t : LocalTime} :
    clockAt t < clock a ↔ t.minuteOfDay < a.minuteOfDay := by
  rw [← not_le, clock_le_clockAt, not_le]

/-- **Passage mode is active exactly when it was asked for.** -/
theorem passageModeActive_iff {data : PassageModeCall} {d : LockState}
    (hd : d.passageModeConfig = some data.config) (t : LocalTime) :
    d.passageModeActive t = true ↔ Requested data t := by
  rw [LockState.passageModeActive, hd, Requested, clock_le_clockAt, clockAt_lt_clock,
    ← isoweekday_mem_days, ← onOff_toBool data.enabled, ← onOff_toBool data.allDay]
  dsimp only
  split_ifs with h
  · obtain ⟨henabled, hday⟩ : (onOff data.enabled).toBool = true ∧ t.isoweekday ∈ data.days := h
    rw [Bool.or_eq_true, Bool.and_eq_true, decide_eq_true_eq, decide_eq_true_eq]
    exact (and_iff_right henabled).trans (and_iff_right hday) |>.symm
  · refine iff_of_false (by simp) ?_
    rintro ⟨henabled, hday, -⟩
    exact h ⟨henabled, hday⟩

/-- Auto-lock is suspended exactly then. -/
theorem autoLockDelay_eq_none_iff {data : PassageModeCall} {d : LockState}
    (hd : d.passageModeConfig = some data.config) (t : LocalTime) :
    d.autoLockDelay t = none ↔ Requested data t ∨ ∀ seconds ∈ d.autoLockSeconds, seconds ≤ 0 := by
  rw [← passageModeActive_iff hd t, LockState.autoLockDelay]
  cases d.autoLockSeconds with
  | none => simp
  | some seconds =>
    dsimp only
    split_ifs with hoff hactive <;> simp_all

/-! ### To the cloud and back -/

/-- A parameter as the cloud gives it back. -/
def reportedValue : Value → JsonValue
  | .int n => .int n
  | .str s => .str s
  | .none => .null
  | .dumped ns => .list (ns.map .int)

/-- **What is assumed of the cloud**: its report of a setting has each parameter that was sent, under the
same name. -/
def Echoes (report : Kwargs → JsonValue) : Prop :=
  ∀ kwargs, ∃ fields, report kwargs = .dict fields ∧
    ∀ key value, kwargs.lookup key = some value → fields.lookup key = some (reportedValue value)

/-- The report of a cloud that keeps what it is sent, and adds nothing. -/
def reported (kwargs : Kwargs) : JsonValue := .dict (kwargs.map fun e => (e.1, reportedValue e.2))

theorem reported_echoes : Echoes reported := by
  refine fun kwargs => ⟨_, rfl, fun key value h => ?_⟩
  induction kwargs with
  | nil => cases h
  | cons e kwargs ih =>
    rw [List.map_cons, List.lookup_cons]
    rw [List.lookup_cons] at h
    cases hkey : key == e.1 with
    | true =>
      rw [hkey] at h
      rw [Option.some.inj h]
    | false =>
      rw [hkey] at h
      exact ih h

theorem defaulted_of_lookup {α : Type} {fields : List (String × JsonValue)} {key : String}
    {value : JsonValue} (h : fields.lookup key = some value) (default : α)
    (read : JsonValue → Option α) : defaulted fields key default read = read value := by
  rw [defaulted, h]

section Report
variable {lib : Library} (hint : ∀ n, lib.asInt (.int n) = some n)
include hint

theorem asIntList_reported (ns : List ℤ) : asIntList lib (reportedValue (.dumped ns)) = some ns := by
  rw [reportedValue, asIntList]
  induction ns with
  | nil => rfl
  | cons n ns ih => simp [List.mapM_cons, hint, ih]

theorem asInt_orZero (n : ℤ) : lib.asInt (orZero lib (.int n)) = some n := by
  rw [orZero]
  split_ifs with h
  · exact hint n
  · have hzero : n = 0 := by simpa [truthy, equalInt] using h
    rw [hint, hzero]

/-- The parameters of `set_passage_mode`. -/
def passageKwargs (lockId : ℤ) (config : PassageModeConfig) : Kwargs :=
  [("lockId", .int lockId), ("type", .int 2),
    ("passageMode", .int (if config.enabled.toBool then 1 else 2)),
    ("autoUnlock", .int (if config.autoUnlock.toBool then 1 else 2)),
    ("isAllDay", .int (if config.allDay.toBool then 1 else 2)),
    ("startDate", .int config.startMinute), ("endDate", .int config.endMinute),
    ("weekDays", .dumped config.weekDays)]

/-- What is reported back is read as what was asked for. -/
theorem modelValidate_report {report : Kwargs → JsonValue} (hecho : Echoes report) (lockId : ℤ)
    (data : PassageModeCall) :
    PassageModeConfig.modelValidate lib (report (passageKwargs lockId data.config)) =
      .ok data.config := by
  obtain ⟨fields, hreport, hfields⟩ := hecho (passageKwargs lockId data.config)
  have hon : ∀ flag : Option Bool,
      OnOff.of lib (.int (if (onOff flag).toBool then 1 else 2)) = some (onOff flag) := by
    rintro (_ | _ | _) <;> rfl
  have henabled : defaulted fields "passageMode" .unknown (OnOff.of lib) = some data.config.enabled :=
    (defaulted_of_lookup (hfields "passageMode" _ rfl) _ _).trans (hon data.enabled)
  have hunlock : defaulted fields "autoUnlock" .unknown (OnOff.of lib) =
      some data.config.autoUnlock :=
    (defaulted_of_lookup (hfields "autoUnlock" _ rfl) _ _).trans (hon data.autoUnlock)
  have hall : defaulted fields "isAllDay" .unknown (OnOff.of lib) = some data.config.allDay :=
    (defaulted_of_lookup (hfields "isAllDay" _ rfl) _ _).trans (hon data.allDay)
  have hstart : defaulted fields "startDate" 0 (fun v => lib.asInt (orZero lib v)) =
      some data.config.startMinute :=
    (defaulted_of_lookup (hfields "startDate" _ rfl) _ _).trans (asInt_orZero hint _)
  have hend : defaulted fields "endDate" 0 (fun v => lib.asInt (orZero lib v)) =
      some data.config.endMinute :=
    (defaulted_of_lookup (hfields "endDate" _ rfl) _ _).trans (asInt_orZero hint _)
  have hdays : defaulted fields "weekDays" [] (asIntList lib) = some data.config.weekDays :=
    (defaulted_of_lookup (hfields "weekDays" _ rfl) _ _).trans (asIntList_reported hint _)
  rw [hreport, PassageModeConfig.modelValidate, henabled, hunlock, hall, hstart, hend, hdays]
  rfl

end Report

/-- A request, once sent, is this one. -/
def IsSend (verb : Verb) (path : String) (kwargs : Kwargs) (q : Demand HttpRequest) : Prop :=
  ∀ verb' path' kwargs', q = .ask (.send verb' path' kwargs') →
    verb' = verb ∧ path' = path ∧ kwargs' = kwargs

section Wire
variable {client : ℕ} {verb : Verb} {path : String} {kwargs : Kwargs} {s : Guarded Unit} {α : Type}

/-- A part of a method that sends nothing but this request. -/
abbrev SendsOnly (verb : Verb) (path : String) (kwargs : Kwargs) (p : Cloud.Client.Method α)
    (s : Guarded Unit) : Prop :=
  Sends (fun _ => True) (fun _ => IsSend verb path kwargs) (fun _ _ => True) p s

theorem ask_sendsOnly {q : HttpRequest} {f : HttpReply q → Cloud.Client.Method α}
    (hq : IsSend verb path kwargs (.ask q)) (hf : ∀ a s, SendsOnly verb path kwargs (f a) s) :
    SendsOnly verb path kwargs (ask q >>= f) s :=
  sends_call_bind hq trivial (fun _ _ _ => trivial) fun a s _ => hf a s

theorem ask_last_sendsOnly {q : HttpRequest} (hq : IsSend verb path kwargs (.ask q)) :
    SendsOnly verb path kwargs (ask q : Cloud.Client.Method (HttpReply q)) s := by
  refine ⟨hq, trivial, fun r s _ => ?_⟩
  cases r <;> trivial

theorem parseResp_sendsOnly (status : ℕ) :
    SendsOnly verb path kwargs (parseResp path status) s := by
  refine sends_ite (fun _ => ?_) fun _ => ?_
  · exact ask_sendsOnly nofun fun _ _ => trivial
  · refine ask_sendsOnly nofun fun _ _ => ask_sendsOnly nofun fun res s => ?_
    refine sends_ite (fun _ => trivial) fun _ => ?_
    exact ask_last_sendsOnly nofun

theorem send_sendsOnly : SendsOnly verb path kwargs (send client verb path kwargs) s := by
  refine Sends.bind (Q := fun _ _ => True) ?_ (fun s _ _ => ?_) fun _ _ _ => trivial
  · refine ask_sendsOnly nofun fun validToken s => sends_ite (fun _ => trivial) fun _ => ?_
    exact ask_last_sendsOnly nofun
  · refine ask_sendsOnly ?_ fun status s => parseResp_sendsOnly status
    rintro verb' path' kwargs' heq
    cases heq
    exact ⟨rfl, rfl, rfl⟩

/-- A command through a gateway sends only its own request, whatever it is replied. -/
theorem relay_sendsOnly : SendsOnly verb path kwargs (relay client verb path kwargs) s := by
  refine Sends.bind (Q := fun _ _ => True) ?_ (fun s res _ => ?_) fun _ _ _ => trivial
  · refine sends_call_bind nofun trivial (fun _ _ _ => trivial) fun _ s _ => ?_
    refine Sends.bind (Q := fun _ _ => True) ?_ (fun s a _ => trivial) fun _ _ _ => trivial
    refine sends_tryCatch (Q := fun _ _ => True) (fun _ _ _ => trivial) ?_ _ send_sendsOnly
    exact fun s e _ => trivial
  · unfold accepted
    split_ifs
    · split <;> trivial
    · trivial

end Wire

/-! ### From the call to the lock -/

/-- **What was asked for is what is shown, in force, and reported back.** In every interleaving of
calls of services, switches, events and commands, none of which puts back an earlier copy of the data,
let a call for the passage mode be the last that was accepted for a lock. Then passage mode is active
on it exactly when the call asks for it, and only then, or without a delay, is the auto-lock
suspended; the requests that carry the call to the cloud, whatever they are replied, are such that the
report of a cloud that echoes them is read as what is shown. -/
theorem requested_in_force {n : ℕ} {s₀ : Hass n} {P : Office n}
    {τ : List (Move (Office n) (OfficeLabel n))} (hr : Run officeStep ⟨s₀, []⟩ τ P)
    (hplace : ∀ w ∈ starts τ, w.InPlace) {i : Fin n} {data : PassageModeCall}
    (hlast : ((exchanges τ).filterMap (setsPassageMode i)).getLast? = some data.config)
    {lib : Library} (hint : ∀ n, lib.asInt (.int n) = some n) {report : Kwargs → JsonValue}
    (hecho : Echoes report) :
    (∀ t, (P.shared.coordinators i).data.passageModeActive t = true ↔ Requested data t) ∧
    (∀ t, (P.shared.coordinators i).data.autoLockDelay t = none ↔
      Requested data t ∨
        ∀ seconds ∈ (P.shared.coordinators i).data.autoLockSeconds, seconds ≤ 0) ∧
    ∀ client lockId ans s, ∀ x ∈ (Cloud.Client.setPassageMode client lockId data.config).calls ans s,
      ∀ verb path kwargs, x.1 = .ask (.send verb path kwargs) →
        path = "lock/configPassageMode" ∧ kwargs.lookup "lockId" = some (.int lockId) ∧
          (validate lib (.passageModeConfig lockId) (report kwargs)).map some =
            .ok (P.shared.coordinators i).data.passageModeConfig := by
  have hshown : (P.shared.coordinators i).data.passageModeConfig = some data.config := by
    have hlatest := congrArg LockSettings.passageModeConfig (settings_latest hr hplace i)
    rw [latest, hlast] at hlatest
    exact hlatest
  refine ⟨passageModeActive_iff hshown, autoLockDelay_eq_none_iff hshown, ?_⟩
  intro client lockId ans s x hx verb path kwargs hsend
  have hwire : SendsOnly .post "lock/configPassageMode" (passageKwargs lockId data.config)
      (Cloud.Client.setPassageMode client lockId data.config) s := relay_sendsOnly
  obtain ⟨-, rfl, rfl⟩ := sends_calls _ hwire x hx verb path kwargs hsend
  refine ⟨rfl, rfl, ?_⟩
  rw [hshown, validate, modelValidate_report hint hecho]
  rfl

theorem requested_in_force_twoCalls :
    (∀ t, ((play officeStep ⟨twoLocks, []⟩ twoCalls).2.shared.coordinators 0).data.passageModeActive
        t = true ↔ Requested (allDayOn [.mon]) t) ∧
      ((play officeStep ⟨twoLocks, []⟩ twoCalls).2.shared.coordinators 0).data.passageModeActive
        ⟨4 * 86400000000, 0⟩ = true ∧
      ((play officeStep ⟨twoLocks, []⟩ twoCalls).2.shared.coordinators 0).data.passageModeActive
        ⟨5 * 86400000000, 0⟩ = false := by
  have hr : Run officeStep ⟨twoLocks, []⟩ (play officeStep ⟨twoLocks, []⟩ twoCalls).1
      (play officeStep ⟨twoLocks, []⟩ twoCalls).2 := run_play _ _
  have hint : ∀ n, sampleLibrary.asInt (.int n) = some n := fun _ => rfl
  exact ⟨(requested_in_force hr (by decide) (by decide) hint reported_echoes).1, by decide, by decide⟩

end TTLockConnect.Services.PassageMode
