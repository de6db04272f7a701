import TTLockConnect.Async.Budget
import TTLockConnect.Coordinator.Poll

/-! # What a coordinator posts

Two commands of a coordinator go out as a POST, `set_auto_lock` and `set_lock_sound`. Each sends one;
everything else that a coordinator does only reads, the commands to lock and to unlock included, which
the cloud takes as a GET. -/

namespace TTLockConnect.Coordinator.Posting

open TTLockConnect.Text TTLockConnect.Models TTLockConnect.Api TTLockConnect.Coordinator.State
open TTLockConnect.Coordinator.Poll TTLockConnect.Async.Coroutine TTLockConnect.Async.Coroutine.Coro
open TTLockConnect.Async.Budget

/-- The request is a POST. -/
def isPost : Request → Bool
  | .setAutoLockTime _ _ | .updateSetting _ _ => true
  | _ => false

/-- A coroutine that posts nothing. -/
abbrev Reads {α : Type} (p : Method α) : Prop := Spends isPost 0 p

variable {α β : Type} {now : LocalTime} {d : LockState}

theorem reads_request {q : Request} (h : isPost q = false) : Reads (request q) :=
  spends_call (Nat.le_zero.mpr (congrArg Bool.toNat h))

theorem Reads.bind {p : Method α} {f : α → Method β} (hp : Reads p) (hf : ∀ a, Reads (f a)) :
    Reads (p >>= f) := hp.free_bind hf

theorem reads_tryCatch {p : Method α} {f : PyError → Method α} (hp : Reads p)
    (hf : ∀ err, Reads (f err)) : Reads (tryCatch p f) := spends_tryCatch (m := 0) hf p hp

theorem reads_modify (g : LockUpdateCoordinator → LockUpdateCoordinator) :
    Reads (modify g) := fun _ => trivial

/-! ### The slow tiers -/

theorem reads_updateDetails : Reads (updateDetails now d) := by
  refine spends_get_bind fun c => spends_ite ?_ trivial
  refine Reads.bind (reads_request rfl) fun details => ?_
  refine Reads.bind (spends_fromExcept _) fun features => Reads.bind (reads_modify _) fun _ => ?_
  exact trivial

theorem reads_updatePassage : Reads (updatePassage now d) := by
  refine spends_get_bind fun c => spends_ite ?_ trivial
  refine Reads.bind (reads_request rfl) fun config => Reads.bind (reads_modify _) fun _ => ?_
  exact trivial

theorem reads_updateGateways : Reads (updateGateways now d) := by
  refine spends_get_bind fun c => spends_ite (spends_ite ?_ trivial) trivial
  have hgateways : Reads (getGatewaysForLock c.lockId) :=
    Reads.bind (reads_request rfl) fun _ => trivial
  refine hgateways.bind fun gateways => Reads.bind (reads_modify _) fun _ => ?_
  exact trivial

theorem reads_updateCodes : Reads (updateCodes now d) := by
  refine spends_get_bind fun c => spends_ite ?_ trivial
  refine Reads.bind (reads_request rfl) fun passcodes => Reads.bind (reads_request rfl) fun ekeys => ?_
  exact Reads.bind (reads_modify _) fun _ => trivial

/-! ### The door sensor -/

theorem reads_storeGet : Reads storeGet :=
  Reads.bind (reads_request rfl) fun _ _ => trivial

theorem reads_storeUpdate (update : StoreRecord → StoreRecord) : Reads (storeUpdate update) :=
  Reads.bind (reads_request rfl) fun _ => Reads.bind (reads_modify _) fun _ => reads_request rfl

theorem reads_refreshSensor (sensor : SensorData) : Reads (refreshSensor sensor) := by
  refine spends_get_bind fun c => ?_
  have hsensor : Reads (getSensor c.lockId) := by
    refine reads_tryCatch ?_ fun err => spends_ite trivial trivial
    exact Reads.bind (reads_request rfl) fun _ => trivial
  exact hsensor.bind fun result _ => trivial

theorem reads_updatePresentSensor (sensor : SensorData) : Reads (updatePresentSensor sensor) := by
  refine spends_get_bind fun c => spends_ite trivial ?_
  refine (reads_refreshSensor sensor).bind fun ⟨result, sensor⟩ => ?_
  cases result <;> exact trivial

theorem reads_probeSensor (stored : StoreRecord) (sensor : SensorData) :
    Reads (probeSensor stored sensor) := by
  refine (reads_refreshSensor sensor).bind fun ⟨result, sensor⟩ => ?_
  cases result with
  | some result => exact (reads_storeUpdate _).bind fun _ => trivial
  | none =>
    refine spends_ite trivial ?_
    dsimp only
    split_ifs
    · refine Reads.bind (reads_modify _) fun _ => spends_get_bind fun c => ?_
      exact (reads_storeUpdate _).bind fun _ => trivial
    · exact spends_get_bind fun c => (reads_storeUpdate _).bind fun _ => trivial

theorem reads_checkForSensor (sensor : SensorData) : Reads (checkForSensor sensor) := by
  refine reads_storeGet.bind fun stored => ?_
  refine spends_ite (spends_get_bind fun c => spends_ite trivial ?_)
    (spends_get_bind fun c => spends_ite trivial (reads_probeSensor stored sensor))
  exact Reads.bind (reads_modify _) fun _ => reads_probeSensor stored sensor

theorem reads_updateSensor : Reads (updateSensor d) := by
  refine spends_ite (spends_ite ?_ ?_) trivial
  · exact (reads_updatePresentSensor _).bind fun _ => trivial
  · exact (reads_checkForSensor _).bind fun _ => trivial

/-! ### The state of the lock -/

theorem reads_asyncReadStateBle : Reads asyncReadStateBle := by
  refine spends_get_bind fun c => spends_ite trivial ?_
  cases c.bleCredentials with
  | none => exact trivial
  | some credentials =>
    obtain ⟨version, aesKey⟩ := credentials
    refine reads_tryCatch ?_ fun err => spends_ite trivial trivial
    have hstatus : Reads (asyncReadStatus c.data.mac c.data.name version aesKey) :=
      Reads.bind (reads_request rfl) fun _ => trivial
    exact hstatus.bind fun _ => trivial

theorem reads_updateCloudState : Reads (updateCloudState d) := by
  refine spends_get_bind fun c => ?_
  refine reads_tryCatch ?_ fun err => spends_ite trivial (spends_ite trivial trivial)
  have hstate : Reads (getLockState c.lockId) :=
    Reads.bind (reads_request rfl) fun _ => spends_fromExcept _
  exact hstate.bind fun _ => trivial

theorem reads_updateState : Reads (updateState d) := by
  refine reads_asyncReadStateBle.bind fun status => ?_
  split
  · exact trivial
  · exact spends_get_bind fun c => spends_ite trivial reads_updateCloudState

/-! ### The jobs -/

theorem reads_asyncRefresh : Reads asyncRefresh := by
  have hfetch : Reads fetchAll := by
    refine spends_get_bind fun c => reads_updateDetails.bind fun _ => ?_
    refine reads_updateSensor.bind fun _ => reads_updateState.bind fun _ => ?_
    exact reads_updatePassage.bind fun _ => reads_updateGateways.bind fun _ => reads_updateCodes
  have hdata : Reads asyncUpdateData := by
    refine spends_get_bind fun c => spends_ite trivial ?_
    exact reads_tryCatch hfetch fun err => spends_ite trivial trivial
  refine reads_tryCatch ?_ fun err => spends_ite (reads_modify _) trivial
  exact hdata.bind fun _ => reads_modify _

theorem reads_asyncRefreshCodes : Reads asyncRefreshCodes := by
  refine spends_get_bind fun c => Reads.bind (reads_request rfl) fun passcodes => ?_
  refine Reads.bind (reads_request rfl) fun ekeys => spends_get_bind fun c' => ?_
  exact reads_modify _

theorem reads_lockAction {body : Method Unit} (h : Reads body) : Reads (lockAction body) := by
  have hlower : Reads (modify fun c => { c with data := { c.data with actionPending := false } }) :=
    reads_modify _
  refine Reads.bind (reads_modify _) fun _ => Reads.bind ?_ fun _ => hlower
  refine reads_tryCatch h fun err => ?_
  exact hlower.bind fun _ => trivial

/-- What a job may post: one of two commands once, all else nothing. -/
def budget : Job → ℕ
  | .setAutoLock _ | .setLockSound _ => 1
  | _ => 0

/-- A command whose reply is taken over or not. -/
theorem spends_command {q : Request} {n : ℕ} {accepted : Reply q → Bool}
    {g : LockUpdateCoordinator → LockUpdateCoordinator} (h : (isPost q).toNat ≤ n) :
    Spends isPost n ((request q >>= fun res => pure (accepted res)) >>= fun res =>
      if res then modify g else pure () : Method Unit) := by
  have hcommand : Spends isPost n (request q >>= fun res => pure (accepted res) : Method Bool) :=
    Spends.bind (m := 0) (spends_call h) fun _ => trivial
  exact Spends.bind (m := 0) hcommand fun res => spends_ite (reads_modify g) trivial

/-- **What a job posts.** -/
theorem spends_prog (w : Job) : Spends isPost (budget w) (prog w) := by
  cases w with
  | refresh => exact reads_asyncRefresh
  | refreshCodes => exact reads_asyncRefreshCodes
  | autoLocked seconds offset =>
    change Reads (autoLocked seconds offset)
    unfold autoLocked
    split_ifs
    · exact Reads.bind (reads_request rfl) fun _ => reads_modify _
    · exact reads_modify _
  | lock => exact reads_lockAction (spends_get_bind fun c => spends_command (Nat.le_refl 0))
  | unlock => exact reads_lockAction (spends_get_bind fun c => spends_command (Nat.le_refl 0))
  | setAutoLock on => exact spends_get_bind fun c => spends_command (Nat.le_refl 1)
  | setLockSound on => exact spends_get_bind fun c => spends_command (Nat.le_refl 1)
  | webhook | clock | presence | webhookStatus => exact reads_modify _

end TTLockConnect.Coordinator.Posting
