import TTLockConnect.Cloud.Client
import TTLockConnect.Services.Cleanup

/-! # Clean-ups and refused deletions

`handle_cleanup_passcodes` looks at the boolean that `delete_passcode` returns, but a refused deletion
already raises in `_parse_resp`. So a clean-up does what it has to exactly if no deletion is refused. -/

namespace TTLockConnect.Services.Refusals

open TTLockConnect.Text TTLockConnect.Models TTLockConnect.Services.Cleanup
open TTLockConnect.Async.Coroutine TTLockConnect.Async.Coroutine.Coro TTLockConnect.Async.Mutex
open TTLockConnect.Cloud.Client (HttpRequest HttpReply)

variable {n : ℕ}

/-! ### The method of the API client -/

/-- A cloud that has one body for every request. -/
def http (body : DeleteBody) : (q : Demand HttpRequest) → Guarded Unit →
    Except PyError (Grant HttpReply q) × Guarded Unit
  | .acquire, s => (.ok (), { s with locked := true })
  | .ask (.validToken _), s => (.ok true, s)
  | .ask (.ensureTokenValid _), s => (.ok (), s)
  | .ask (.send _ _ _), s => (.ok 200, s)
  | .ask (.text _), s => (.ok "", s)
  | .ask (.json _), s => (.ok ⟨body.errcode, body.errmsg, none, .ok ()⟩, s)

/-- `delete_passcode` makes of a body what the client's method makes of it, and gives `GW_LOCK`
back. -/
theorem run_client_deletePasscode (body : DeleteBody) (client : ℕ) (lockId passcodeId : ℤ) :
    (Cloud.Client.deletePasscode client lockId passcodeId).run (http body) ⟨false, ()⟩ =
      (parseResp body >>= accepted, ⟨false, ()⟩) := by
  have hsend : ∀ kwargs, (Cloud.Client.send client .post "keyboardPwd/delete" kwargs).run
      (http body) ⟨true, ()⟩ = ((parseResp body).map fun res =>
        ⟨res.errcode, res.errmsg, none, .ok ()⟩, ⟨true, ()⟩) := by
    intro kwargs
    by_cases h : body.errcode.getD 0 = 0 <;>
      simp [Cloud.Client.send, Cloud.Client.asyncGetAccessToken, Cloud.Client.parseResp, ask,
        run_bind, http, parseResp, Except.map, h]
  by_cases h : body.errcode.getD 0 = 0
  · have hparse : parseResp body = .ok body := if_neg (not_not.mpr h)
    have haccepted : (parseResp body >>= accepted) = .ok true := by
      rw [hparse]
      exact if_neg (not_not.mpr h)
    rw [haccepted]
    simp [Cloud.Client.deletePasscode, Cloud.Client.relay, withLock, release, run_bind,
      run_tryCatch, http, hsend, hparse, Except.map, Cloud.Client.accepted, h]
  · have hparse : parseResp body = .error .requestFailed := if_pos h
    have haccepted : (parseResp body >>= accepted) = .error .requestFailed := by
      rw [hparse]
      rfl
    rw [haccepted]
    simp [Cloud.Client.deletePasscode, Cloud.Client.relay, withLock, release, run_bind,
      run_tryCatch, http, hsend, hparse, Except.map]

/-! ### What a clean-up has to do -/

/-- **A clean-up survives refusals**: each deletion that is due is requested once, the lists of a lock
on which one was accepted are requested again, and the names of exactly those are reported. -/
structure CleansUp (w : Cloud) (s : Hass n) (entityIds : List EntityId) : Prop where
  requests : ((handleCleanupPasscodes entityIds).calls w.answer s).map Prod.fst =
    w.allRequests s (s.getCoordinators entityIds)
  reply : ((handleCleanupPasscodes entityIds).run w.answer s).1 =
    .ok (w.reports s (s.getCoordinators entityIds))

variable (w : Cloud) (s : Hass n) (entityIds : List EntityId)

/-- **A clean-up does what it has to exactly if no deletion is refused.** -/
theorem cleansUp_iff : CleansUp w s entityIds ↔
    ∀ e ∈ s.getCoordinators entityIds, ∀ code ∈ w.passcodes (s.lockId e.2),
      ∀ id ∈ due s.now code, w.accepts (s.lockId e.2) id = true := by
  rw [← settlesAll_iff]
  have hcalls : (handleCleanupPasscodes entityIds).calls w.answer s =
      ((s.getCoordinators entityIds).foldlM cleanupLock []).calls w.answer s := rfl
  have hrun : ((handleCleanupPasscodes entityIds).run w.answer s).1 =
      if w.settlesAll s (s.getCoordinators entityIds)
        then .ok (w.reports s (s.getCoordinators entityIds)) else .error .requestFailed := by
    have hloop := run_cleanupLocks w s (s.getCoordinators entityIds) []
    rw [List.nil_append] at hloop
    exact hloop
  constructor
  · intro h
    by_contra hrefused
    have hreply := h.reply
    rw [hrun, if_neg hrefused] at hreply
    cases hreply
  · intro hall
    refine ⟨?_, ?_⟩
    · rw [hcalls]
      exact calls_cleanupLocks w s _ [] hall
    · rw [hrun, if_pos hall]

/-! ### A refused deletion -/

/-- A passcode whose period is over. -/
def periodEnded (id : ℤ) (name : String) : Passcode :=
  ⟨some id, none, some name, some 3, none, some ⟨-1, 0⟩⟩

/-- The lock's gateway is offline for the second of three deletions. -/
def offlineOnce : Cloud where
  passcodes _ := [periodEnded 1 "a", periodEnded 2 "b", periodEnded 3 "c"]
  ekeys _ := []
  verdict _ id := if id = 2 then ⟨some (-2012), some "gateway offline"⟩ else ⟨some 0, none⟩

/-- **One refusal ends the clean-up**, and nothing is reported of the passcode deleted before it. -/
theorem offlineOnce_not_cleansUp :
    ¬ ∀ (n : ℕ) (w : Cloud) (s : Hass n) (entityIds : List EntityId), CleansUp w s entityIds := by
  intro hall
  have hreply := (hall 1 offlineOnce (oneLock ⟨0, 0⟩) ["lock.door"]).reply
  have hraised : ((handleCleanupPasscodes ["lock.door"]).run offlineOnce.answer (oneLock ⟨0, 0⟩)).1 =
    .error .requestFailed := by rfl
  rw [hraised] at hreply
  cases hreply

end TTLockConnect.Services.Refusals
