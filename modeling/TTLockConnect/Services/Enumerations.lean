import TTLockConnect.Cloud.Paging
import TTLockConnect.Diagnostics.Dump
import TTLockConnect.Services.Cleanup

/-! # Whether enumerations are complete

What is behind the first page of a list does not exist for the integration: not for the services, and
not for the sensors. So everything is seen exactly if every list fits on the page that is asked for. -/

namespace TTLockConnect.Services.Enumerations

open TTLockConnect.Models TTLockConnect.Coordinator.State TTLockConnect.Async.Coroutine.Coro
open TTLockConnect.Cloud.Paging TTLockConnect.Services.Cleanup TTLockConnect.Text
open TTLockConnect.Diagnostics.Dump

variable {L G C F : Type} (srv : Server L G C F)

/-! ### What reads the lists -/

/-- The cloud of a clean-up: pages for lists, and a deletion is accepted. -/
def pagesAccepting : Cleanup.Cloud where
  passcodes := srv.listPasscodes
  ekeys := srv.listEkeys
  verdict _ _ := ⟨some 0, none⟩

/-- What a coordinator is replied when it lists the credentials again. -/
def pages : (q : Api.Request) → LockUpdateCoordinator →
    Except PyError (Api.Reply q) × LockUpdateCoordinator
  | .listKeyboardPwd lockId, c => (.ok (srv.listPasscodes lockId), c)
  | .listKey lockId, c => (.ok (srv.listEkeys lockId), c)
  | _, c => (.error .requestFailed, c)

/-- The coordinator after it. -/
def refreshed (c : LockUpdateCoordinator) : LockUpdateCoordinator :=
  (Coordinator.Poll.asyncRefreshCodes.run (pages srv) c).2

/-! ### Completeness -/

/-- **Every enumeration is complete**, and so is what is made of the passcodes. -/
structure Complete (rt : Runtime) : Prop where
  locks : srv.getLocks = srv.locks
  gateways : srv.getGateways = srv.gateways
  passcodes : ∀ lockId, srv.listPasscodes lockId = srv.passcodes lockId
  ekeys : ∀ lockId, srv.listEkeys lockId = srv.ekeys lockId
  cards : ∀ lockId, srv.listCards lockId = srv.cards lockId
  fingerprints : ∀ lockId, srv.listFingerprints lockId = srv.fingerprints lockId
  /-- A clean-up requests the deletion of each passcode of a lock that is due. -/
  cleanup : ∀ (n : ℕ) (s : Hass n) (entityIds : List EntityId),
    ∀ e ∈ s.getCoordinators entityIds, ∀ code ∈ srv.passcodes (s.lockId e.2),
      ∀ id ∈ due s.now code, Request.keyboardPwdDelete (s.lockId e.2) id ∈
        ((handleCleanupPasscodes entityIds).calls (pagesAccepting srv).answer s).map Prod.fst
  /-- The sensor counts the passcodes of the lock that have not expired. -/
  sensor : ∀ (c : LockUpdateCoordinator) (now : LocalTime) (ble : BleData)
    (operator trigger : Option String),
    Entity.values now (refreshed srv c) ble operator trigger .lockPinCodes =
      [.int ((srv.passcodes c.lockId).countP fun code => !code.expired now)]
  /-- The attributes of the sensor list all passcodes of the lock. -/
  attributes : ∀ (c : LockUpdateCoordinator) (now : LocalTime),
    pinAttributes rt now (refreshed srv c).data.passcodes =
      pinAttributes rt now (some (srv.passcodes c.lockId))

/-- Every list fits on the page that is asked for. -/
structure Fits : Prop where
  locks : srv.locks.length ≤ 1000
  gateways : srv.gateways.length ≤ 1000
  passcodes : ∀ lockId, (srv.passcodes lockId).length ≤ 100
  ekeys : ∀ lockId, (srv.ekeys lockId).length ≤ 200
  cards : ∀ lockId, (srv.cards lockId).length ≤ 200
  fingerprints : ∀ lockId, (srv.fingerprints lockId).length ≤ 200

/-- A clean-up against the pages, if they hold all passcodes. -/
theorem cleanup_of_listPasscodes_eq
    (hpasscodes : ∀ lockId, srv.listPasscodes lockId = srv.passcodes lockId) {n : ℕ} (s : Hass n)
    (entityIds : List EntityId) {e : EntityId × Fin n} (he : e ∈ s.getCoordinators entityIds)
    {code : Passcode} (hcode : code ∈ srv.passcodes (s.lockId e.2)) {id : ℤ}
    (hid : id ∈ due s.now code) : Request.keyboardPwdDelete (s.lockId e.2) id ∈
      ((handleCleanupPasscodes entityIds).calls (pagesAccepting srv).answer s).map Prod.fst := by
  have hall : (pagesAccepting srv).settlesAll s (s.getCoordinators entityIds) = true :=
    (settlesAll_iff _ _ _).mpr fun _ _ _ _ _ _ => rfl
  have hcalls : ((handleCleanupPasscodes entityIds).calls (pagesAccepting srv).answer s).map Prod.fst =
      (pagesAccepting srv).allRequests s (s.getCoordinators entityIds) :=
    calls_cleanupLocks (pagesAccepting srv) s _ [] hall
  rw [hcalls, Cloud.allRequests, List.mem_flatMap]
  refine ⟨e, he, ?_⟩
  rw [Cloud.requests, List.mem_append]
  refine .inl (List.mem_cons_of_mem _ (List.mem_map.mpr ⟨id, ?_, rfl⟩))
  refine List.mem_filterMap.mpr ⟨code, ?_, hid⟩
  rw [← hpasscodes] at hcode
  exact hcode

/-- **Enumerations are complete exactly if every list fits on its page.** -/
theorem complete_iff (rt : Runtime) : Complete srv rt ↔ Fits srv := by
  constructor
  · intro h
    exact
      { locks := (enumerate_eq_iff Listing.locks srv.locks rfl).mp h.locks
        gateways := (enumerate_eq_iff Listing.gateways srv.gateways rfl).mp h.gateways
        passcodes := fun lockId =>
          (enumerate_eq_iff (Listing.passcodes lockId) _ rfl).mp (h.passcodes lockId)
        ekeys := fun lockId => (enumerate_eq_iff (Listing.ekeys lockId) _ rfl).mp (h.ekeys lockId)
        cards := fun lockId => (enumerate_eq_iff (Listing.cards lockId) _ rfl).mp (h.cards lockId)
        fingerprints := fun lockId =>
          (enumerate_eq_iff (Listing.fingerprints lockId) _ rfl).mp (h.fingerprints lockId) }
  · intro h
    have hpasscodes : ∀ lockId, srv.listPasscodes lockId = srv.passcodes lockId := fun lockId =>
      (enumerate_eq_iff (Listing.passcodes lockId) _ rfl).mpr (h.passcodes lockId)
    exact
      { locks := (enumerate_eq_iff Listing.locks srv.locks rfl).mpr h.locks
        gateways := (enumerate_eq_iff Listing.gateways srv.gateways rfl).mpr h.gateways
        passcodes := hpasscodes
        ekeys := fun lockId => (enumerate_eq_iff (Listing.ekeys lockId) _ rfl).mpr (h.ekeys lockId)
        cards := fun lockId => (enumerate_eq_iff (Listing.cards lockId) _ rfl).mpr (h.cards lockId)
        fingerprints := fun lockId =>
          (enumerate_eq_iff (Listing.fingerprints lockId) _ rfl).mpr (h.fingerprints lockId)
        cleanup := fun _ s entityIds _ he _ hcode _ hid =>
          cleanup_of_listPasscodes_eq srv hpasscodes s entityIds he hcode hid
        sensor := fun c now ble operator trigger => by
          rw [← hpasscodes]
          rfl
        attributes := fun c now => by
          rw [← hpasscodes]
          rfl }

/-! ### A lock with 250 passcodes -/

/-- A full lock, and nothing else. -/
def fullLock : Server Unit Unit Unit Unit where
  locks := []
  gateways := []
  passcodes _ := List.replicate 250 ⟨some 1, none, none, some 2, none, none⟩
  ekeys _ := []
  cards _ := []
  fingerprints _ := []

def bareRuntime : Runtime where
  lib := Webhook.Records.sampleLibrary
  str _ := ""
  isoformat _ := ""
  featuresName _ := ""
  apiBase := ""
  entityId _ _ := ""
  render _ _ := ⟨"", true, []⟩
  entryDict _ := .null
  apiUsage _ _ := .null

/-- **The passcodes of a full lock are not all listed.** -/
theorem fullLock_incomplete : ¬ ∀ (L G C F : Type) (srv : Server L G C F) (rt : Runtime),
    Complete srv rt := by
  intro hall
  have hcomplete := (hall Unit Unit Unit Unit fullLock bareRuntime).passcodes 7
  have hfits : (fullLock.passcodes 7).length ≤ 100 :=
    (enumerate_eq_iff (Listing.passcodes 7) _ rfl).mp hcomplete
  rw [fullLock, List.length_replicate] at hfits
  exact absurd hfits (by decide)

end TTLockConnect.Services.Enumerations
