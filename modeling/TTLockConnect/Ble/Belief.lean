import TTLockConnect.Ble.LocalRead

/-! # What a poll believes of its lock

A poll that has asked its lock for the state goes on with what the session returns: it takes the
state over if the reply tells one (`believesOwnAnswer_iff` says when that is sound), and else asks the
cloud, with data that the reply has left alone. Only webhook-only mode spares the cloud. -/

namespace TTLockConnect.Ble.Belief

open TTLockConnect.Text TTLockConnect.Models TTLockConnect.Ble.Cipher TTLockConnect.Ble.Protocol
open TTLockConnect.Ble.Codec TTLockConnect.Ble.RoundTrip TTLockConnect.Ble.Session
open TTLockConnect.Ble.LocalRead TTLockConnect.Api
open TTLockConnect.Coordinator.State TTLockConnect.Coordinator.Poll
open TTLockConnect.Async.Coroutine TTLockConnect.Async.Coroutine.Coro TTLockConnect.Async.Runs

/-! ### A poll that waits for its lock -/

/-- A poll in its fast tier, which has asked its lock for the state. -/
structure Waiting where
  /-- The poll's copy of the data. -/
  newData : LockState
  /-- The coordinator when the lock is asked. -/
  asked : LockUpdateCoordinator
  address : String
  name : String
  version : LockVersion
  aesKey : Bytes
  /-- How the poll goes on with what the session returns. -/
  next : Except PyError Bytes → Method LockState
  waits : (updateState newData).advance asked =
    .wait asked (.queryLockStatus address name version aesKey) next
  /-- The coordinator when the poll goes on. -/
  coordinator : LockUpdateCoordinator

/-- **The poll asks the cloud for the state**, as if it had not asked the lock. -/
structure AsksCloud (newData : LockState) (c : LockUpdateCoordinator) (p : Method LockState) :
    Prop where
  request : ∃ next, p.advance c = .wait c (.queryOpenState c.lockId) next
  untouched : p.advance c = (updateCloudState newData).advance c

/-- A reply that is no answer to the query sends the poll to the cloud. -/
def FallsBack (aes : BlockCipher) (m : Move LockSession SessionLabel) (w : Waiting) : Prop :=
  m.label = .resume → ∀ reply, m.src.ended aes .resume = some (statusQuery, reply) →
    (∀ frame, reply = .ok frame → ¬ AnswersQuery frame) →
      AsksCloud w.newData w.coordinator (w.next (reply.map Frame.data))

/-- The cloud may be asked: webhook-only mode is not in force, or the state is not known. -/
def Waiting.MayAskCloud (w : Waiting) : Prop :=
  ¬ (w.coordinator.webhookOnlyActive ∧ w.newData.locked.isSome)

/-- When a state query is answered: the first frame that is complete among the notifications since
its turn began is `54` with a payload `14 01 …`, or the cloud may be asked. -/
def AnswerOrCloud (aes : BlockCipher) (m : Move LockSession SessionLabel) (w : Waiting) : Prop :=
  m.label = .resume → ∀ t ∈ m.src.turn, t.call = statusQuery → ∀ raw ∈ firstFrame t.heard,
    (∃ frame, Frame.decode aes raw m.src.aesKey = .ok frame ∧ frame.command = 0x54 ∧
      frame.data[0]? = some 0x14 ∧ frame.data[1]? = some 0x01) ∨ w.MayAskCloud

/-! ### How the poll goes on -/

/-- The fast tier behind the local read. -/
def afterRead (newData : LockState) (status : Option LockStatus) : Method LockState :=
  match status.bind fun status => status.locked.map fun locked => (status, locked) with
  | some (status, locked) => pure (applyStatus status locked newData)
  | none => do
    let c ← get
    if c.webhookOnlyActive ∧ newData.locked.isSome then pure newData
    else updateCloudState newData

theorem updateState_eq (newData : LockState) :
    updateState newData = asyncReadStateBle >>= afterRead newData := rfl

section Waiting
variable {newData : LockState} {c : LockUpdateCoordinator} (w : Waiting)

theorem advance_updateCloudState : ∃ next, (updateCloudState newData).advance c =
    .wait c (.queryOpenState c.lockId) next := ⟨_, rfl⟩

/-- Without a status the poll asks nobody, or the cloud. -/
theorem advance_afterRead_none {status : Option LockStatus}
    (h : (status.bind LockStatus.locked) = none) : (afterRead newData status).advance c =
      if c.webhookOnlyActive ∧ newData.locked.isSome then .done (.ok newData) c
      else (updateCloudState newData).advance c := by
  have hnone : (status.bind fun status => status.locked.map fun locked => (status, locked)) = none := by
    cases status with
    | none => rfl
    | some status => exact congrArg (Option.map _) h
  unfold afterRead
  rw [hnone]
  change (if c.webhookOnlyActive ∧ newData.locked.isSome then pure newData
    else updateCloudState newData : Method LockState).advance c = _
  split_ifs
  · rfl
  · rfl

/-- A poll that has read nothing does not ask its lock. -/
theorem afterRead_none_ne_wait {s : LockUpdateCoordinator} {address name : String}
    {version : LockVersion} {aesKey : Bytes} {next : Except PyError Bytes → Method LockState} :
    (afterRead newData none).advance c ≠
      .wait s (.queryLockStatus address name version aesKey) next := by
  rw [advance_afterRead_none rfl]
  split_ifs
  · exact nofun
  · obtain ⟨next', h⟩ : ∃ next', (updateCloudState newData).advance c =
        .wait c (.queryOpenState c.lockId) next' := advance_updateCloudState
    rw [h]
    intro heq
    injection heq with _ hrequest
    cases hrequest

/-- A first segment that reads the state. -/
theorem advance_get_bind {α : Type} (f : LockUpdateCoordinator → Method α)
    (c : LockUpdateCoordinator) : (get >>= f).advance c = (f c).advance c := rfl

/-- **The poll goes on with the status**, or without one if the error is caught. -/
theorem Waiting.next_eq (w : Waiting) (data : Bytes) (err : PyError) :
    w.next (.ok data) = afterRead w.newData (some (LockStatus.parse data)) ∧
      (Caught err → w.next (.error err) = afterRead w.newData none) := by
  obtain ⟨newData, asked, address, name, version, aesKey, next, h, coordinator⟩ := w
  rw [updateState_eq] at h
  unfold asyncReadStateBle at h
  rw [bind_assoc, advance_get_bind] at h
  split_ifs at h
  · exact absurd h afterRead_none_ne_wait
  · cases hcredentials : asked.bleCredentials with
    | none =>
      rw [hcredentials] at h
      exact absurd h afterRead_none_ne_wait
    | some credentials =>
      rw [hcredentials] at h
      cases h
      refine ⟨rfl, fun hcaught => ?_⟩
      have hhandled : (if err.isBleError ∨ err.isProtocolError then pure none else throw err :
          Method (Option LockStatus)) = pure none := if_pos hcaught
      exact congrArg (· >>= afterRead newData) hhandled

end Waiting

/-! ### A turn that ends with its answer -/

variable {aes : BlockCipher} {s s' : LockSession} {l : SessionLabel}

/-- The command of the turn could be encoded. -/
def Encoded (aes : BlockCipher) (s : LockSession) : Prop :=
  ∀ t, s.turn = some t → ∃ payload, s.wire aes t.call = .ok payload

theorem step_encoded (hi : Encoded aes s) (h : s.step aes l = some s') : Encoded aes s' := by
  obtain ⟨call, -, rfl | rfl⟩ | ⟨call, waiting, -, rfl⟩ | ⟨call, chunk, unsent, heard, -, ht, rfl⟩ |
    ⟨data, -, rfl⟩ | ⟨-, rfl⟩ | ⟨err, -, rfl⟩ := step_cases h
  · exact hi
  · exact hi
  · intro t ht
    unfold LockSession.begin at ht ⊢
    cases hwire : s.wire aes call with
    | ok payload =>
      rw [hwire] at ht
      cases ht
      exact ⟨payload, hwire⟩
    | error err =>
      rw [hwire] at ht
      cases ht
  · intro t ht'
    cases ht'
    exact hi ⟨call, chunk :: unsent, heard⟩ ht
  · intro t' ht
    obtain ⟨t, hturn, rfl⟩ := Option.map_eq_some_iff.mp ht
    exact hi t hturn
  · exact nofun
  · exact nofun

/-- What a status query ends with, when it is answered. -/
theorem resumed (hi : Inv s) (he : Encoded aes s) {reply : Except PyError Frame}
    (h : s.ended aes .resume = some (statusQuery, reply)) : ∃ t raw, s.turn = some t ∧
      t.call = statusQuery ∧ firstFrame t.heard = some raw ∧
      reply = Frame.decode aes raw s.aesKey ∧ KeyFits s.aesKey := by
  simp only [LockSession.ended] at h
  split at h
  · rename_i call heard raw ht hp
    obtain ⟨rfl, rfl⟩ := Prod.mk.inj (Option.some.inj h)
    rw [(hi.busy _ ht).1] at hp
    refine ⟨_, raw, ht, rfl, Option.some.inj hp, rfl, fun key hkey => ?_⟩
    have hwire : ∃ payload, (statusFrame s.version).encode aes s.aesKey = .ok payload := he _ ht
    rw [hkey] at hwire
    exact (exists_wire_iff.mp hwire).2
  · cases h

variable {m : Move LockSession SessionLabel}

/-- **Where the poll goes on** after a reply that is no answer and has not been believed. -/
theorem advance_next (hi : Inv m.src) (he : Encoded aes m.src) (hb : BelievesOwnAnswer aes m)
    (hl : m.label = .resume) {reply : Except PyError Frame}
    (hended : m.src.ended aes .resume = some (statusQuery, reply))
    (hno : ∀ frame, reply = .ok frame → ¬ AnswersQuery frame) (w : Waiting) :
    (w.next (reply.map Frame.data)).advance w.coordinator =
      if w.coordinator.webhookOnlyActive ∧ w.newData.locked.isSome then
        .done (.ok w.newData) w.coordinator
      else (updateCloudState w.newData).advance w.coordinator := by
  cases reply with
  | error err =>
    obtain ⟨t, raw, -, -, -, hd, hfits⟩ := resumed hi he hended
    have hcaught : Caught err := by
      rcases decode_error hfits hd.symm with rfl | rfl | rfl | rfl <;> exact .inr rfl
    have hnext : w.next (.error err) = afterRead w.newData none := (w.next_eq [] err).2 hcaught
    rw [Except.map, hnext]
    exact advance_afterRead_none rfl
  | ok frame =>
    have hread : statusRead aes m = some frame := by
      rw [statusRead, hl, hended]
      exact if_pos rfl
    have hlocked : (LockStatus.parse frame.data).locked = none := by
      cases htold : (LockStatus.parse frame.data).locked with
      | none => rfl
      | some locked => exact absurd (hb frame hread (by rw [htold]; rfl)) (hno frame rfl)
    rw [Except.map, (w.next_eq frame.data .frameError).1]
    exact advance_afterRead_none hlocked

theorem fallsBack_iff (hi : Inv m.src) (he : Encoded aes m.src)
    (hs : m.src.step aes m.label = some m.dst) (hb : BelievesOwnAnswer aes m) (w : Waiting) :
    FallsBack aes m w ↔ AnswerOrCloud aes m w := by
  constructor
  · intro hf hl t ht hc raw hraw
    rw [hl] at hs
    have hended := ended_resume hi hs ht hraw
    rw [hc, keyOf_statusQuery] at hended
    by_cases hown : ∃ frame, Frame.decode aes raw m.src.aesKey = .ok frame ∧ AnswersQuery frame
    · obtain ⟨frame, hd, hanswers⟩ := hown
      exact .inl ⟨frame, hd, (answersQuery_iff frame).mp hanswers⟩
    · right
      intro hspared
      have hno : ∀ frame, Frame.decode aes raw m.src.aesKey = .ok frame → ¬ AnswersQuery frame :=
        fun frame hd hanswers => hown ⟨frame, hd, hanswers⟩
      obtain ⟨next, hasks⟩ := (hf hl _ hended hno).request
      rw [advance_next hi he hb hl hended hno, if_pos hspared] at hasks
      cases hasks
  · intro hcloud hl reply hended hno
    obtain ⟨t, raw, ht, hc, hraw, rfl, -⟩ := resumed hi he hended
    rcases hcloud hl t ht hc raw hraw with ⟨frame, hd, hanswers⟩ | hmay
    · exact absurd ((answersQuery_iff frame).mpr hanswers) (hno frame hd)
    · have hnext := advance_next hi he hb hl hended hno w
      rw [if_neg hmay] at hnext
      obtain ⟨next, hasks⟩ := advance_updateCloudState
      exact ⟨⟨next, hnext.trans hasks⟩, hnext⟩

/-! ### Every run -/

variable {version : LockVersion} {aesKey : Option Bytes} {mtuSize : Option ℕ}
  {τ : List (Move LockSession SessionLabel)}

/-- A lock in range whose credentials are known is asked. -/
theorem updateState_waits {newData : LockState} {c : LockUpdateCoordinator} {key : Bytes}
    (hb : c.bluetoothAvailable = true) (hi : c.inRange = true)
    (hc : c.bleCredentials = some (version, key)) : ∃ next, (updateState newData).advance c =
      .wait c (.queryLockStatus c.data.mac c.data.name version key) next := by
  rw [updateState_eq]
  unfold asyncReadStateBle
  rw [bind_assoc, advance_get_bind, if_neg (by rw [hb, hi]; decide), hc]
  exact ⟨_, rfl⟩

/-- A lock in range, with the key of the samples. -/
def nearbyLock : LockUpdateCoordinator where
  lockId := 7
  connectable := true
  hasGateway := true
  slowInterval := 1
  slowInterval_pos := Int.one_pos
  webhookOnly := false
  bluetoothAvailable := true
  inRange := true
  bleVersion := some [("protocolType", 5), ("protocolVersion", 3), ("scene", 2), ("groupId", 1),
    ("orgId", 1)]
  bleKey := some "000102030405060708090a0b0c0d0e0f"
  data := { name := "door", mac := "00:00" }
  now := ⟨0, 0⟩

theorem nearbyLock_waits : ∃ w : Waiting, w.newData = nearbyLock.data ∧
    w.version = sampleVersion ∧ w.aesKey = sampleKey ∧ w.coordinator = nearbyLock := by
  have hcredentials : nearbyLock.bleCredentials = some (sampleVersion, sampleKey) := by
    decide +kernel
  obtain ⟨next, hnext⟩ : ∃ next, (updateState nearbyLock.data).advance nearbyLock =
      .wait nearbyLock (.queryLockStatus nearbyLock.data.mac nearbyLock.data.name sampleVersion
        sampleKey) next := updateState_waits rfl rfl hcredentials
  exact ⟨⟨nearbyLock.data, nearbyLock, _, _, _, _, next, hnext, nearbyLock⟩, rfl, rfl, rfl, rfl⟩

end TTLockConnect.Ble.Belief
