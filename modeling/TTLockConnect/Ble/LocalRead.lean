import TTLockConnect.Ble.RoundTrip
import TTLockConnect.Ble.Session
import TTLockConnect.Coordinator.Poll

/-! # A local read of a lock's state

`async_read_status` down to the calls of the Bluetooth stack, one after the other, and what
`async_read_state_ble` makes of it. It catches the errors of Bluetooth and of the protocol. What it
does not catch is what `encode` raises, and a timeout outside of connecting and answering. -/

namespace TTLockConnect.Ble.LocalRead

open TTLockConnect.Text TTLockConnect.Models TTLockConnect.Ble.Cipher TTLockConnect.Ble.Protocol
open TTLockConnect.Ble.Codec TTLockConnect.Ble.RoundTrip TTLockConnect.Ble.Session
open TTLockConnect.Coordinator.State TTLockConnect.Coordinator.Poll
open TTLockConnect.Async.Coroutine TTLockConnect.Async.Coroutine.Coro

/-! ### The Bluetooth stack -/

/-- What a call of the stack raises. -/
inductive Trouble where
  | bleakError
  | timeout
  deriving DecidableEq, Repr

/-- What the stack does over one session. -/
structure Behaviour where
  /-- `async_ble_device_from_address` finds the device. -/
  reachable : Bool
  /-- `establish_connection`: a client with this `mtu_size` -/
  connection : Except Trouble (Option ℕ)
  /-- `start_notify` -/
  subscription : Except Trouble Unit
  /-- `write_gatt_char` of a chunk, by its index -/
  written : ℕ → Except Trouble Unit
  /-- The notifications that come in the time for an answer. -/
  heard : List Bytes
  /-- `stop_notify` -/
  unsubscription : Except Trouble Unit
  /-- `client.disconnect` -/
  disconnection : Except Trouble Unit

/-- `except BleakError: raise BleConnectionError` -/
def orConnectionError {α : Type} : Except Trouble α → Except PyError α
  | .ok a => .ok a
  | .error .bleakError => .error .bleConnectionError
  | .error .timeout => .error .timeoutError

/-- `except BleakError`, logged -/
def orLogged : Except Trouble Unit → Except PyError Unit
  | .ok () => .ok ()
  | .error .bleakError => .ok ()
  | .error .timeout => .error .timeoutError

/-! ### The session -/

section Session
variable (aes : BlockCipher) (b : Behaviour)

/-- `async_connect`. -/
def asyncConnect : Except PyError (Option ℕ) :=
  if ¬ b.reachable then .error .bleNotInRange
  else
    match orConnectionError b.connection with
    | .error .timeoutError => .error .bleConnectionError
    | result => result

/-- `LockSession.start`. -/
def start : Except PyError Unit := orConnectionError b.subscription

/-- `LockSession.stop`. -/
def stop : Except PyError Unit := orLogged b.unsubscription

/-- `async_disconnect`. -/
def asyncDisconnect : Except PyError Unit := orLogged b.disconnection

/-- The chunks from index `i` on. -/
def writeChunks : ℕ → List Bytes → Except Trouble Unit
  | _, [] => .ok ()
  | i, _ :: chunks => do
    b.written i
    writeChunks (i + 1) chunks

/-- `LockSession._write`. -/
def write (s : LockSession) (payload : Bytes) : Except PyError Unit :=
  orConnectionError (writeChunks b 0 (payload.toChunks s.chunkSize))

/-- `await pending`, for at most `RESPONSE_TIMEOUT`. -/
def awaitPending : Except PyError Bytes :=
  match firstFrame b.heard with
  | some raw => .ok raw
  | none => .error .timeoutError

/-- The `try` of `execute`: the command is encoded and written, and its answer awaited. -/
def exchange (s : LockSession) (call : Call) : Except PyError Bytes := do
  let payload ← s.wire aes call
  write b s payload
  awaitPending b

/-- `except TimeoutError: raise BleNoResponse` -/
def orNoResponse : Except PyError Bytes → Except PyError Bytes
  | .error .timeoutError => .error .bleNoResponse
  | result => result

/-- `LockSession.execute`. -/
def execute (s : LockSession) (call : Call) : Except PyError Frame :=
  let aesKey := s.keyOf call
  if call.encrypted ∧ aesKey = none then .error .bleError
  else do
    let raw ← orNoResponse (exchange aes b s call)
    Frame.decode aes raw aesKey

/-- `async_read_status` with its `async_command_session`, up to the data of the reply. What stopping
and disconnecting raise takes the place of what was raised before. -/
def asyncReadStatus (version : LockVersion) (aesKey : Bytes) : Except PyError Bytes := do
  let mtuSize ← asyncConnect b
  let s := LockSession.new version (some aesKey) mtuSize
  let reply : Except PyError Frame := do
    start b
    execute aes b s statusQuery
  stop b
  asyncDisconnect b
  let reply ← reply
  pure reply.data

/-- The replies to a coordinator that reads the state of its lock. -/
def radio : (q : Api.Request) → LockUpdateCoordinator →
    Except PyError (Api.Reply q) × LockUpdateCoordinator
  | .queryLockStatus _ _ version aesKey, c => (asyncReadStatus aes b version aesKey, c)
  | _, c => (.error .requestFailed, c)

end Session

/-! ### What is caught -/

/-- Caught by `except (BleError, ProtocolError)`. -/
def Caught (err : PyError) : Prop := err.isBleError = true ∨ err.isProtocolError = true

/-- Where the error of a sequence comes from. -/
theorem bind_error {α β : Type} {x : Except PyError α} {f : α → Except PyError β} {err : PyError}
    (h : (x >>= f) = .error err) : x = .error err ∨ ∃ a, x = .ok a ∧ f a = .error err := by
  cases x with
  | error e => exact Or.inl (congrArg Except.error (Except.error.inj h))
  | ok a => exact Or.inr ⟨a, rfl, h⟩

theorem byteOf_error {n : ℤ} {err : PyError} (h : byteOf n = .error err) : err = .valueError := by
  unfold byteOf at h
  split_ifs at h
  exact (Except.error.inj h).symm

theorem toBytes2_error {n : ℤ} {err : PyError} (h : toBytes2 n = .error err) :
    err = .overflowError := by
  unfold toBytes2 at h
  split_ifs at h
  exact (Except.error.inj h).symm

theorem encrypt_error {aes : BlockCipher} {key data : Bytes} {err : PyError}
    (h : encrypt aes key data = .error err) : err = .valueError := by
  unfold encrypt at h
  dsimp only at h
  split_ifs at h
  exact (Except.error.inj h).symm

theorem envelope_error {f : Frame} {payload : Bytes} {err : PyError}
    (h : envelope f payload = .error err) : err = .valueError ∨ err = .overflowError := by
  unfold envelope at h
  rcases bind_error h with h | ⟨protocolType, -, h⟩
  · exact Or.inl (byteOf_error h)
  rcases bind_error h with h | ⟨protocolVersion, -, h⟩
  · exact Or.inl (byteOf_error h)
  rcases bind_error h with h | ⟨scene, -, h⟩
  · exact Or.inl (byteOf_error h)
  rcases bind_error h with h | ⟨groupId, -, h⟩
  · exact Or.inr (toBytes2_error h)
  rcases bind_error h with h | ⟨orgId, -, h⟩
  · exact Or.inr (toBytes2_error h)
  rcases bind_error h with h | ⟨command, -, h⟩
  · exact Or.inl (byteOf_error h)
  rcases bind_error h with h | ⟨scrambleKey, -, h⟩
  · exact Or.inl (byteOf_error h)
  · cases h

/-- **What `encode` raises.** -/
theorem encode_error {aes : BlockCipher} {f : Frame} {aesKey : Option Bytes} {err : PyError}
    (he : f.encode aes aesKey = .error err) : err = .valueError ∨ err = .overflowError := by
  rw [encode_eq] at he
  rcases bind_error he with h | ⟨payload, -, he⟩
  · cases aesKey with
    | none => cases h
    | some key => exact Or.inl (encrypt_error h)
  · split_ifs at he
    · exact Or.inl (Except.error.inj he).symm
    · exact envelope_error he

/-- The frame of a status query, in a lock's dialect. -/
def statusFrame (version : LockVersion) : Frame := ⟨version, Command.queryLockStatus.toInt, [], 0⟩

/-- **A status query can be encoded** exactly if the five values fit and the key is one of AES-128. -/
theorem exists_wire_iff {aes : BlockCipher} {version : LockVersion} {key : Bytes} :
    (∃ payload, (statusFrame version).encode aes (some key) = .ok payload) ↔
      InRange (statusFrame version) ∧ key.length = AES_KEY_LENGTH := by
  by_cases hkey : key.length = AES_KEY_LENGTH
  · have hfits : KeyFits (some key) := by
      intro k hk
      rw [← Option.some.inj hk]
      exact hkey
    rw [exists_encode_iff hfits rfl]
    have hshort : (statusFrame version).data.length ≤ maxData (some key) := Nat.zero_le _
    exact ⟨fun h => ⟨h.1, hkey⟩, fun h => ⟨h.1, hshort⟩⟩
  · refine iff_of_false ?_ fun h => hkey h.2
    rintro ⟨payload, he⟩
    have hrefused : encrypt aes key (statusFrame version).data = .error .valueError := if_pos hkey
    unfold Frame.encode at he
    dsimp only at he
    rw [hrefused] at he
    cases he

section Errors
variable {aes : BlockCipher} {b : Behaviour} {err : PyError}

theorem orConnectionError_error {α : Type} {r : Except Trouble α}
    (h : orConnectionError r = .error err) : err = .bleConnectionError ∨ err = .timeoutError := by
  rcases r with ⟨_ | _⟩ | a
  · exact Or.inl (Except.error.inj h).symm
  · exact Or.inr (Except.error.inj h).symm
  · cases h

theorem asyncConnect_error (h : asyncConnect b = .error err) : Caught err := by
  unfold asyncConnect at h
  split at h
  · rw [← Except.error.inj h]
    exact Or.inl rfl
  · split at h
    · rw [← Except.error.inj h]
      exact Or.inl rfl
    · rename_i hne
      rcases orConnectionError_error h with rfl | rfl
      · exact Or.inl rfl
      · exact absurd h hne

theorem asyncConnect_ok_iff {mtuSize : Option ℕ} : asyncConnect b = .ok mtuSize ↔
    b.reachable = true ∧ b.connection = .ok mtuSize := by
  unfold asyncConnect
  cases b.reachable with
  | false => simp
  | true => rcases b.connection with ⟨_ | _⟩ | mtuSize' <;> simp [orConnectionError]

theorem awaitPending_error (h : awaitPending b = .error err) : err = .timeoutError := by
  unfold awaitPending at h
  split at h
  · cases h
  · exact (Except.error.inj h).symm

/-- What goes wrong in the `try` of `execute`, once the command is encoded. -/
theorem exchange_error {s : LockSession} {call : Call} {payload : Bytes}
    (hwire : s.wire aes call = .ok payload) (h : exchange aes b s call = .error err) :
    err = .bleConnectionError ∨ err = .timeoutError := by
  unfold exchange at h
  rw [hwire] at h
  rcases bind_error h with h | ⟨payload', -, h⟩
  · cases h
  rcases bind_error h with h | ⟨-, -, h⟩
  · exact orConnectionError_error h
  · exact Or.inr (awaitPending_error h)

/-- **A query that can be encoded raises only what is caught.** -/
theorem execute_error {version : LockVersion} {key payload : Bytes} {mtuSize : Option ℕ}
    (hkey : key.length = AES_KEY_LENGTH)
    (hwire : (statusFrame version).encode aes (some key) = .ok payload)
    (h : execute aes b (.new version (some key) mtuSize) statusQuery = .error err) : Caught err := by
  have hfits : KeyFits (some key) := by
    intro k hk
    rw [← Option.some.inj hk]
    exact hkey
  have hsent : (LockSession.new version (some key) mtuSize).wire aes statusQuery = .ok payload :=
    hwire
  change (orNoResponse (exchange aes b (.new version (some key) mtuSize) statusQuery) >>=
    fun raw => Frame.decode aes raw (some key)) = .error err at h
  rcases bind_error h with h | ⟨raw, -, h⟩
  · unfold orNoResponse at h
    split at h
    · rw [← Except.error.inj h]
      exact Or.inl rfl
    · rename_i hne
      rcases exchange_error hsent h with rfl | rfl
      · exact Or.inl rfl
      · exact absurd h hne
  · rcases decode_error hfits h with rfl | rfl | rfl | rfl <;> exact Or.inr rfl

/-- A query that cannot be encoded raises what is not caught. -/
theorem execute_refused {version : LockVersion} {key : Bytes} {mtuSize : Option ℕ}
    (hwire : ¬ ∃ payload, (statusFrame version).encode aes (some key) = .ok payload) :
    ∃ e, execute aes b (.new version (some key) mtuSize) statusQuery = .error e ∧ ¬ Caught e := by
  cases he : (statusFrame version).encode aes (some key) with
  | ok payload => exact absurd ⟨payload, he⟩ hwire
  | error e =>
    have hexchange : exchange aes b (.new version (some key) mtuSize) statusQuery = .error e := by
      change ((statusFrame version).encode aes (some key) >>= fun _ => _) = _
      rw [he]
      rfl
    have hexecute : execute aes b (.new version (some key) mtuSize) statusQuery =
        (orNoResponse (.error e) >>= fun raw => Frame.decode aes raw (some key)) := by
      rw [← hexchange]
      rfl
    rw [hexecute]
    refine ⟨e, ?_⟩
    rcases encode_error he with rfl | rfl
    · exact ⟨rfl, by simp [Caught, PyError.isBleError, PyError.isProtocolError]⟩
    · exact ⟨rfl, by simp [Caught, PyError.isBleError, PyError.isProtocolError]⟩

end Errors

/-! ### A read that never raises -/

/-- **What a connection has to meet** so that a read over it does not raise: no timeout but that of
the answer or of a write, and, if the lock's replies are subscribed to, a query that can be encoded. -/
structure Harmless (b : Behaviour) (version : LockVersion) (key : Bytes) : Prop where
  subscription : b.subscription ≠ .error .timeout
  unsubscription : b.unsubscription ≠ .error .timeout
  disconnection : b.disconnection ≠ .error .timeout
  query : b.subscription = .ok () →
    InRange (statusFrame version) ∧ key.length = AES_KEY_LENGTH

theorem orLogged_ok {r : Except Trouble Unit} (h : r ≠ .error .timeout) : orLogged r = .ok () := by
  rcases r with ⟨_ | _⟩ | ⟨⟩
  · rfl
  · exact absurd rfl h
  · rfl

theorem timeout_not_caught : ¬ Caught .timeoutError := by
  simp [Caught, PyError.isBleError, PyError.isProtocolError]

section Read
variable {aes : BlockCipher} {b : Behaviour} {version : LockVersion} {key : Bytes}
  {mtuSize : Option ℕ}

/-- The body of the session. -/
def query (aes : BlockCipher) (b : Behaviour) (version : LockVersion) (key : Bytes)
    (mtuSize : Option ℕ) : Except PyError Frame := do
  start b
  execute aes b (.new version (some key) mtuSize) statusQuery

theorem asyncReadStatus_eq (hconnect : asyncConnect b = .ok mtuSize) :
    asyncReadStatus aes b version key = (do
      stop b
      asyncDisconnect b
      let reply ← query aes b version key mtuSize
      pure reply.data) := by
  unfold asyncReadStatus
  rw [hconnect]
  rfl

/-- What the body raises is caught exactly if it has nothing else to raise. -/
theorem query_caught_iff : (∀ err, query aes b version key mtuSize = .error err → Caught err) ↔
    b.subscription ≠ .error .timeout ∧ (b.subscription = .ok () →
      InRange (statusFrame version) ∧ key.length = AES_KEY_LENGTH) := by
  have hquery : query aes b version key mtuSize = (orConnectionError b.subscription >>= fun _ =>
    execute aes b (.new version (some key) mtuSize) statusQuery) := rfl
  rw [hquery]
  rcases b.subscription with ⟨_ | _⟩ | ⟨⟩
  · refine iff_of_true ?_ ⟨nofun, nofun⟩
    intro err herr
    rw [← Except.error.inj herr]
    exact Or.inl rfl
  · exact iff_of_false (fun h => timeout_not_caught (h _ rfl)) fun h => h.1 rfl
  · have hok : (orConnectionError (.ok ()) >>= fun _ =>
        execute aes b (.new version (some key) mtuSize) statusQuery) =
      execute aes b (.new version (some key) mtuSize) statusQuery := rfl
    rw [hok]
    constructor
    · intro h
      have hwire : ∃ payload, (statusFrame version).encode aes (some key) = .ok payload := by
        by_contra hrefused
        obtain ⟨e, he, hnot⟩ := execute_refused hrefused
        exact hnot (h e he)
      exact ⟨nofun, fun _ => exists_wire_iff.mp hwire⟩
    · rintro ⟨-, hfits⟩ err herr
      obtain ⟨hrange, hkey⟩ := hfits rfl
      obtain ⟨payload, hwire⟩ := exists_wire_iff.mpr ⟨hrange, hkey⟩
      exact execute_error hkey hwire herr

/-- **What a read over a connection raises is caught exactly if the connection is harmless.** -/
theorem asyncReadStatus_caught_iff (hconnect : asyncConnect b = .ok mtuSize) :
    (∀ err, asyncReadStatus aes b version key = .error err → Caught err) ↔
      Harmless b version key := by
  rw [asyncReadStatus_eq hconnect]
  by_cases hstop : b.unsubscription = .error .timeout
  · refine iff_of_false (fun h => timeout_not_caught (h _ ?_)) fun h => h.unsubscription hstop
    unfold stop
    rw [hstop]
    rfl
  by_cases hdisconnect : b.disconnection = .error .timeout
  · refine iff_of_false (fun h => timeout_not_caught (h _ ?_)) fun h => h.disconnection hdisconnect
    unfold stop asyncDisconnect
    rw [orLogged_ok hstop, hdisconnect]
    rfl
  have hreply : (do
      stop b
      asyncDisconnect b
      let reply ← query aes b version key mtuSize
      pure reply.data) = (query aes b version key mtuSize).map (·.data) := by
    unfold stop asyncDisconnect
    rw [orLogged_ok hstop, orLogged_ok hdisconnect]
    rfl
  have herrors : (∀ err, (query aes b version key mtuSize).map (·.data) = .error err → Caught err) ↔
      ∀ err, query aes b version key mtuSize = .error err → Caught err := by
    cases query aes b version key mtuSize with
    | ok reply => exact iff_of_true nofun nofun
    | error e =>
      constructor
      · intro h err herr
        exact h err (congrArg Except.error (Except.error.inj herr))
      · intro h err herr
        exact h err (congrArg Except.error (Except.error.inj herr))
  rw [hreply, herrors, query_caught_iff]
  exact ⟨fun h => ⟨h.1, hstop, hdisconnect, h.2⟩, fun h => ⟨h.subscription, h.query⟩⟩

/-- What the coordinator makes of what its session returns or raises. -/
def received : Except PyError Bytes → Except PyError (Option LockStatus)
  | .ok data => .ok (some (LockStatus.parse data))
  | .error err => if err.isBleError ∨ err.isProtocolError then .ok none else .error err

/-- The read of a coordinator does not raise exactly if what its session raises is caught. -/
theorem run_ok_iff {c : LockUpdateCoordinator} (havailable : c.bluetoothAvailable = true)
    (hrange : c.inRange = true) (hcredentials : c.bleCredentials = some (version, key)) :
    (∃ status, (asyncReadStateBle.run (radio aes b) c).1 = .ok status) ↔
      ∀ err, asyncReadStatus aes b version key = .error err → Caught err := by
  have hreply : (radio aes b (.queryLockStatus c.data.mac c.data.name version key) c) =
    (asyncReadStatus aes b version key, c) := rfl
  have hrun : (asyncReadStateBle.run (radio aes b) c).1 =
      received (asyncReadStatus aes b version key) := by
    cases hread : asyncReadStatus aes b version key with
    | ok data =>
      rw [hread] at hreply
      simp [asyncReadStateBle, run_bind, run_tryCatch, havailable, hrange, hcredentials,
        Api.asyncReadStatus, hreply, received]
    | error err =>
      rw [hread] at hreply
      simp [asyncReadStateBle, run_bind, run_tryCatch, havailable, hrange, hcredentials,
        Api.asyncReadStatus, hreply, received]
      split_ifs <;> rfl
  rw [hrun]
  cases asyncReadStatus aes b version key with
  | ok data => exact iff_of_true ⟨_, rfl⟩ nofun
  | error e =>
    by_cases hcaught : Caught e
    · refine iff_of_true ⟨none, if_pos hcaught⟩ fun err herr => ?_
      rw [← Except.error.inj herr]
      exact hcaught
    · refine iff_of_false ?_ fun h => hcaught (h e rfl)
      rintro ⟨status, hstatus⟩
      have hnot : ¬ (e.isBleError = true ∨ e.isProtocolError = true) := hcaught
      rw [received, if_neg hnot] at hstatus
      cases hstatus

end Read

/-- **A local read raises nothing** exactly if, whenever there is a connection, it is harmless. -/
theorem asyncReadStateBle_ok_iff (aes : BlockCipher) (b : Behaviour) (c : LockUpdateCoordinator) :
    (∃ status, (asyncReadStateBle.run (radio aes b) c).1 = .ok status) ↔
      (c.bluetoothAvailable = true → c.inRange = true →
        ∀ version key, c.bleCredentials = some (version, key) → b.reachable = true →
          ∀ mtuSize, b.connection = .ok mtuSize → Harmless b version key) := by
  by_cases hpresent : c.bluetoothAvailable = true ∧ c.inRange = true
  swap
  · refine iff_of_true ⟨none, ?_⟩ fun havailable hrange => absurd ⟨havailable, hrange⟩ hpresent
    have habsent : ¬ c.bluetoothAvailable = true ∨ ¬ c.inRange = true := not_and_or.mp hpresent
    simp only [asyncReadStateBle, run_bind, run_get, if_pos habsent, run_pure]
  obtain ⟨havailable, hrange⟩ := hpresent
  cases hcredentials : c.bleCredentials with
  | none =>
    refine iff_of_true ⟨none, ?_⟩ nofun
    simp [asyncReadStateBle, run_bind, havailable, hrange, hcredentials]
  | some credentials =>
    obtain ⟨version, key⟩ := credentials
    rw [run_ok_iff havailable hrange hcredentials]
    cases hconnect : asyncConnect b with
    | error e =>
      have hread : asyncReadStatus aes b version key = .error e := by
        unfold asyncReadStatus
        rw [hconnect]
        rfl
      refine iff_of_true ?_ fun _ _ _ _ _ hreachable mtuSize hconnection => ?_
      · intro err herr
        rw [hread] at herr
        rw [← Except.error.inj herr]
        exact asyncConnect_error hconnect
      · have hok := asyncConnect_ok_iff.mpr ⟨hreachable, hconnection⟩
        exact absurd (hconnect.symm.trans hok) nofun
    | ok mtuSize =>
      rw [asyncReadStatus_caught_iff hconnect]
      obtain ⟨hreachable, hconnection⟩ := asyncConnect_ok_iff.mp hconnect
      constructor
      · intro h _ _ version' key' heq _ _ _
        obtain ⟨rfl, rfl⟩ := Prod.mk.inj (Option.some.inj heq)
        exact h
      · intro h
        exact h havailable hrange version key rfl hreachable mtuSize hconnection

/-! ### An odd protocol value -/

/-- A connection over which all goes well and the lock does not answer. -/
def silent : Behaviour where
  reachable := true
  connection := .ok none
  subscription := .ok ()
  written _ := .ok ()
  heard := []
  unsubscription := .ok ()
  disconnection := .ok ()

/-- A lock in range, whose `scene` the cloud gives as 256. -/
def oddLock : LockUpdateCoordinator where
  lockId := 7
  connectable := true
  hasGateway := true
  slowInterval := 1
  slowInterval_pos := Int.one_pos
  webhookOnly := false
  bluetoothAvailable := true
  inRange := true
  bleVersion := some [("protocolType", 5), ("protocolVersion", 3), ("scene", 256), ("groupId", 10),
    ("orgId", 1)]
  bleKey := some "000102030405060708090a0b0c0d0e0f"
  data := { name := "door", mac := "00:00" }
  now := ⟨0, 0⟩

/-- **An odd protocol value raises.** -/
theorem oddLock_raises : ¬ ∀ (aes : BlockCipher) (b : Behaviour) (c : LockUpdateCoordinator),
    ∃ status, (asyncReadStateBle.run (radio aes b) c).1 = .ok status := by
  intro hall
  obtain ⟨status, hstatus⟩ := hall sampleAes silent oddLock
  have hraised : (asyncReadStateBle.run (radio sampleAes silent) oddLock).1 =
    .error .valueError := by decide +kernel
  rw [hraised] at hstatus
  cases hstatus

end TTLockConnect.Ble.LocalRead
