import TTLockConnect.Cloud.Client

/-! # One command on the gateways at a time

The methods of `TTLockApi` are orderly for `GW_LOCK`: the eleven that send a command through a
gateway do so, and read the response, within it; the others neither take it nor send such a command. -/

namespace TTLockConnect.Cloud.Exclusion

open TTLockConnect.Text TTLockConnect.Async.Coroutine TTLockConnect.Async.Coroutine.Coro
open TTLockConnect.Async.Runs TTLockConnect.Async.EventLoop TTLockConnect.Async.Mutex
open TTLockConnect.Cloud.Client

/-- The requests that a gateway relays. -/
def relayedPaths : List String :=
  ["lock/queryOpenState", "lock/lock", "lock/unlock", "lock/configPassageMode", "keyboardPwd/add",
    "keyboardPwd/change", "keyboardPwd/delete", "identityCard/delete", "fingerprint/delete",
    "lock/setAutoLockTime", "lock/updateSetting"]

/-- A request that a gateway relays has been sent, and its response is not yet parsed. -/
def isRelayed : HttpRequest → Bool
  | .send _ path _ | .text path | .json path => relayedPaths.contains path
  | .validToken _ | .ensureTokenValid _ => false

/-- The methods that send a command through a gateway. -/
def viaGateway : MethodCall → Bool
  | .getLockState _ | .lock _ | .unlock _ | .setPassageMode _ _ | .addPasscode _ _
  | .modifyPasscode _ _ _ | .deletePasscode _ _ | .deleteCard _ _ | .deleteFingerprint _ _
  | .setAutoLock _ _ | .setLockSound _ _ => true
  | _ => false

section Orderly
variable {may : Prop} {α : Type} {Q : Bool → Guarded Unit → Except PyError α → Prop} {held : Bool}
  {s : Guarded Unit} {client : ℕ} {verb : Verb} {path : String} {kwargs : Kwargs}

theorem orderly_fromExcept {r : Except PyError α} (h : Q held s r) :
    Orderly isRelayed may Q (fromExcept r : Method α) held s := by
  cases r with
  | ok a => exact h
  | error e => exact h

theorem orderly_accepted {res : Body} {Q : Bool → Guarded Unit → Except PyError Bool → Prop}
    (hQ : ∀ r, Q held s r) : Orderly isRelayed may Q (accepted res) held s := by
  unfold accepted
  split_ifs
  · split
    · exact hQ _
    · exact hQ _
  · exact hQ _

theorem orderly_parseResp {status : ℕ} {Q : Bool → Guarded Unit → Except PyError Body → Prop}
    (hp : held = true ∨ relayedPaths.contains path = false) (hQ : ∀ s r, Q held s r) :
    Orderly isRelayed may Q (parseResp path status) held s := by
  unfold parseResp
  split_ifs
  · exact orderly_ask_bind hp (fun e s _ => hQ s _) fun _ s _ => hQ s _
  · refine orderly_ask_bind hp (fun e s _ => hQ s _) fun _ s _ => ?_
    refine orderly_ask_bind hp (fun e s _ => hQ s _) fun res s _ => ?_
    split_ifs
    · exact hQ s _
    · exact orderly_ask hp fun r s _ => hQ s r

theorem orderly_asyncGetAccessToken {Q : Bool → Guarded Unit → Except PyError Unit → Prop}
    (hQ : ∀ s r, Q held s r) : Orderly isRelayed may Q (asyncGetAccessToken client) held s := by
  refine orderly_ask_bind (.inr rfl) (fun e s _ => hQ s _) fun validToken s _ => ?_
  cases validToken with
  | true => exact hQ s _
  | false => exact orderly_ask (.inr rfl) fun r s _ => hQ s r

/-- A request and its response: what is relayed needs the lock. -/
theorem orderly_send {Q : Bool → Guarded Unit → Except PyError Body → Prop}
    (hp : held = true ∨ relayedPaths.contains path = false) (hQ : ∀ s r, Q held s r) :
    Orderly isRelayed may Q (send client verb path kwargs) held s := by
  refine orderly_bind _ (orderly_asyncGetAccessToken fun s r => ?_)
  cases r with
  | error e => exact hQ s _
  | ok _ =>
    exact orderly_ask_bind hp (fun e s _ => hQ s _) fun status s _ => orderly_parseResp hp hQ

end Orderly

section Calls
variable {may : Prop} {client : ℕ} {verb : Verb} {path : String} {kwargs : Kwargs}
  {s : Guarded Unit}

/-- It ends without the lock. -/
abbrev Ends {α : Type} : Bool → Guarded Unit → Except PyError α → Prop :=
  fun held _ _ => held = false

theorem orderly_read (hp : relayedPaths.contains path = false) :
    Orderly isRelayed may Ends (read client path kwargs) false s := by
  refine orderly_bind _ (orderly_send (.inr hp) fun s r => ?_)
  cases r with
  | error e => rfl
  | ok res => exact orderly_fromExcept rfl

theorem orderly_getSensor {lockId : ℤ} :
    Orderly isRelayed may Ends (getSensor client lockId) false s := by
  refine orderly_tryCatch _ (orderly_mono (fun held s r hheld => ?_) _ (orderly_read (by decide)))
  cases r with
  | ok a => exact hheld
  | error e =>
    dsimp only
    split_ifs
    · exact hheld
    · exact hheld

theorem orderly_post {α : Type} {f : Body → Method α} (hp : relayedPaths.contains path = false)
    (hf : ∀ res s, Orderly isRelayed may Ends (f res) false s) :
    Orderly isRelayed may Ends (send client verb path kwargs >>= f) false s := by
  refine orderly_bind _ (orderly_send (.inr hp) fun s r => ?_)
  cases r with
  | error e => rfl
  | ok res => exact hf res s

/-- **A command is sent, and its response read, within `GW_LOCK`.** -/
theorem orderly_locked (hmay : may) {α : Type} {f : Body → Method α}
    (hf : ∀ res s, Orderly isRelayed may Ends (f res) false s) :
    Orderly isRelayed may Ends (withLock (send client verb path kwargs) >>= f) false s := by
  refine orderly_bind _ (orderly_withLock hmay
    (fun s _ => orderly_send (.inl rfl) fun _ _ => rfl) fun s r => ?_)
  cases r with
  | error e => rfl
  | ok res => exact hf res s

theorem orderly_forEffect {α : Type} {m : Method α} (hm : Orderly isRelayed may Ends m false s) :
    Orderly isRelayed may Ends (forEffect m) false s := by
  refine orderly_bind _ (orderly_mono (fun held s r hheld => ?_) _ hm)
  cases r with
  | ok a => exact hheld
  | error e => exact hheld

theorem orderly_relay (hmay : may) :
    Orderly isRelayed may Ends (forEffect (relay client verb path kwargs)) false s :=
  orderly_forEffect (orderly_locked hmay fun _ _ => orderly_accepted fun _ => rfl)

theorem orderly_change (hp : relayedPaths.contains path = false) :
    Orderly isRelayed may Ends (forEffect (change client path kwargs)) false s :=
  orderly_forEffect (orderly_post hp fun _ _ => orderly_accepted fun _ => rfl)

theorem orderly_changeEkey {keyId : ℤ} (hp : relayedPaths.contains path = false) :
    Orderly isRelayed may Ends (changeEkey client path keyId kwargs) false s :=
  orderly_post hp fun _ _ => rfl

end Calls

/-- **Every method is orderly**, and only those that send a command take the lock. -/
theorem orderly_run (c : ApiCall) (s : Guarded Unit) :
    Orderly isRelayed (viaGateway c.method = true) Ends c.run false s := by
  obtain ⟨client, method⟩ := c
  cases method with
  | getLocks => exact orderly_read (by decide)
  | getGateways => exact orderly_read (by decide)
  | getGatewaysForLock lockId => exact orderly_read (by decide)
  | getLock lockId => exact orderly_read (by decide)
  | getSensor lockId => exact orderly_getSensor
  | getLockState lockId => exact orderly_locked rfl fun _ _ => orderly_fromExcept rfl
  | getLockPassageModeConfig lockId => exact orderly_read (by decide)
  | lock lockId => exact orderly_relay rfl
  | unlock lockId => exact orderly_relay rfl
  | setPassageMode lockId config => exact orderly_relay rfl
  | addPasscode lockId config => exact orderly_relay rfl
  | modifyPasscode lockId passcodeId config => exact orderly_relay rfl
  | listPasscodes lockId => exact orderly_read (by decide)
  | deletePasscode lockId passcodeId => exact orderly_relay rfl
  | listCards lockId => exact orderly_read (by decide)
  | renameCard lockId cardId name => exact orderly_change (by decide)
  | deleteCard lockId cardId => exact orderly_relay rfl
  | listFingerprints lockId => exact orderly_read (by decide)
  | renameFingerprint lockId fingerprintId name => exact orderly_change (by decide)
  | deleteFingerprint lockId fingerprintId => exact orderly_relay rfl
  | listEkeys lockId => exact orderly_read (by decide)
  | sendEkey lockId receiverUsername name startMs endMs remarks remoteEnable createUser =>
    exact orderly_forEffect (orderly_post (by decide) fun _ _ => rfl)
  | deleteEkey keyId => exact orderly_changeEkey (by decide)
  | freezeEkey keyId => exact orderly_changeEkey (by decide)
  | unfreezeEkey keyId => exact orderly_changeEkey (by decide)
  | setEkeyPeriod keyId startMs endMs => exact orderly_changeEkey (by decide)
  | modifyEkey keyId name remoteEnable => exact orderly_changeEkey (by decide)
  | setAutoLock lockId seconds => exact orderly_relay rfl
  | setLockSound lockId value => exact orderly_relay rfl
  | getLockRecords lockId date startDate endDate pageNo pageSize => exact orderly_read (by decide)

/-! ### Runs -/

/-- The calls of all clients on one event loop. -/
abbrev Loop := Pool (Guarded Unit) (Demand HttpRequest) (Grant HttpReply) PyError ApiCall

abbrev LoopLabel := Label (Grant HttpReply) PyError ApiCall

/-- No call yet, and `GW_LOCK` free. -/
def idle : Loop := ⟨⟨false, ()⟩, []⟩

/-- **Commands through the gateways exclude each other.** -/
theorem run_gateway_exclusive {τ : List (Move Loop LoopLabel)} {P : Loop}
    (hr : Run (step ApiCall.run) idle τ P) :
    P.tasks.countP (fun t => t.req.isCritical isRelayed) ≤ 1 ∧
      ((∀ t ∈ P.tasks, viaGateway t.job.method = false) → P.shared.locked = false) := by
  refine ⟨run_exclusive orderly_run hr, fun hfree => run_free orderly_run hr fun t ht hmay => ?_⟩
  rw [hfree t ht] at hmay
  cases hmay

/-- Everything is granted. -/
def granting : (q : Demand HttpRequest) → Except PyError (Grant HttpReply q)
  | .acquire => .ok ()
  | .ask (.validToken _) => .ok true
  | .ask (.ensureTokenValid _) => .ok ()
  | .ask (.send _ _ _) => .ok 200
  | .ask (.text _) => .ok ""
  | .ask (.json _) => .ok ⟨some 0, none, none, .ok ()⟩

/-- Two commands of two clients, the second while the first is on its way. -/
theorem run_gateway_exclusive_two :
    (play (step ApiCall.run) idle
      [.start ⟨0, .lock 1⟩, .start ⟨1, .unlock 2⟩, .reply 0 granting, .reply 0 granting,
        .reply 0 granting]).2.tasks.countP (fun t => t.req.isCritical isRelayed) ≤ 1 :=
  (run_gateway_exclusive (run_play idle _)).1

end TTLockConnect.Cloud.Exclusion
