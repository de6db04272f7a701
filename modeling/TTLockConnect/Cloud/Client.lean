import TTLockConnect.Async.Mutex
import TTLockConnect.Models

/-! # The methods of `TTLockApi`

Every method of the API client down to its awaits: the token, the request, and the body of the
response. `GW_LOCK` is the lock of the event loop, one for all clients. Of a body there is what the
methods branch on; of what pydantic validates there is whether it raises. Whether a token is still
valid is asked like a request, since it depends on the time. -/

namespace TTLockConnect.Cloud.Client

open TTLockConnect.Text TTLockConnect.Models
open TTLockConnect.Async.Coroutine TTLockConnect.Async.Coroutine.Coro TTLockConnect.Async.Mutex

/-! ### Requests -/

inductive Verb where
  | get
  | post
  deriving DecidableEq, Repr

/-- The value of a parameter. -/
inductive Value where
  | int (n : ℤ)
  | str (s : String)
  | none
  /-- `json.dumps` of a list of numbers. -/
  | dumped (ns : List ℤ)
  deriving DecidableEq, Repr

abbrev Kwargs := List (String × Value)

/-- The JSON body of a response. -/
structure Body where
  errcode : Option ℤ
  errmsg : Option String
  keyId : Option ℤ
  /-- What the model of the method makes of it. -/
  validated : Except PyError Unit
  deriving Repr

/-- What a method awaits. -/
inductive HttpRequest where
  /-- `oauth_session.valid_token` of a client -/
  | validToken (client : ℕ)
  /-- `async_ensure_token_valid` -/
  | ensureTokenValid (client : ℕ)
  /-- a request, up to the status of its response -/
  | send (verb : Verb) (path : String) (kwargs : Kwargs)
  /-- `resp.text()` of the response to a request -/
  | text (path : String)
  /-- `resp.json()` -/
  | json (path : String)
  deriving DecidableEq, Repr

abbrev HttpReply : HttpRequest → Type
  | .validToken _ => Bool
  | .ensureTokenValid _ => Unit
  | .send _ _ _ => ℕ
  | .text _ => String
  | .json _ => Body

/-- A coroutine of the API client. -/
abbrev Method (α : Type) := Locking Unit HttpRequest HttpReply PyError α

/-- `async_get_access_token`. -/
def asyncGetAccessToken (client : ℕ) : Method Unit := do
  let validToken : Bool ← ask (HttpRequest.validToken client)
  if validToken then pure ()
  else ask (HttpRequest.ensureTokenValid client)

/-- `_parse_resp`. -/
def parseResp (path : String) (status : ℕ) : Method Body := do
  if 400 ≤ status then
    let _ ← ask (HttpRequest.text path)
    throw .clientResponseError
  else
    let _ ← ask (HttpRequest.json path)
    let res : Body ← ask (HttpRequest.json path)
    if res.errcode.getD 0 ≠ 0 then throw .requestFailed
    else ask (HttpRequest.json path)

/-- `get` and `post`. -/
def send (client : ℕ) (verb : Verb) (path : String) (kwargs : Kwargs) : Method Body := do
  asyncGetAccessToken client
  let status : ℕ ← ask (HttpRequest.send verb path kwargs)
  parseResp path status

/-- `not ("errcode" in res and res["errcode"] != 0)`, with the error message logged. -/
def accepted (res : Body) : Method Bool :=
  if res.errcode.getD 0 ≠ 0 then
    match res.errmsg with
    | some _ => pure false
    | none => throw .keyError
  else pure true

/-- A request whose body is validated. -/
def read (client : ℕ) (path : String) (kwargs : Kwargs) : Method Unit := do
  let res ← send client .get path kwargs
  fromExcept res.validated

/-- A request that is accepted or not. -/
def change (client : ℕ) (path : String) (kwargs : Kwargs) : Method Bool := do
  let res ← send client .post path kwargs
  accepted res

/-- A command that a gateway relays: under `GW_LOCK`. -/
def relay (client : ℕ) (verb : Verb) (path : String) (kwargs : Kwargs) : Method Bool := do
  let res ← withLock (send client verb path kwargs)
  accepted res

/-- An optional parameter. -/
def optionalInt (key : String) : Option ℤ → Kwargs
  | some n => [(key, .int n)]
  | none => []

/-- An optional parameter. -/
def optionalStr (key : String) : Option String → Kwargs
  | some s => [(key, .str s)]
  | none => []

def strOrNone : Option String → Value
  | some s => .str s
  | none => .none

section Methods
variable (client : ℕ) (lockId : ℤ)

/-! ### Locks and gateways -/

/-- `get_locks`. -/
def getLocks : Method Unit := read client "lock/list" [("pageNo", .int 1), ("pageSize", .int 1000)]

/-- `get_gateways`. -/
def getGateways : Method Unit :=
  read client "gateway/list" [("pageNo", .int 1), ("pageSize", .int 1000)]

/-- `get_gateways_for_lock`. -/
def getGatewaysForLock : Method Unit := read client "gateway/listByLock" [("lockId", .int lockId)]

/-- `get_lock`. -/
def getLock : Method Unit := read client "lock/detail" [("lockId", .int lockId)]

/-- `get_sensor`. -/
def getSensor : Method Unit :=
  tryCatch (read client "doorSensor/query" [("lockId", .int lockId)]) fun err =>
    if err = .requestFailed then pure () else throw err

/-- `get_lock_state`. -/
def getLockState : Method Unit := do
  let res ← withLock (send client .get "lock/queryOpenState" [("lockId", .int lockId)])
  fromExcept res.validated

/-- `get_lock_passage_mode_config`. -/
def getLockPassageModeConfig : Method Unit :=
  read client "lock/getPassageModeConfig" [("lockId", .int lockId)]

/-- `lock`. -/
def lock : Method Bool := relay client .get "lock/lock" [("lockId", .int lockId)]

/-- `unlock`. -/
def unlock : Method Bool := relay client .get "lock/unlock" [("lockId", .int lockId)]

/-- `set_passage_mode`. -/
def setPassageMode (config : PassageModeConfig) : Method Bool :=
  relay client .post "lock/configPassageMode"
    [("lockId", .int lockId), ("type", .int 2),
      ("passageMode", .int (if config.enabled.toBool then 1 else 2)),
      ("autoUnlock", .int (if config.autoUnlock.toBool then 1 else 2)),
      ("isAllDay", .int (if config.allDay.toBool then 1 else 2)),
      ("startDate", .int config.startMinute), ("endDate", .int config.endMinute),
      ("weekDays", .dumped config.weekDays)]

/-! ### Passcodes -/

/-- `AddPasscodeConfig`. -/
structure AddPasscodeConfig where
  passcode : Option String
  passcodeName : Option String
  startMinute : Option ℤ
  endMinute : Option ℤ
  deriving DecidableEq, Repr

/-- `add_passcode`: a temporary passcode if there are dates. -/
def addPasscode (config : AddPasscodeConfig) : Method Bool :=
  let validity : Kwargs :=
    if config.startMinute.isSome ∨ config.endMinute.isSome then
      ("keyboardPwdType", .int 3) :: (optionalInt "startDate" config.startMinute ++
        optionalInt "endDate" config.endMinute)
    else [("keyboardPwdType", .int 2)]
  relay client .post "keyboardPwd/add"
    ([("lockId", .int lockId), ("addType", .int 2), ("keyboardPwd", strOrNone config.passcode),
      ("keyboardPwdName", strOrNone config.passcodeName)] ++ validity)

/-- `modify_passcode`. -/
def modifyPasscode (passcodeId : ℤ) (config : AddPasscodeConfig) : Method Bool :=
  relay client .post "keyboardPwd/change"
    ([("lockId", .int lockId), ("changeType", .int 2), ("keyboardPwdId", .int passcodeId)] ++
      optionalStr "newKeyboardPwd" config.passcode ++
      optionalStr "keyboardPwdName" config.passcodeName ++
      optionalInt "startDate" config.startMinute ++ optionalInt "endDate" config.endMinute)

/-- `list_passcodes`. -/
def listPasscodes : Method Unit := read client "lock/listKeyboardPwd"
  [("lockId", .int lockId), ("pageNo", .int 1), ("pageSize", .int 100)]

/-- `delete_passcode`. -/
def deletePasscode (passcodeId : ℤ) : Method Bool := relay client .post "keyboardPwd/delete"
  [("lockId", .int lockId), ("deleteType", .int 2), ("keyboardPwdId", .int passcodeId)]

/-! ### Cards and fingerprints -/

/-- A page of 200, ordered. -/
def listPage (path : String) : Method Unit := read client path
  [("lockId", .int lockId), ("pageNo", .int 1), ("pageSize", .int 200), ("orderBy", .int 1)]

/-- `list_cards`. -/
def listCards : Method Unit := listPage client lockId "identityCard/list"

/-- `rename_card`. -/
def renameCard (cardId : ℤ) (name : String) : Method Bool := change client "identityCard/rename"
  [("lockId", .int lockId), ("cardId", .int cardId), ("cardName", .str name)]

/-- `delete_card`. -/
def deleteCard (cardId : ℤ) : Method Bool := relay client .post "identityCard/delete"
  [("lockId", .int lockId), ("cardId", .int cardId), ("deleteType", .int 2)]

/-- `list_fingerprints`. -/
def listFingerprints : Method Unit := listPage client lockId "fingerprint/list"

/-- `rename_fingerprint`. -/
def renameFingerprint (fingerprintId : ℤ) (name : String) : Method Bool :=
  change client "fingerprint/rename" [("lockId", .int lockId),
    ("fingerprintId", .int fingerprintId), ("fingerprintName", .str name)]

/-- `delete_fingerprint`. -/
def deleteFingerprint (fingerprintId : ℤ) : Method Bool := relay client .post "fingerprint/delete"
  [("lockId", .int lockId), ("fingerprintId", .int fingerprintId), ("deleteType", .int 2)]

/-! ### Ekeys -/

/-- `list_ekeys`. -/
def listEkeys : Method Unit := listPage client lockId "lock/listKey"

/-- `1 if remote_enable else 2`, if it is given. -/
def remoteEnableParam : Option Bool → Kwargs
  | some b => [("remoteEnable", .int (if b then 1 else 2))]
  | none => []

/-- `send_ekey`. -/
def sendEkey (receiverUsername name : String) (startMs endMs : ℤ) (remarks : Option String)
    (remoteEnable : Option Bool) (createUser : Bool) : Method (Option ℤ) := do
  let res ← send client .post "key/send"
    ([("lockId", .int lockId), ("receiverUsername", .str receiverUsername), ("keyName", .str name),
      ("startDate", .int startMs), ("endDate", .int endMs)] ++
      optionalStr "remarks" (remarks.filter (· ≠ "")) ++ remoteEnableParam remoteEnable ++
      if createUser then [("createUser", .int 1)] else [])
  pure res.keyId

/-- A request about a key whose body is not looked at. -/
def changeEkey (path : String) (keyId : ℤ) (kwargs : Kwargs) : Method Unit := do
  let _ ← send client .post path (("keyId", .int keyId) :: kwargs)

/-- `delete_ekey`. -/
def deleteEkey (keyId : ℤ) : Method Unit := changeEkey client "key/delete" keyId []

/-- `freeze_ekey`. -/
def freezeEkey (keyId : ℤ) : Method Unit := changeEkey client "key/freeze" keyId []

/-- `unfreeze_ekey`. -/
def unfreezeEkey (keyId : ℤ) : Method Unit := changeEkey client "key/unfreeze" keyId []

/-- `set_ekey_period`. -/
def setEkeyPeriod (keyId startMs endMs : ℤ) : Method Unit :=
  changeEkey client "key/changePeriod" keyId [("startDate", .int startMs), ("endDate", .int endMs)]

/-- `modify_ekey`. -/
def modifyEkey (keyId : ℤ) (name : Option String) (remoteEnable : Option Bool) : Method Unit :=
  changeEkey client "key/update" keyId (optionalStr "keyName" name ++ remoteEnableParam remoteEnable)

/-! ### Settings and records -/

/-- `set_auto_lock`. -/
def setAutoLock (seconds : ℤ) : Method Bool := relay client .post "lock/setAutoLockTime"
  [("lockId", .int lockId), ("seconds", .int seconds), ("type", .int 2)]

/-- `set_lock_sound`. -/
def setLockSound (value : ℤ) : Method Bool := relay client .post "lock/updateSetting"
  [("lockId", .int lockId), ("value", .int value), ("type", .int 6), ("changeType", .int 2)]

/-- `get_lock_records`, `date` being the time of the call. -/
def getLockRecords (date : String) (startDate endDate : Option ℤ) (pageNo pageSize : ℤ) :
    Method Unit := read client "lockRecord/list"
  ([("lockId", .int lockId), ("pageNo", .int pageNo), ("pageSize", .int (min pageSize 200)),
    ("date", .str date)] ++ optionalInt "startDate" startDate ++ optionalInt "endDate" endDate)

end Methods

/-! ### Calls -/

/-- A call of a method. -/
inductive MethodCall where
  | getLocks
  | getGateways
  | getGatewaysForLock (lockId : ℤ)
  | getLock (lockId : ℤ)
  | getSensor (lockId : ℤ)
  | getLockState (lockId : ℤ)
  | getLockPassageModeConfig (lockId : ℤ)
  | lock (lockId : ℤ)
  | unlock (lockId : ℤ)
  | setPassageMode (lockId : ℤ) (config : PassageModeConfig)
  | addPasscode (lockId : ℤ) (config : AddPasscodeConfig)
  | modifyPasscode (lockId passcodeId : ℤ) (config : AddPasscodeConfig)
  | listPasscodes (lockId : ℤ)
  | deletePasscode (lockId passcodeId : ℤ)
  | listCards (lockId : ℤ)
  | renameCard (lockId cardId : ℤ) (name : String)
  | deleteCard (lockId cardId : ℤ)
  | listFingerprints (lockId : ℤ)
  | renameFingerprint (lockId fingerprintId : ℤ) (name : String)
  | deleteFingerprint (lockId fingerprintId : ℤ)
  | listEkeys (lockId : ℤ)
  | sendEkey (lockId : ℤ) (receiverUsername name : String) (startMs endMs : ℤ)
      (remarks : Option String) (remoteEnable : Option Bool) (createUser : Bool)
  | deleteEkey (keyId : ℤ)
  | freezeEkey (keyId : ℤ)
  | unfreezeEkey (keyId : ℤ)
  | setEkeyPeriod (keyId startMs endMs : ℤ)
  | modifyEkey (keyId : ℤ) (name : Option String) (remoteEnable : Option Bool)
  | setAutoLock (lockId seconds : ℤ)
  | setLockSound (lockId value : ℤ)
  | getLockRecords (lockId : ℤ) (date : String) (startDate endDate : Option ℤ)
      (pageNo pageSize : ℤ)
  deriving DecidableEq, Repr

/-- A call by one of the clients of the process. -/
structure ApiCall where
  client : ℕ
  method : MethodCall
  deriving DecidableEq, Repr

/-- A method run for its effect. -/
def forEffect {α : Type} (m : Method α) : Method Unit := do
  let _ ← m

/-- What a call runs. -/
def ApiCall.run (c : ApiCall) : Method Unit :=
  match c.method with
  | .getLocks => Client.getLocks c.client
  | .getGateways => Client.getGateways c.client
  | .getGatewaysForLock lockId => Client.getGatewaysForLock c.client lockId
  | .getLock lockId => Client.getLock c.client lockId
  | .getSensor lockId => Client.getSensor c.client lockId
  | .getLockState lockId => Client.getLockState c.client lockId
  | .getLockPassageModeConfig lockId => Client.getLockPassageModeConfig c.client lockId
  | .lock lockId => forEffect (Client.lock c.client lockId)
  | .unlock lockId => forEffect (Client.unlock c.client lockId)
  | .setPassageMode lockId config => forEffect (Client.setPassageMode c.client lockId config)
  | .addPasscode lockId config => forEffect (Client.addPasscode c.client lockId config)
  | .modifyPasscode lockId passcodeId config =>
    forEffect (Client.modifyPasscode c.client lockId passcodeId config)
  | .listPasscodes lockId => Client.listPasscodes c.client lockId
  | .deletePasscode lockId passcodeId =>
    forEffect (Client.deletePasscode c.client lockId passcodeId)
  | .listCards lockId => Client.listCards c.client lockId
  | .renameCard lockId cardId name => forEffect (Client.renameCard c.client lockId cardId name)
  | .deleteCard lockId cardId => forEffect (Client.deleteCard c.client lockId cardId)
  | .listFingerprints lockId => Client.listFingerprints c.client lockId
  | .renameFingerprint lockId fingerprintId name =>
    forEffect (Client.renameFingerprint c.client lockId fingerprintId name)
  | .deleteFingerprint lockId fingerprintId =>
    forEffect (Client.deleteFingerprint c.client lockId fingerprintId)
  | .listEkeys lockId => Client.listEkeys c.client lockId
  | .sendEkey lockId receiverUsername name startMs endMs remarks remoteEnable createUser =>
    forEffect (Client.sendEkey c.client lockId receiverUsername name startMs endMs remarks
      remoteEnable createUser)
  | .deleteEkey keyId => Client.deleteEkey c.client keyId
  | .freezeEkey keyId => Client.freezeEkey c.client keyId
  | .unfreezeEkey keyId => Client.unfreezeEkey c.client keyId
  | .setEkeyPeriod keyId startMs endMs => Client.setEkeyPeriod c.client keyId startMs endMs
  | .modifyEkey keyId name remoteEnable => Client.modifyEkey c.client keyId name remoteEnable
  | .setAutoLock lockId seconds => forEffect (Client.setAutoLock c.client lockId seconds)
  | .setLockSound lockId value => forEffect (Client.setLockSound c.client lockId value)
  | .getLockRecords lockId date startDate endDate pageNo pageSize =>
    Client.getLockRecords c.client lockId date startDate endDate pageNo pageSize

end TTLockConnect.Cloud.Client
