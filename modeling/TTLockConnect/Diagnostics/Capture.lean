import TTLockConnect.Diagnostics.Secrets

/-! # The capture of a lock's traffic

`LockTrafficCapture` keeps the last messages about each lock, redacted argument by argument, and
`TTLockApi` and `WebhookHandler` feed it with every request, every reply and every post. Two runs
capture the same as long as what they capture is the same behind the redaction. -/

namespace TTLockConnect.Diagnostics.Capture

open TTLockConnect.Text TTLockConnect.Models TTLockConnect.Api TTLockConnect.Webhook.Records
open TTLockConnect.Diagnostics.Redaction TTLockConnect.Diagnostics.Replies
open TTLockConnect.Diagnostics.Secrets

/-! ### Messages -/

/-- An argument of a message: a value, or the `MultiDictProxy` of a post, which is no dict. -/
inductive Arg where
  | value (v : JsonValue)
  | form (post : Post)

/-- `_redact_arg`. -/
def redactArg : Arg → Arg
  | .value (.dict fields) => .value (asyncRedactData (.dict fields))
  | .value (.list items) => .value (asyncRedactData (.list items))
  | arg => arg

theorem redactArg_value (v : JsonValue) : redactArg (.value v) = .value (asyncRedactData v) := by
  cases v with
  | dict fields => rfl
  | list items => rfl
  | _ => rfl

/-- `msg % args`, for a message whose only conversions are `%s`. -/
def percent (str : Arg → String) : List Char → List Arg → List Char
  | '%' :: 's' :: msg, arg :: args => (str arg).toList ++ percent str msg args
  | c :: msg, args => c :: percent str msg args
  | [], _ => []

/-- A message and its arguments. -/
abbrev Message := String × List Arg

/-- The text of a message, its arguments redacted. -/
def rendered (str : Arg → String) (m : Message) : String :=
  let redactedArgs := m.2.map redactArg
  if redactedArgs = [] then m.1 else String.ofList (percent str m.1.toList redactedArgs)

/-! ### The buffers -/

/-- `MAX_RECORDS_PER_LOCK`. -/
def MAX_RECORDS_PER_LOCK : ℕ := 200

/-- `deque(maxlen=maxlen)`. -/
structure Deque (α : Type) (maxlen : ℕ) where
  items : List α
  bounded : items.length ≤ maxlen

/-- `deque.append`, which drops from the front what is too much. -/
def Deque.append {α : Type} {maxlen : ℕ} (d : Deque α maxlen) (a : α) : Deque α maxlen where
  items := (d.items ++ [a]).drop (d.items.length + 1 - maxlen)
  bounded := by
    have hd := d.bounded
    rw [List.length_drop, List.length_append, List.length_singleton]
    omega

/-- `CapturedRecord`. -/
structure CapturedRecord where
  timestamp : Instant
  level : String
  message : String

/-- `LockTrafficCapture`; a lock without a buffer has an empty one. -/
structure LockTrafficCapture where
  buffers : ℤ → Deque CapturedRecord MAX_RECORDS_PER_LOCK

/-- The buffers before any traffic. -/
def LockTrafficCapture.empty : LockTrafficCapture := ⟨fun _ => ⟨[], Nat.zero_le _⟩⟩

/-- `LockTrafficCapture.capture`. -/
def LockTrafficCapture.capture (str : Arg → String) (self : LockTrafficCapture) (now : Instant)
    (lockId : ℤ) (level : String) (m : Message) : LockTrafficCapture :=
  ⟨Function.update self.buffers lockId
    ((self.buffers lockId).append ⟨now, level, rendered str m⟩)⟩

/-- `log_and_capture`. -/
def logAndCapture (str : Arg → String) (self : LockTrafficCapture) (now : Instant) :
    Option ℤ → Message → LockTrafficCapture
  | some lockId, m => self.capture str now lockId "DEBUG" m
  | none, _ => self

/-- `LockTrafficCapture.diagnostics_for`; a datetime is kept as its number. -/
def LockTrafficCapture.diagnosticsFor (self : LockTrafficCapture) (lockId : ℤ) : JsonValue :=
  let records := (self.buffers lockId).items
  .dict
    [("window",
      match records.head?, records.getLast? with
      | some first, some last =>
        .dict [("start", .int first.timestamp), ("end", .int last.timestamp)]
      | _, _ => .null),
    ("records", .list (records.map fun record => .dict
      [("timestamp", .int record.timestamp), ("level", .str record.level),
        ("message", .str record.message)]))]

/-! ### The traffic with the API -/

/-- `kwargs.get("lockId")`. -/
def lockIdOf (kwargs : List (String × JsonValue)) : Option ℤ :=
  match kwargs.lookup "lockId" with
  | some (.int lockId) => some lockId
  | _ => none

/-- A request of `TTLockApi.get` or `TTLockApi.post`. -/
structure HttpRequest where
  path : String
  kwargs : List (String × JsonValue)

/-- The request of a coordinator's call; not everything a coordinator awaits is one. -/
def httpRequest : Request → Option HttpRequest
  | .detail lockId => some ⟨"lock/detail", [("lockId", .int lockId)]⟩
  | .doorSensor lockId => some ⟨"doorSensor/query", [("lockId", .int lockId)]⟩
  | .queryOpenState lockId => some ⟨"lock/queryOpenState", [("lockId", .int lockId)]⟩
  | .passageModeConfig lockId => some ⟨"lock/getPassageModeConfig", [("lockId", .int lockId)]⟩
  | .listByLock lockId => some ⟨"gateway/listByLock", [("lockId", .int lockId)]⟩
  | .listKeyboardPwd lockId =>
    some ⟨"lock/listKeyboardPwd",
      [("lockId", .int lockId), ("pageNo", .int 1), ("pageSize", .int 100)]⟩
  | .listKey lockId =>
    some ⟨"lock/listKey",
      [("lockId", .int lockId), ("pageNo", .int 1), ("pageSize", .int 200), ("orderBy", .int 1)]⟩
  | .lock lockId => some ⟨"lock/lock", [("lockId", .int lockId)]⟩
  | .unlock lockId => some ⟨"lock/unlock", [("lockId", .int lockId)]⟩
  | .setAutoLockTime lockId seconds =>
    some ⟨"lock/setAutoLockTime",
      [("lockId", .int lockId), ("seconds", .int seconds), ("type", .int 2)]⟩
  | .updateSetting lockId value =>
    some ⟨"lock/updateSetting",
      [("lockId", .int lockId), ("value", .int value), ("type", .int 6), ("changeType", .int 2)]⟩
  | .queryLockStatus _ _ _ _ | .storeLoad | .storeSave | .sleep _ => none

/-- `AddPasscodeConfig`. -/
structure AddPasscodeConfig where
  passcode : Option String
  passcodeName : Option String
  startMinute : Option ℤ
  endMinute : Option ℤ

/-- A keyword that is left out without a value. -/
def keyword (key : String) : Option JsonValue → List (String × JsonValue)
  | some v => [(key, v)]
  | none => []

/-- The request of `TTLockApi.add_passcode`. -/
def addPasscode (lockId : ℤ) (config : AddPasscodeConfig) : HttpRequest where
  path := "keyboardPwd/add"
  kwargs :=
    [("lockId", .int lockId), ("addType", .int 2),
      ("keyboardPwd", (config.passcode.map JsonValue.str).getD .null),
      ("keyboardPwdName", (config.passcodeName.map JsonValue.str).getD .null)] ++
    if config.startMinute.isSome ∨ config.endMinute.isSome then
      ("keyboardPwdType", .int 3) :: keyword "startDate" (config.startMinute.map .int) ++
        keyword "endDate" (config.endMinute.map .int)
    else [("keyboardPwdType", .int 2)]

/-- What a request is captured as. -/
def sendingMessage (apiBase logId : String) (req : HttpRequest) : Message :=
  ("[%s] Sending request to %s with args=%s",
    [.value (.str logId), .value (.str (apiBase ++ req.path)), .value (.dict req.kwargs)])

/-- A reply: its status, and the text of its body. -/
structure HttpReply where
  status : ℤ
  text : String
  deriving DecidableEq, Repr

/-- `res.get("errcode", 0) != 0`. -/
def errcodeSet (lib : Library) (fields : List (String × JsonValue)) : Bool :=
  match fields.lookup "errcode" with
  | some v => equalInt lib v ≠ some 0
  | none => false

/-- `_parse_resp`: the messages it captures, and the body it returns or the error it raises. -/
def parseResp (lib : Library) (logId : String) (resp : HttpReply) :
    List Message × Except PyError JsonValue :=
  if 400 ≤ resp.status then
    ([("[%s] Request failed: status=%s, body=%s",
      [.value (.str logId), .value (.int resp.status), .value (.str resp.text)])],
      .error .clientResponseError)
  else
    match lib.loads resp.text with
    | .error err => ([], .error err)
    | .ok body =>
      let received := ("[%s] Received response: status=%s: body=%s",
        [.value (.str logId), .value (.int resp.status), .value body])
      match body with
      | .dict fields =>
        if errcodeSet lib fields then
          ([received, ("[%s] API returned: %s", [.value (.str logId), .value body])],
            .error .requestFailed)
        else ([received], .ok body)
      | _ => ([received], .error .attributeError)

/-! ### Capturing the same -/

section Same
variable {str : Arg → String} {lib : Library}

/-- Two captures that hold the same about these locks. -/
def SameFor (lockIds : List ℤ) (x x' : LockTrafficCapture) : Prop :=
  ∀ i ∈ lockIds, x.buffers i = x'.buffers i

variable {lockIds : List ℤ} {x x' : LockTrafficCapture}

theorem SameFor.diagnosticsFor (h : SameFor lockIds x x') {i : ℤ} (hi : i ∈ lockIds) :
    x.diagnosticsFor i = x'.diagnosticsFor i := by
  unfold LockTrafficCapture.diagnosticsFor
  rw [h i hi]

/-- Two messages that are the same behind the redaction. -/
def SameMessage (m m' : Message) : Prop := m.1 = m'.1 ∧ m.2.map redactArg = m'.2.map redactArg

theorem SameMessage.refl (m : Message) : SameMessage m m := ⟨rfl, rfl⟩

theorem SameMessage.rendered {m m' : Message} (h : SameMessage m m') :
    rendered str m = rendered str m' := by
  unfold Capture.rendered
  rw [h.1, h.2]

/-- **Captured on both sides, or about none of these locks.** -/
theorem SameFor.logAndCapture (h : SameFor lockIds x x') (now : Instant) (lockId : Option ℤ)
    {m m' : Message} (hm : ∀ i ∈ lockIds, lockId = some i → SameMessage m m') :
    SameFor lockIds (logAndCapture str x now lockId m) (logAndCapture str x' now lockId m') := by
  cases lockId with
  | none => exact h
  | some j =>
    intro i hi
    simp only [Capture.logAndCapture, LockTrafficCapture.capture, Function.update_apply]
    split_ifs with hij
    · rw [(hm j (hij ▸ hi) rfl).rendered, ← hij, h i hi]
    · exact h i hi

/-- Messages captured in a row. -/
def captureAll (str : Arg → String) (self : LockTrafficCapture) (now : Instant)
    (lockId : Option ℤ) (ms : List Message) : LockTrafficCapture :=
  ms.foldl (fun self m => logAndCapture str self now lockId m) self

theorem captureAll_none (self : LockTrafficCapture) (now : Instant) (ms : List Message) :
    captureAll str self now none ms = self := by
  induction ms with
  | nil => rfl
  | cons m ms ih => exact ih

theorem SameFor.captureAll (now : Instant) (lockId : Option ℤ) {ms ms' : List Message}
    (hms : ∀ i ∈ lockIds, lockId = some i → List.Forall₂ SameMessage ms ms')
    (h : SameFor lockIds x x') :
    SameFor lockIds (captureAll str x now lockId ms) (captureAll str x' now lockId ms') := by
  by_cases hl : ∃ i ∈ lockIds, lockId = some i
  · obtain ⟨i, hi, hl⟩ := hl
    have hall := hms i hi hl
    clear hms
    induction hall generalizing x x' with
    | nil => exact h
    | cons hm _ ih => exact ih (h.logAndCapture now lockId fun _ _ _ => hm)
  · -- no captured lock is looked at
    have hfree : ∀ (ms : List Message) (y : LockTrafficCapture), ∀ i ∈ lockIds,
        (Capture.captureAll str y now lockId ms).buffers i = y.buffers i := by
      intro ms
      induction ms with
      | nil => exact fun y i _ => rfl
      | cons m ms ih =>
        intro y i hi
        refine (ih (Capture.logAndCapture str y now lockId m) i hi).trans ?_
        cases lockId with
        | none => rfl
        | some j =>
          have hij : i ≠ j := fun hij => hl ⟨i, hi, congrArg some hij.symm⟩
          exact Function.update_of_ne hij _ _
    intro i hi
    rw [hfree ms x i hi, hfree ms' x' i hi]
    exact h i hi

/-- Two texts that are the same, or JSON values that differ only in secrets. -/
def SameText (lib : Library) (keys : List String) (a b : String) : Prop :=
  a = b ∨ ∃ v w, lib.loads a = .ok v ∧ lib.loads b = .ok w ∧ masked keys v = masked keys w

theorem SameText.loads {keys : List String} {a b : String} (h : SameText lib keys a b) :
    (lib.loads a).map (masked keys) = (lib.loads b).map (masked keys) := by
  rcases h with rfl | ⟨v, w, hv, hw, hvw⟩
  · rfl
  · rw [hv, hw]
    exact congrArg Except.ok hvw

/-- Two replies that differ only in secrets. -/
structure SameReply (lib : Library) (resp resp' : HttpReply) : Prop where
  status : resp.status = resp'.status
  text : SameText lib SECRETS resp.text resp'.text

/-- **What the redaction covers of two replies**: of a refused request the text is the same, and of
any other the JSON values are the same behind the redaction. -/
structure ReplyCovered (lib : Library) (resp resp' : HttpReply) : Prop where
  refused : 400 ≤ resp.status → resp.text = resp'.text
  accepted : resp.status < 400 → ∀ v w, lib.loads resp.text = .ok v →
    lib.loads resp'.text = .ok w → asyncRedactData v = asyncRedactData w

theorem errcodeSet_congr {fields fields' : List (String × JsonValue)}
    (h : maskedFields SECRETS fields = maskedFields SECRETS fields') :
    errcodeSet lib fields = errcodeSet lib fields' := by
  unfold errcodeSet
  rcases lookup_cases h "errcode" (by decide) with ⟨h1, h2⟩ | ⟨v, w, h1, h2, hvw⟩
  · rw [h1, h2]
  · rw [h1, h2]
    dsimp only
    rw [blind_equalInt v w hvw]

/-- **Two replies that differ only in secrets** are both refused, or their bodies differ only in
these. -/
theorem parseResp_agree {resp resp' : HttpReply} (h : SameReply lib resp resp') (logId : String) :
    (parseResp lib logId resp).2.map (masked SECRETS) =
      (parseResp lib logId resp').2.map (masked SECRETS) := by
  unfold parseResp
  rw [h.status]
  by_cases hs : 400 ≤ resp'.status
  · rw [if_pos hs, if_pos hs]
  · rw [if_neg hs, if_neg hs]
    have hl := h.text.loads
    generalize lib.loads resp.text = x at hl ⊢
    generalize lib.loads resp'.text = y at hl ⊢
    cases x with
    | error err =>
      cases y with
      | error err' => exact congrArg Except.error (Except.error.inj hl)
      | ok w => cases hl
    | ok v =>
      cases y with
      | error err => cases hl
      | ok w =>
        have hvw : masked SECRETS v = masked SECRETS w := Except.ok.inj hl
        rcases masked_eq_cases hvw with rfl | ⟨items, items', rfl, rfl, -⟩ |
          ⟨fields, fields', rfl, rfl, hf⟩
        · rfl
        · rfl
        · dsimp only
          rw [errcodeSet_congr hf]
          split_ifs
          · rfl
          · exact congrArg Except.ok hvw

/-- What two replies are captured as, if the redaction covers them. -/
theorem parseResp_messages {resp resp' : HttpReply} (h : SameReply lib resp resp')
    (hc : ReplyCovered lib resp resp') (logId : String) :
    List.Forall₂ SameMessage (parseResp lib logId resp).1 (parseResp lib logId resp').1 := by
  unfold parseResp
  rw [← h.status]
  by_cases hs : 400 ≤ resp.status
  · rw [if_pos hs, if_pos hs, hc.refused hs]
    exact .cons (SameMessage.refl _) .nil
  · rw [if_neg hs, if_neg hs]
    have hcov := hc.accepted (Int.not_le.mp hs)
    have hl := h.text.loads
    generalize lib.loads resp.text = x at hl hcov ⊢
    generalize lib.loads resp'.text = y at hl hcov ⊢
    cases x with
    | error err =>
      cases y with
      | error err' => exact .nil
      | ok w => cases hl
    | ok v =>
      cases y with
      | error err => cases hl
      | ok w =>
        have hvw : masked SECRETS v = masked SECRETS w := Except.ok.inj hl
        have harg : redactArg (.value v) = redactArg (.value w) := by
          rw [redactArg_value, redactArg_value, hcov v w rfl rfl]
        have hreceived (a b : Arg) (msg : String) :
            SameMessage (msg, [a, b, .value v]) (msg, [a, b, .value w]) := by
          refine ⟨rfl, ?_⟩
          simp only [List.map_cons, List.map_nil, harg]
        rcases masked_eq_cases hvw with rfl | ⟨items, items', rfl, rfl, -⟩ |
          ⟨fields, fields', rfl, rfl, hf⟩
        · cases v with
          | dict fields =>
            dsimp only
            split_ifs
            · exact .cons (SameMessage.refl _) (.cons (SameMessage.refl _) .nil)
            · exact .cons (SameMessage.refl _) .nil
          | _ => exact .cons (SameMessage.refl _) .nil
        · exact .cons (hreceived _ _ _) .nil
        · dsimp only
          rw [errcodeSet_congr hf]
          split_ifs
          · refine .cons (hreceived _ _ _) (.cons ⟨rfl, ?_⟩ .nil)
            simp only [List.map_cons, List.map_nil, harg]
          · exact .cons (hreceived _ _ _) .nil

/-- What two requests are captured as, if the redaction covers them. -/
theorem sendingMessage_same {req req' : HttpRequest} (hp : req.path = req'.path)
    (hc : asyncRedactData (.dict req.kwargs) = asyncRedactData (.dict req'.kwargs))
    (apiBase logId : String) :
    SameMessage (sendingMessage apiBase logId req) (sendingMessage apiBase logId req') := by
  refine ⟨rfl, ?_⟩
  simp only [sendingMessage, List.map_cons, List.map_nil, redactArg_value, hp, hc]

end Same

end TTLockConnect.Diagnostics.Capture
