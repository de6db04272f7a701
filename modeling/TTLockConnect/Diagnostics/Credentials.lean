import TTLockConnect.Diagnostics.Sameness

/-! # Diagnostics and credentials

Two runs of an entry whose requests, replies and posts differ only in PINs, eKey receivers and lock
keys. Their diagnostics agree in every state as long as what is captured is the same behind the
redaction: no secret is captured of a lock but under the keys of `TO_REDACT`, in a dict or a list.
A PIN in the arguments of a request is one that gets through. -/

namespace TTLockConnect.Diagnostics.Credentials

open TTLockConnect.Text TTLockConnect.Models TTLockConnect.Api TTLockConnect.Coordinator.State
open TTLockConnect.Coordinator.Poll TTLockConnect.Coordinator.Writers TTLockConnect.Async.Runs
open TTLockConnect.Async.EventLoop TTLockConnect.Async.TwoRuns TTLockConnect.Webhook.Records
open TTLockConnect.Diagnostics.Redaction TTLockConnect.Diagnostics.Replies
open TTLockConnect.Diagnostics.Secrets TTLockConnect.Diagnostics.Capture
open TTLockConnect.Diagnostics.Unseen TTLockConnect.Diagnostics.Dump
open TTLockConnect.Diagnostics.Entry TTLockConnect.Diagnostics.Sameness

/-! ### Inputs that differ only in secrets -/

/-- Two requests that differ only in secrets. -/
structure SameRequest (req req' : HttpRequest) : Prop where
  path : req.path = req'.path
  kwargs : maskedFields SECRETS req.kwargs = maskedFields SECRETS req'.kwargs

/-- Two posts that differ only in the secrets in their records. -/
def SamePost (lib : Library) (post post' : Post) : Prop :=
  List.Forall₂ (fun f f' => f.1 = f'.1 ∧
    (f.2 = f'.2 ∨ f.1 = "records" ∧ SameText lib RECORD_SECRETS f.2 f'.2)) post.fields post'.fields

/-- Two answers that are the same to every request without a secret. A Bluetooth session has the key
of the lock. -/
def SameAnswer (ans ans' : (q : Request) → Except PyError (Reply q)) : Prop :=
  ∀ q, Request.masked q = q → ans q = ans' q

/-- Two steps that differ only in secrets. -/
inductive SameLabel (lib : Library) : EntryLabel → EntryLabel → Prop
  | start (i : ℕ) (w : Job) (s : Stamp) : SameLabel lib (.start i w s) (.start i w s)
  | reply (i t : ℕ) {resp resp' : HttpReply} (r s : Stamp) : SameReply lib resp resp' →
      SameLabel lib (.reply i t resp r s) (.reply i t resp' r s)
  | answer (i t : ℕ) {ans ans' : (q : Request) → Except PyError (Reply q)} (s : Stamp) :
      SameAnswer ans ans' → SameLabel lib (.answer i t ans s) (.answer i t ans' s)
  | call {req req' : HttpRequest} {resp resp' : HttpReply} (s r : Stamp) : SameRequest req req' →
      SameReply lib resp resp' → SameLabel lib (.call req resp s r) (.call req' resp' s r)
  | gateways {resp resp' : HttpReply} (s r : Stamp) : SameReply lib resp resp' →
      SameLabel lib (.gateways resp s r) (.gateways resp' s r)
  | post {post post' : Post} (r : Stamp) : SamePost lib post post' →
      SameLabel lib (.post post r) (.post post' r)
  | passageMode (i : ℕ) (config : PassageModeConfig) :
      SameLabel lib (.passageMode i config) (.passageMode i config)
  | ble (i : ℕ) (ble : BleData) : SameLabel lib (.ble i ble) (.ble i ble)
  | write (i : ℕ) (entity : Entity) (now : LocalTime) (context : String) :
      SameLabel lib (.write i entity now context) (.write i entity now context)

/-! ### Steps that the redaction covers -/

/-- Two JSON replies that allow Bluetooth alike. -/
def BluetoothCovered (lib : Library) (resp resp' : HttpReply) : Prop :=
  ∀ v w, lib.loads resp.text = .ok v → lib.loads resp'.text = .ok w → SameBluetooth v w

/-- A Bluetooth session that a task waits for ends alike with either key. -/
def SessionCovered (x x' : Integration) (i t : ℕ)
    (ans ans' : (q : Request) → Except PyError (Reply q)) : Prop :=
  ∀ address name version aesKey aesKey',
    Integration.awaited x i t = some (.queryLockStatus address name version aesKey) →
    Integration.awaited x' i t = some (.queryLockStatus address name version aesKey') →
      ans (.queryLockStatus address name version aesKey) =
        ans' (.queryLockStatus address name version aesKey')

/-- **Nothing secret is captured of a lock of the entry** but under the keys of `TO_REDACT` in a dict
or a list; a lock's key can be read in both runs or in none; a Bluetooth session ends alike in both
runs; and an entity's attributes change in both runs or in none. -/
def Covered (rt : Runtime) (x x' : Integration) : EntryLabel → EntryLabel → Prop
  | .reply i t resp _ _, .reply _ _ resp' _ _ =>
    ReplyCovered rt.lib resp resp' ∧
      ∀ lockId, Integration.awaited x i t = some (.detail lockId) →
        BluetoothCovered rt.lib resp resp'
  | .answer i t ans _, .answer _ _ ans' _ => SessionCovered x x' i t ans ans'
  | .call req resp _ _, .call req' resp' _ _ =>
    ∀ i ∈ lockIds x, lockIdOf req.kwargs = some i →
      asyncRedactData (.dict req.kwargs) = asyncRedactData (.dict req'.kwargs) ∧
        ReplyCovered rt.lib resp resp'
  | .post post _, .post post' _ =>
    ∀ i ∈ lockIds x, post.lockId = .ok (some i) → post = post'
  | .write i entity now _, .write _ _ _ _ =>
    ∀ lock lock', x.locks[i]? = some lock → x'.locks[i]? = some lock' →
      entity.unchanged rt now lock = entity.unchanged rt now lock'
  | _, _ => True

variable {rt : Runtime} {lib : Library} {x x' y y' : Integration}

/-! ### Requests -/

theorem SameRequest.lockIdOf {req req' : HttpRequest} (h : SameRequest req req') :
    lockIdOf req.kwargs = lockIdOf req'.kwargs := by
  unfold Capture.lockIdOf
  rcases lookup_cases h.kwargs "lockId" (by decide) with ⟨h1, h2⟩ | ⟨v, w, h1, h2, hvw⟩
  · rw [h1, h2]
  · rw [h1, h2]
    rcases masked_eq_cases hvw with rfl | ⟨items, items', rfl, rfl, -⟩ | ⟨fs, fs', rfl, rfl, -⟩
    · rfl
    · rfl
    · rfl

/-! ### Posts -/

theorem blind_epochMs : Blind RECORD_SECRETS fun v => collected (EpochMs.validate lib v) := by
  intro v w h
  rcases masked_eq_cases h with rfl | ⟨items, items', rfl, rfl, -⟩ | ⟨fs, fs', rfl, rfl, -⟩
  · rfl
  · rfl
  · rfl

theorem blind_event : Blind RECORD_SECRETS fun v => collected (Event.validate v) := by
  intro v w h
  rcases masked_eq_cases h with rfl | ⟨items, items', rfl, rfl, -⟩ | ⟨fs, fs', rfl, rfl, -⟩
  · rfl
  · rfl
  · rfl

/-- A webhook event has no secrets. -/
theorem event_blind (hlib : Lawful lib) : Blind RECORD_SECRETS (modelValidate lib) := by
  intro v w h
  rcases masked_eq_cases h with rfl | ⟨items, items', rfl, rfl, -⟩ | ⟨fields, fields', rfl, rfl, hf⟩
  · rfl
  · rfl
  · simp only [modelValidate]
    rw [required_congr hf "lockId" (by decide) ((blind_asInt hlib).comp Except.ok),
      required_congr hf "lockMac" (by decide) ((blind_asStr hlib).comp Except.ok),
      optional_congr hf "electricQuantity" (by decide) (blind_asInt hlib),
      required_congr hf "serverDate" (by decide) blind_epochMs,
      required_congr hf "lockDate" (by decide) blind_epochMs,
      required_congr hf "recordType" (by decide) blind_event,
      optional_congr hf "username" (by decide) (blind_asStr hlib),
      required_congr hf "success" (by decide) ((blind_asBool hlib).comp Except.ok)]

theorem fieldAttempts_eq (hlib : Lawful lib) {raw raw' : String}
    (h : SameText lib RECORD_SECRETS raw raw') :
    fieldAttempts lib raw = fieldAttempts lib raw' := by
  rcases h with rfl | ⟨v, w, hv, hw, hvw⟩
  · rfl
  · unfold fieldAttempts
    rw [hv, hw]
    have hit := iterate_congr hvw
    have hok (x : JsonValue) : ((.ok x : Except PyError JsonValue) >>= iterate) = iterate x := rfl
    rw [hok, hok]
    generalize iterate v = a at hit ⊢
    generalize iterate w = b at hit ⊢
    cases a with
    | error err =>
      cases b with
      | error err' => rw [Except.error.inj hit]
      | ok items' => cases hit
    | ok items =>
      cases b with
      | error err => cases hit
      | ok items' => exact (event_blind hlib).map (Except.ok.inj hit)

namespace SamePost

variable {post post' : Post}

theorem nil_iff (h : SamePost lib post post') : post.fields = [] ↔ post'.fields = [] := by
  have hlen := h.length_eq
  rw [← List.length_eq_zero_iff, ← List.length_eq_zero_iff, hlen]

theorem lockId (h : SamePost lib post post') : post.lockId = post'.lockId := by
  have hget : post.get "lockId" = post'.get "lockId" := by
    unfold Post.get
    unfold SamePost at h
    generalize post.fields = fs at h ⊢
    generalize post'.fields = fs' at h ⊢
    induction h with
    | nil => rfl
    | @cons f f' fs fs' hf h ih =>
      obtain ⟨key, raw⟩ := f
      obtain ⟨key', raw'⟩ := f'
      obtain ⟨rfl, hraw⟩ := hf
      rw [List.lookup_cons, List.lookup_cons]
      cases hk : "lockId" == key with
      | false => exact ih
      | true =>
        rcases hraw with hraw | ⟨hkey, -⟩
        · exact congrArg some hraw
        · rw [show key = "records" from hkey] at hk
          cases hk
  unfold Post.lockId
  rw [hget]

theorem getall (h : SamePost lib post post') :
    List.Forall₂ (SameText lib RECORD_SECRETS) (post.getall "records") (post'.getall "records") := by
  unfold Post.getall
  unfold SamePost at h
  generalize post.fields = fs at h ⊢
  generalize post'.fields = fs' at h ⊢
  induction h with
  | nil => exact .nil
  | @cons f f' fs fs' hf h ih =>
    obtain ⟨key, raw⟩ := f
    obtain ⟨key', raw'⟩ := f'
    obtain ⟨rfl, hraw⟩ := hf
    rw [List.filter_cons, List.filter_cons]
    by_cases hk : key == "records"
    · rw [if_pos hk, if_pos hk]
      refine .cons ?_ ih
      rcases hraw with hraw | ⟨-, hraw⟩
      · exact .inl hraw
      · exact hraw
    · rw [if_neg hk, if_neg hk]
      exact ih

/-- **What a webhook post does does not depend on secrets.** -/
theorem handleWebhook (hlib : Lawful lib) (h : SamePost lib post post') (status : Bool) :
    handleWebhook lib status post = handleWebhook lib status post' := by
  have hall : (post.getall "records").flatMap (fieldAttempts lib) =
      (post'.getall "records").flatMap (fieldAttempts lib) := by
    have hr := h.getall
    generalize post.getall "records" = raws at hr ⊢
    generalize post'.getall "records" = raws' at hr ⊢
    induction hr with
    | nil => rfl
    | cons hraw _ ih =>
      rw [List.flatMap_cons, List.flatMap_cons, fieldAttempts_eq hlib hraw, ih]
  rw [handleWebhook_eq, handleWebhook_eq, attempts, attempts, h.lockId, hall]

end SamePost

/-! ### Replies -/

theorem loads_of_parseResp {logId : String} {resp : HttpReply} {v : JsonValue}
    (h : (parseResp lib logId resp).2 = .ok v) : lib.loads resp.text = .ok v := by
  unfold parseResp at h
  by_cases hs : 400 ≤ resp.status
  · rw [if_pos hs] at h
    cases h
  · rw [if_neg hs] at h
    cases hl : lib.loads resp.text with
    | error err =>
      rw [hl] at h
      cases h
    | ok body =>
      rw [hl] at h
      cases body with
      | dict fields =>
        dsimp only at h
        split_ifs at h
        exact h
      | _ => cases h

/-- What is made of two replies, by a reader that tells them apart only by secrets. -/
theorem parsed_agree {α β : Type} {resp resp' : HttpReply} (h : SameReply lib resp resp')
    (logId : String) {k : JsonValue → Except PyError α} {f : α → β}
    (hk : ∀ v w, lib.loads resp.text = .ok v → lib.loads resp'.text = .ok w →
      masked SECRETS v = masked SECRETS w → (k v).map f = (k w).map f) :
    ((parseResp lib logId resp).2 >>= k).map f = ((parseResp lib logId resp').2 >>= k).map f := by
  have hparse := parseResp_agree h logId
  cases hv : (parseResp lib logId resp).2 with
  | error err =>
    rw [hv] at hparse
    cases hw : (parseResp lib logId resp').2 with
    | error err' =>
      rw [hw] at hparse
      exact congrArg Except.error (Except.error.inj hparse)
    | ok w =>
      rw [hw] at hparse
      cases hparse
  | ok v =>
    rw [hv] at hparse
    cases hw : (parseResp lib logId resp').2 with
    | error err' =>
      rw [hw] at hparse
      cases hparse
    | ok w =>
      rw [hw] at hparse
      exact hk v w (loads_of_parseResp hv) (loads_of_parseResp hw) (Except.ok.inj hparse)

theorem reply_agree (hlib : Lawful lib) {resp resp' : HttpReply} (h : SameReply lib resp resp')
    (logId : String) (q : Request) (hb : ∀ i, q = .detail i → BluetoothCovered lib resp resp') :
    Agree (butSecrets.reply q q) ((parseResp lib logId resp).2 >>= validate lib q)
      ((parseResp lib logId resp').2 >>= validate lib q) := by
  have hmap := parsed_agree (f := maskedReply q) h logId fun v w hv hw hvw =>
    validate_agree hlib q hvw fun i hi => hb i hi v w hv hw
  exact (agree_of_map_eq hmap).mono fun _ _ heq => heq_of_eq heq

/-- The records of two lists, which have no secrets. -/
theorem listed_eq {α : Type} {validate : JsonValue → Except PyError α}
    (hv : Blind SECRETS validate) {resp resp' : HttpReply} (h : SameReply lib resp resp')
    (logId : String) : ((parseResp lib logId resp).2 >>= listOf validate) =
      ((parseResp lib logId resp').2 >>= listOf validate) := by
  have hmap := parsed_agree (f := List.map id) h logId fun v w _ _ hvw =>
    listOf_agree (fun v w h => congrArg (Except.map id) (hv v w h)) hvw
  rw [List.map_id_fun, map_id_except, map_id_except] at hmap
  exact hmap

/-! ### Setup -/

/-- A lock that has been set up has no task yet. -/
theorem new_same {found : Setup} {summary : LockSummary} {lock : LockRun}
    (h : LockRun.new found summary = .ok lock) : SameLock lock lock := by
  unfold LockRun.new at h
  cases hf : Features.fromFeatureValue summary.featureValue with
  | error err =>
    rw [hf] at h
    cases h
  | ok features =>
    rw [hf] at h
    cases h
    exact ⟨rfl, ⟨rfl, .nil⟩, rfl, rfl, rfl, rfl, rfl, .nil⟩

theorem news_same {found : Setup} (summaries : List LockSummary) :
    ∀ {locks : List LockRun}, summaries.mapM (LockRun.new found) = .ok locks →
      List.Forall₂ SameLock locks locks := by
  induction summaries with
  | nil =>
    intro locks h
    cases h
    exact .nil
  | cons summary summaries ih =>
    intro locks h
    rw [List.mapM_cons] at h
    cases hn : LockRun.new found summary with
    | error err =>
      rw [hn] at h
      cases h
    | ok lock =>
      rw [hn] at h
      cases hm : summaries.mapM (LockRun.new found) with
      | error err =>
        rw [hm] at h
        cases h
      | ok locks =>
        rw [hm] at h
        cases h
        exact .cons (new_same hn) (ih hm)

/-- **Two setups whose replies differ only in secrets.** -/
theorem setup_same (hlib : Lawful rt.lib) {found : Setup} {resp resp' : HttpReply}
    {sending received : Stamp} (h : SameReply rt.lib resp resp')
    (hs : asyncSetupEntry rt found resp sending received = .ok x)
    (hs' : asyncSetupEntry rt found resp' sending received = .ok x') : SameEntry x x' := by
  have hfree : lockIdOf lockList.kwargs = none := by decide
  unfold asyncSetupEntry at hs hs'
  rw [listed_eq (lockSummary_blind hlib) h] at hs
  cases hl : (parseResp rt.lib received.logId resp').2 >>=
      listOf (LockSummary.modelValidate rt.lib) with
  | error err =>
    rw [hl] at hs
    cases hs
  | ok summaries =>
    rw [hl] at hs hs'
    change (summaries.mapM (LockRun.new found) >>= _) = _ at hs hs'
    cases hm : summaries.mapM (LockRun.new found) with
    | error err =>
      rw [hm] at hs
      cases hs
    | ok locks =>
      rw [hm] at hs hs'
      cases hs
      cases hs'
      refine ⟨news_same summaries hm, fun i _ => ?_, rfl, rfl, rfl⟩
      unfold Integration.receive
      dsimp only
      rw [hfree, captureAll_none, captureAll_none]

/-! ### Steps -/

theorem masked_of_httpRequest {q : Request} {req : HttpRequest} (h : httpRequest q = some req) :
    Request.masked q = q := by
  cases q with
  | queryLockStatus address name version key => cases h
  | _ => rfl

/-- Requests to the API have no secrets in which they could differ. -/
theorem eq_of_httpRequest {q q' : Request} {req req' : HttpRequest} (h : httpRequest q = some req)
    (h' : httpRequest q' = some req') (hmasked : Request.masked q = Request.masked q') : q = q' := by
  rw [← masked_of_httpRequest h, hmasked, masked_of_httpRequest h']

section Steps
variable {i t : ℕ} {q q' : Request}

theorem awaited_same (h : SameEntry x x') (hq : Integration.awaited x i t = some q)
    (hq' : Integration.awaited x' i t = some q') : Request.masked q = Request.masked q' := by
  obtain ⟨lock, hl, hq⟩ := Option.bind_eq_some_iff.mp hq
  obtain ⟨lock', hl', hq'⟩ := Option.bind_eq_some_iff.mp hq'
  obtain ⟨task, ht, rfl⟩ := Option.map_eq_some_iff.mp hq
  obtain ⟨task', ht', rfl⟩ := Option.map_eq_some_iff.mp hq'
  exact ((h.get hl hl').loop.get ht ht').req

/-- A task gets what it waits for. -/
theorem replied_same (h : SameEntry x x') (hq : Integration.awaited x i t = some q)
    (hq' : Integration.awaited x' i t = some q') {sending : Stamp}
    {ans ans' : (q : Request) → Except PyError (Reply q)}
    (hans : Agree (butSecrets.reply q q') (ans q) (ans' q'))
    (hs : Integration.move rt x i (.reply t ans) sending = some y)
    (hs' : Integration.move rt x' i (.reply t ans') sending = some y') : SameEntry y y' := by
  refine h.move (fun lock lock' loop loop' hl hl' hloop hloop' => ?_) hs hs'
  refine reply_alike (h.get hl hl').loop (fun task task' ht ht' => ?_) hloop hloop'
  unfold Integration.awaited at hq hq'
  rw [hl, Option.bind_some, ht, Option.map_some] at hq
  rw [hl', Option.bind_some, ht', Option.map_some] at hq'
  rw [Option.some.inj hq, Option.some.inj hq']
  exact hans

/-- A request has no secrets, or it is a Bluetooth session. -/
theorem session_or_free (q : Request) :
    (∃ address name version aesKey, q = .queryLockStatus address name version aesKey) ∨
      Request.masked q = q ∧ ∀ address name version aesKey,
        q ≠ .queryLockStatus address name version aesKey := by
  cases q with
  | queryLockStatus address name version aesKey => exact .inl ⟨address, name, version, aesKey, rfl⟩
  | _ => exact .inr ⟨rfl, nofun⟩

/-- Two requests that differ only in secrets are the same, or Bluetooth sessions. -/
theorem eq_or_sessions (h : Request.masked q = Request.masked q') :
    (q = q' ∧ Request.masked q = q) ∨ ∃ address name version aesKey aesKey',
      q = .queryLockStatus address name version aesKey ∧
        q' = .queryLockStatus address name version aesKey' := by
  rcases session_or_free q with ⟨address, name, version, aesKey, rfl⟩ | ⟨hfree, hne⟩
  · rcases session_or_free q' with ⟨address', name', version', aesKey', rfl⟩ | ⟨hfree', hne'⟩
    · injection h with haddress hname hversion
      subst haddress hname hversion
      exact .inr ⟨_, _, _, _, _, rfl, rfl⟩
    · exact absurd (hfree'.symm.trans h.symm) (hne' _ _ _ _)
  · rcases session_or_free q' with ⟨address', name', version', aesKey', rfl⟩ | ⟨hfree', -⟩
    · exact absurd (hfree.symm.trans h) (hne _ _ _ _)
    · exact .inl ⟨hfree.symm.trans (h.trans hfree'), hfree⟩

/-- A task that waits for something else than the API gets the same, if its session is covered. -/
theorem answer_agree (hmasked : Request.masked q = Request.masked q')
    (hq : Integration.awaited x i t = some q) (hq' : Integration.awaited x' i t = some q')
    {ans ans' : (q : Request) → Except PyError (Reply q)} (ha : SameAnswer ans ans')
    (hc : SessionCovered x x' i t ans ans') :
    Agree (butSecrets.reply q q') (ans q) (ans' q') := by
  rcases eq_or_sessions hmasked with ⟨rfl, hfree⟩ | ⟨address, name, version, aesKey, aesKey', rfl, rfl⟩
  · rw [ha q hfree]
    exact (agree_eq _).mono fun _ _ heq => heq_of_eq (congrArg (maskedReply q) heq)
  · rw [hc _ _ _ _ _ hq hq']
    exact (agree_eq _).mono fun _ _ heq => heq_of_eq heq

/-- A call that is no coordinator's. -/
theorem call_same (h : SameEntry x x') {req req' : HttpRequest} {resp resp' : HttpReply}
    (hreq : SameRequest req req') (hr : SameReply rt.lib resp resp') (sending received : Stamp)
    (hc : ∀ i ∈ lockIds x, lockIdOf req.kwargs = some i →
      asyncRedactData (.dict req.kwargs) = asyncRedactData (.dict req'.kwargs) ∧
        ReplyCovered rt.lib resp resp') :
    SameEntry (Integration.receive rt (Integration.send rt x sending req) received req resp)
      (Integration.receive rt (Integration.send rt x' sending req') received req' resp') := by
  have hsent : SameEntry (Integration.send rt x sending req) (Integration.send rt x' sending req') :=
    h.send sending hreq.path hreq.lockIdOf fun i hi hl => (hc i hi hl).1
  exact hsent.receive received hreq.lockIdOf hr fun i hi hl => (hc i hi hl).2

theorem pollGateways_same (h : SameEntry x x') (hlib : Lawful rt.lib) {resp resp' : HttpReply}
    (hr : SameReply rt.lib resp resp') (sending received : Stamp) :
    SameEntry (Integration.pollGateways rt x resp sending received)
      (Integration.pollGateways rt x' resp' sending received) := by
  have hfree : lockIdOf gatewayList.kwargs = none := by decide
  have hreq : SameRequest gatewayList gatewayList := ⟨rfl, rfl⟩
  have hcall := call_same h hreq hr sending received fun i _ hl => by rw [hfree] at hl; cases hl
  unfold Integration.pollGateways
  dsimp only
  rw [listed_eq (gateway_blind hlib) hr]
  cases (parseResp rt.lib received.logId resp').2 >>= listOf (Gateway.modelValidate rt.lib) with
  | error err => exact hcall
  | ok gateways => exact ⟨hcall.locks, hcall.capture, hcall.calls, rfl, hcall.webhookStatus⟩

theorem handlePost_same (h : SameEntry x x') (hlib : Lawful rt.lib) {post post' : Post}
    (hp : SamePost rt.lib post post') (received : Stamp)
    (hc : ∀ i ∈ lockIds x, post.lockId = .ok (some i) → post = post') :
    SameEntry (Integration.handlePost rt x post received)
      (Integration.handlePost rt x' post' received) := by
  by_cases hnil : post.fields = []
  · simp only [Integration.handlePost, hnil, hp.nil_iff.mp hnil]
    exact h
  · obtain ⟨f, fs, hf⟩ := List.exists_cons_of_ne_nil hnil
    obtain ⟨f', fs', hf'⟩ := List.exists_cons_of_ne_nil fun h => hnil (hp.nil_iff.mpr h)
    have hid := hp.lockId
    cases hl : post.lockId with
    | error err =>
      rw [hl] at hid
      simp only [Integration.handlePost, hf, hf', hl, ← hid]
      exact h
    | ok lockId =>
      rw [hl] at hid hc
      simp only [Integration.handlePost, hf, hf', hl, ← hid]
      rw [h.webhookStatus, hp.handleWebhook hlib]
      have hlocks := dispatched_same (handleWebhook rt.lib x'.webhookStatus post').dispatched h.locks
      have hids := lockId_dispatched (handleWebhook rt.lib x'.webhookStatus post').dispatched x.locks
      generalize (handleWebhook rt.lib x'.webhookStatus post').dispatched.foldl dispatch x.locks =
        locks at hlocks hids ⊢
      generalize (handleWebhook rt.lib x'.webhookStatus post').dispatched.foldl dispatch x'.locks =
        locks' at hlocks ⊢
      constructor
      · dsimp only
        split_ifs
        · refine forall₂_map hlocks fun _ _ h => h.onCoordinator fun c c' hc => ?_
          exact hc.map (f := fun c => { c with webhookStatus := true }) fun _ => rfl
        · exact hlocks
      · have hm : ∀ i ∈ lockIds x, lockId = some i → SameMessage
            ("Got webhook data: %s", [.form post]) ("Got webhook data: %s", [.form post']) := by
          intro i hi hl
          rw [hc i hi (congrArg Except.ok hl)]
          exact SameMessage.refl _
        unfold lockIds
        dsimp only
        split_ifs
        · rw [lockId_onCoordinator, hids]
          exact h.capture.logAndCapture _ _ hm
        · rw [hids]
          exact h.capture.logAndCapture _ _ hm
      · exact h.calls
      · exact h.gateways
      · rfl

/-- **One step keeps two entries the same but for secrets**, if nothing secret is captured. -/
theorem step_same (h : SameEntry x x') (hlib : Lawful rt.lib) {l l' : EntryLabel}
    (hl : SameLabel rt.lib l l') (hc : Covered rt x x' l l')
    (hs : Integration.step rt x l = some y) (hs' : Integration.step rt x' l' = some y') :
    SameEntry y y' := by
  cases hl with
  | start i w s =>
    exact h.move (fun _ _ _ _ hl hl' => start_alike (h.get hl hl').loop (prog_like w)) hs hs'
  | @reply i t resp resp' r s hr =>
    obtain ⟨hcap, hb⟩ := hc
    obtain ⟨q, req, hq, hreq, hs⟩ := Integration.step_reply hs
    obtain ⟨q', req', hq', hreq', hs'⟩ := Integration.step_reply hs'
    obtain rfl := eq_of_httpRequest hreq hreq' (awaited_same h hq hq')
    obtain rfl : req = req' := Option.some.inj (hreq.symm.trans hreq')
    have hrec : SameEntry (Integration.receive rt x r req resp)
      (Integration.receive rt x' r req resp') := h.receive r rfl hr fun _ _ _ => hcap
    refine replied_same hrec hq hq' (reply_agree hlib hr r.logId q fun i' hi => hb i' ?_) hs hs'
    rw [hq, hi]
  | @answer i t ans ans' s ha =>
    obtain ⟨q, hq, -, hs⟩ := Integration.step_answer hs
    obtain ⟨q', hq', -, hs'⟩ := Integration.step_answer hs'
    exact replied_same h hq hq' (answer_agree (awaited_same h hq hq') hq hq' ha hc) hs hs'
  | @call req req' resp resp' s r hreq hr =>
    cases hs
    cases hs'
    exact call_same h hreq hr s r hc
  | @gateways resp resp' s r hr =>
    cases hs
    cases hs'
    exact pollGateways_same h hlib hr s r
  | @post post post' r hp =>
    cases hs
    cases hs'
    exact handlePost_same h hlib hp r hc
  | passageMode i config =>
    refine h.update (fun _ _ _ _ h => h.onCoordinator fun c c' hc => ?_) (fun _ => rfl) hs hs'
    exact hc.map (f := fun c => { c with data := { c.data with passageModeConfig := some config } })
      fun _ => rfl
  | ble i ble =>
    have hseen (lock lock' : LockRun) (h : SameLock lock lock') :
        SameLock { onCoordinator (fun c => { c with inRange := ble.rssi.isSome }) lock with ble := ble }
          { onCoordinator (fun c => { c with inRange := ble.rssi.isSome }) lock' with ble := ble } := by
      have hrange := h.onCoordinator (f := fun c => { c with inRange := ble.rssi.isSome })
        fun c c' hc => hc.map (f := fun c => { c with inRange := ble.rssi.isSome }) fun _ => rfl
      exact ⟨hrange.lockId, hrange.loop, hrange.hasGateway, hrange.featureValue, rfl,
        hrange.operator, hrange.trigger, hrange.states⟩
    exact h.update (fun lock lock' _ _ h => hseen lock lock' h) (fun _ => rfl) hs hs'
  | write i entity now context =>
    exact h.update (fun lock lock' hl hl' h => h.write entity now context (hc lock lock' hl hl'))
      (fun _ => rfl) hs hs'

end Steps

/-! ### Runs -/

/-- The diagnostics of two states are the same, at every time and for every device. -/
structure SameDiagnostics (rt : Runtime) (x x' : Integration) : Prop where
  configEntry : ∀ now,
    asyncGetConfigEntryDiagnostics rt now x = asyncGetConfigEntryDiagnostics rt now x'
  device : ∀ macs, asyncGetDeviceDiagnostics rt macs x = asyncGetDeviceDiagnostics rt macs x'

/-- **Diagnostics do not depend on credentials** in two runs from setup whose inputs differ only in
these, as long as the redaction covers them in what is captured. -/
theorem run_diagnostics_eq (hlib : Lawful rt.lib) {found : Setup} {resp resp' : HttpReply}
    {sending received : Stamp} (h : SameReply rt.lib resp resp')
    (hx : asyncSetupEntry rt found resp sending received = .ok x)
    (hx' : asyncSetupEntry rt found resp' sending received = .ok x')
    {τ : List (Move (Integration × Integration) (EntryLabel × EntryLabel))}
    {s : Integration × Integration} (hr : Run (both (Integration.step rt)) (x, x') τ s)
    (hsame : ∀ m ∈ τ, SameLabel rt.lib m.label.1 m.label.2)
    (hcov : ∀ m ∈ τ, Covered rt m.src.1 m.src.2 m.label.1 m.label.2) :
    SameDiagnostics rt s.1 s.2 := by
  have hend := run_agree SameEntry
    (fun s l => SameLabel rt.lib l.1 l.2 ∧ Covered rt s.1 s.2 l.1 l.2) hr (setup_same hlib h hx hx')
    (fun _ _ _ _ _ _ h hok hs hs' => step_same h hlib hok.1 hok.2 hs hs')
    fun m hm => ⟨hsame m hm, hcov m hm⟩
  exact ⟨hend.configEntryDiagnostics, hend.deviceDiagnostics⟩

/-! ### A PIN in the arguments of a request -/

mutual

/-- `repr`, of values without quotes or backslashes in them. -/
def repr : JsonValue → String
  | .null => "None"
  | .bool b => if b then "True" else "False"
  | .int n => toString n
  | .float literal => literal
  | .str s => "'" ++ s ++ "'"
  | .list items => "[" ++ ", ".intercalate (reprItems items) ++ "]"
  | .dict fields => "\x7b" ++ ", ".intercalate (reprFields fields) ++ "\x7d"

def reprItems : List JsonValue → List String
  | [] => []
  | v :: items => repr v :: reprItems items

def reprFields : List (String × JsonValue) → List String
  | [] => []
  | (key, v) :: fields => ("'" ++ key ++ "': " ++ repr v) :: reprFields fields

end

/-- `str`, of such values. -/
def sampleStr : Arg → String
  | .value (.str s) => s
  | .value v => repr v
  | .form post =>
    "<MultiDictProxy(" ++
      ", ".intercalate (post.fields.map fun f => "'" ++ f.1 ++ "': '" ++ f.2 ++ "'") ++ ")>"

/-- The replies of the sample, with their values. -/
def lockListText : String :=
  "\x7b\"list\":[\x7b\"lockId\":7252408,\"lockMac\":\"16:72:4C:CC:01:C4\"," ++
    "\"lockAlias\":\"Door\",\"hasGateway\":1\x7d]\x7d"

def lockListBody : JsonValue :=
  .dict [("list", .list [.dict [("lockId", .int 7252408), ("lockMac", .str "16:72:4C:CC:01:C4"),
    ("lockAlias", .str "Door"), ("hasGateway", .int 1)]])]

def detailText (adminPwd : String) : String :=
  "\x7b\"lockId\":7252408,\"lockMac\":\"16:72:4C:CC:01:C4\",\"lockName\":\"S31_c401cc\"," ++
    "\"adminPwd\":\"" ++ adminPwd ++ "\",\"date\":1680810180000\x7d"

def detailBody (adminPwd : String) : JsonValue :=
  .dict [("lockId", .int 7252408), ("lockMac", .str "16:72:4C:CC:01:C4"),
    ("lockName", .str "S31_c401cc"), ("adminPwd", .str adminPwd), ("date", .int 1680810180000)]

def addText : String := "\x7b\"keyboardPwdId\":2340\x7d"

/-- The library on these texts. -/
def sampleLib : Library :=
  { sampleLibrary with
    loads := fun raw =>
      if raw = lockListText then .ok lockListBody
      else if raw = addText then .ok (.dict [("keyboardPwdId", .int 2340)])
      else if raw = detailText "111111" then .ok (detailBody "111111")
      else if raw = detailText "222222" then .ok (detailBody "222222")
      else .error .valueError }

theorem sampleLib_lawful : Lawful sampleLib where
  asStr_str _ := rfl
  asStr_other v h := by
    cases v with
    | str s => exact absurd rfl (h s)
    | _ => rfl
  asInt_list _ := rfl
  asInt_dict _ := rfl
  asBool_list _ := rfl
  asBool_dict _ := rfl

def sampleRuntime : Runtime where
  lib := sampleLib
  str := sampleStr
  isoformat _ := "1970-01-01T00:00:00+00:00"
  featuresName _ := "0"
  apiBase := "https://euapi.ttlock.com/v3/"
  entityId _ _ := "lock.door"
  render _ _ := ⟨"unknown", true, []⟩
  entryDict _ := .dict []
  apiUsage calls _ := .dict [("today", .int calls.length)]

def sampleSetup : Setup where
  slowInterval := 86400000000
  slowInterval_pos := by decide
  webhookOnly := false
  bluetoothAvailable := false
  webhookStatus := false
  now := ⟨0, 0⟩
  store _ := {}
  restored _ := (none, none)
  capture := .empty
  calls := []

def sampleStamp : Stamp := ⟨"a1b2c3", ⟨0, 0⟩⟩

def lockListReply : HttpReply := ⟨200, lockListText⟩

/-- An entry with one lock, set up. -/
def sampleEntry : Integration :=
  match asyncSetupEntry sampleRuntime sampleSetup lockListReply sampleStamp sampleStamp with
  | .ok x => x
  | .error _ => ⟨[], .empty, [], [], false⟩

theorem sampleEntry_setup :
    asyncSetupEntry sampleRuntime sampleSetup lockListReply sampleStamp sampleStamp =
      .ok sampleEntry := by
  have hok : (asyncSetupEntry sampleRuntime sampleSetup lockListReply sampleStamp
    sampleStamp).toBool = true := by decide +kernel
  unfold sampleEntry
  generalize asyncSetupEntry sampleRuntime sampleSetup lockListReply sampleStamp sampleStamp = r
    at hok ⊢
  cases r with
  | ok x => rfl
  | error err => cases hok

/-- Two runs of the entry, side by side. -/
def sampleRuns (labels : List (EntryLabel × EntryLabel)) :
    List (Move (Integration × Integration) (EntryLabel × EntryLabel)) × Integration × Integration :=
  play (both (Integration.step sampleRuntime)) (sampleEntry, sampleEntry) labels

/-- A passcode is created. -/
def creation (passcode : String) : EntryLabel :=
  .call (addPasscode 7252408 ⟨some passcode, some "guest", none, none⟩) ⟨200, addText⟩ sampleStamp
    sampleStamp

/-- **A PIN is dumped**: it is captured with the arguments of the request that creates it. -/
theorem created_pin_dumped :
    ¬ ∀ (rt : Runtime) (found : Setup) (resp resp' : HttpReply) (sending received : Stamp)
      (x x' : Integration) (τ : List (Move (Integration × Integration) (EntryLabel × EntryLabel)))
      (s : Integration × Integration), Lawful rt.lib → SameReply rt.lib resp resp' →
      asyncSetupEntry rt found resp sending received = .ok x →
      asyncSetupEntry rt found resp' sending received = .ok x' →
      Run (both (Integration.step rt)) (x, x') τ s →
      (∀ m ∈ τ, SameLabel rt.lib m.label.1 m.label.2) → SameDiagnostics rt s.1 s.2 := by
  intro h
  have hlabel : SameLabel sampleLib (creation "1234") (creation "5678") :=
    .call _ _ ⟨rfl, rfl⟩ ⟨rfl, .inl rfl⟩
  have hdiag := h sampleRuntime sampleSetup lockListReply lockListReply sampleStamp sampleStamp _ _
    _ _ sampleLib_lawful ⟨rfl, .inl rfl⟩ sampleEntry_setup sampleEntry_setup
    (run_play _ [(creation "1234", creation "5678")]) fun m hm => by
      rw [List.mem_singleton.mp (label_of_mem_play hm)]
      exact hlabel
  have hother : equal
      (asyncGetConfigEntryDiagnostics sampleRuntime ⟨0, 0⟩
        (sampleRuns [(creation "1234", creation "5678")]).2.1)
      (asyncGetConfigEntryDiagnostics sampleRuntime ⟨0, 0⟩
        (sampleRuns [(creation "1234", creation "5678")]).2.2) = false := by decide +kernel
  have heq := hdiag.configEntry ⟨0, 0⟩
  change asyncGetConfigEntryDiagnostics sampleRuntime ⟨0, 0⟩
      (sampleRuns [(creation "1234", creation "5678")]).2.1 =
    asyncGetConfigEntryDiagnostics sampleRuntime ⟨0, 0⟩
      (sampleRuns [(creation "1234", creation "5678")]).2.2 at heq
  rw [heq, equal_self] at hother
  cases hother

/-- The first poll gets the lock's details, with this password. -/
def detailed (adminPwd : String) : List EntryLabel :=
  [.start 0 .refresh sampleStamp, .reply 0 0 ⟨200, detailText adminPwd⟩ sampleStamp sampleStamp]

/-- A password in the lock's details is not dumped. -/
theorem polled_password_not_dumped :
    (sampleRuns ((detailed "111111").zip (detailed "222222"))).1.length = 2 ∧
      SameDiagnostics sampleRuntime (sampleRuns ((detailed "111111").zip (detailed "222222"))).2.1
        (sampleRuns ((detailed "111111").zip (detailed "222222"))).2.2 := by
  have hloads1 : sampleLib.loads (detailText "111111") = .ok (detailBody "111111") := by rfl
  have hloads2 : sampleLib.loads (detailText "222222") = .ok (detailBody "222222") := by rfl
  have hreply : SameReply sampleLib ⟨200, detailText "111111"⟩ ⟨200, detailText "222222"⟩ :=
    ⟨rfl, .inr ⟨_, _, hloads1, hloads2, rfl⟩⟩
  have hcovered : ReplyCovered sampleLib ⟨200, detailText "111111"⟩ ⟨200, detailText "222222"⟩ := by
    refine ⟨fun h => absurd h (by decide), fun _ v w hv hw => ?_⟩
    rw [hloads1] at hv
    rw [hloads2] at hw
    cases hv
    cases hw
    rfl
  have hble : BluetoothCovered sampleLib ⟨200, detailText "111111"⟩ ⟨200, detailText "222222"⟩ := by
    intro v w hv hw
    rw [hloads1] at hv
    rw [hloads2] at hw
    cases hv
    cases hw
    exact ⟨rfl, rfl⟩
  refine ⟨by decide +kernel, ?_⟩
  refine run_diagnostics_eq sampleLib_lawful ⟨rfl, .inl rfl⟩ sampleEntry_setup sampleEntry_setup
    (run_play _ _) (fun m hm => ?_) fun m hm => ?_
  · rcases List.mem_pair.mp (label_of_mem_play hm) with h | h
    · rw [h]
      exact .start 0 .refresh sampleStamp
    · rw [h]
      exact .reply 0 0 sampleStamp sampleStamp hreply
  · rcases List.mem_pair.mp (label_of_mem_play hm) with h | h
    · rw [h]
      trivial
    · rw [h]
      exact ⟨hcovered, fun _ _ => hble⟩

end TTLockConnect.Diagnostics.Credentials
