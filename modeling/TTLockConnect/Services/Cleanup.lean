import TTLockConnect.Coordinator.Poll

/-! # The service that cleans up passcodes

`Services.handle_cleanup_passcodes` for the entities of a call: the passcodes of each lock are listed,
the expired ones are deleted one by one, and the lock's codes are listed again if one was deleted. The
clock stands still and the lists of the cloud are those of a `Cloud`, which also says what it replies
to each deletion. -/

namespace TTLockConnect.Services.Cleanup

open TTLockConnect.Text TTLockConnect.Models TTLockConnect.Coordinator.State
open TTLockConnect.Coordinator.Poll
open TTLockConnect.Async.Coroutine TTLockConnect.Async.Coroutine.Coro

abbrev EntityId := String

/-! ### Home Assistant and its requests -/

/-- The clock and the `n` coordinators, by the order of `async_entries` and of their entries. -/
structure Hass (n : ℕ) where
  now : LocalTime
  coordinators : Fin n → LockUpdateCoordinator
  /-- `coordinator.entities` -/
  entities : Fin n → List EntityId

/-- What is awaited. -/
inductive Request where
  /-- a call of a coordinator -/
  | api (q : Api.Request)
  /-- `keyboardPwd/delete` -/
  | keyboardPwdDelete (lockId passcodeId : ℤ)
  deriving DecidableEq, Repr

/-- The body of the reply to a deletion. -/
structure DeleteBody where
  errcode : Option ℤ
  errmsg : Option String
  deriving DecidableEq, Repr

/-- The reply to a request; of a deletion, the body as it arrives. -/
abbrev Reply : Request → Type
  | .api q => Api.Reply q
  | .keyboardPwdDelete _ _ => DeleteBody

variable {n : ℕ}

/-- A coroutine of the service. -/
abbrev Handler (n : ℕ) (α : Type) := Coro (Hass n) Request Reply PyError α

/-! ### Methods of a coordinator -/

namespace Hass

/-- `coordinator.lock_id` -/
def lockId (s : Hass n) (i : Fin n) : ℤ := (s.coordinators i).lockId

/-- Coordinator `i`, at the time it is. -/
def coordinator (s : Hass n) (i : Fin n) : LockUpdateCoordinator :=
  { s.coordinators i with now := s.now }

def setCoordinator (s : Hass n) (i : Fin n) (c : LockUpdateCoordinator) : Hass n :=
  { s with coordinators := Function.update s.coordinators i c }

/-- `coordinator_for`. -/
def coordinatorFor (s : Hass n) (entityId : EntityId) : Option (Fin n) :=
  (List.finRange n).find? fun i => (s.entities i).contains entityId

/-- `_get_coordinators`: the keys of the dict are different. -/
def getCoordinators (s : Hass n) (entityIds : List EntityId) : List (EntityId × Fin n) :=
  entityIds.eraseDups.filterMap fun entityId => (s.coordinatorFor entityId).map (entityId, ·)

end Hass

/-- A method of coordinator `i`, awaited by the service. -/
def onCoordinator {α : Type} (i : Fin n) : Method α → Handler n α
  | .ret a => .ret a
  | .raise e => .raise e
  | .get k => .get fun s => onCoordinator i (k (s.coordinator i))
  | .set c k => .get fun s => .set (s.setCoordinator i c) (onCoordinator i k)
  | .await q k => .await (.api q) fun r => onCoordinator i (k r)

/-! ### The handler -/

/-- `_parse_resp`, behind the status. -/
def parseResp (res : DeleteBody) : Except PyError DeleteBody :=
  if res.errcode.getD 0 ≠ 0 then .error .requestFailed else .ok res

/-- What `delete_passcode` makes of a body. -/
def accepted (res : DeleteBody) : Except PyError Bool :=
  if res.errcode.getD 0 ≠ 0 then
    match res.errmsg with
    | some _ => .ok false
    | none => .error .keyError
  else .ok true

/-- `TTLockApi.delete_passcode`. -/
def deletePasscode (lockId passcodeId : ℤ) : Handler n Bool := do
  let body : DeleteBody ← call (Request.keyboardPwdDelete lockId passcodeId)
  let res ← fromExcept (parseResp body)
  fromExcept (accepted res)

/-- One passcode: `removed_for_lock` after it. -/
def cleanupCode (lockId : ℤ) (removedForLock : List (Option String)) (code : Passcode) :
    Handler n (List (Option String)) := do
  let s ← get
  match code.expired s.now, code.id with
  | true, some passcodeId =>
    if ← deletePasscode lockId passcodeId then pure (removedForLock ++ [code.name])
    else pure removedForLock
  | _, _ => pure removedForLock

/-- `removed`: the names by entity. -/
abbrev Removed := List (EntityId × List (Option String))

/-- One entity: `removed` after it. -/
def cleanupLock (removed : Removed) (e : EntityId × Fin n) : Handler n Removed := do
  let s ← get
  let codes ← onCoordinator e.2 (Api.listPasscodes (s.lockId e.2))
  let removedForLock ← codes.foldlM (cleanupCode (s.lockId e.2)) []
  if removedForLock ≠ [] then
    onCoordinator e.2 asyncRefreshCodes
    pure (removed ++ [(e.1, removedForLock)])
  else pure removed

/-- `Services.handle_cleanup_passcodes`. -/
def handleCleanupPasscodes (entityIds : List EntityId) : Handler n Removed := do
  let s ← get
  (s.getCoordinators entityIds).foldlM cleanupLock []

/-! ### The cloud -/

/-- What the cloud replies, by lock and by passcode. -/
structure Cloud where
  passcodes : ℤ → List Passcode
  ekeys : ℤ → List Ekey
  verdict : ℤ → ℤ → DeleteBody

namespace Cloud

/-- The passcode is deleted. -/
def accepts (w : Cloud) (lockId passcodeId : ℤ) : Bool :=
  decide ((w.verdict lockId passcodeId).errcode.getD 0 = 0)

/-- The reply to a request; the service sends no others. -/
def reply (w : Cloud) : (q : Request) → Except PyError (Reply q)
  | .api (.listKeyboardPwd lockId) => .ok (w.passcodes lockId)
  | .api (.listKey lockId) => .ok (w.ekeys lockId)
  | .keyboardPwdDelete lockId passcodeId => .ok (w.verdict lockId passcodeId)
  | .api _ => .error .requestFailed

def answer (w : Cloud) (q : Request) (s : Hass n) : Except PyError (Reply q) × Hass n :=
  (w.reply q, s)

end Cloud

/-! ### Deletions against the cloud -/

/-- The id under which a passcode is deleted, if it is. -/
def due (now : LocalTime) (code : Passcode) : Option ℤ :=
  if code.expired now then code.id else none

section Runs
variable (w : Cloud) (s : Hass n) (lockId : ℤ)

/-- No deletion of this passcode is refused. -/
def Cloud.allows (now : LocalTime) (code : Passcode) : Bool :=
  (due now code).all (w.accepts lockId)

/-- The names of the passcodes whose deletion is accepted. -/
def Cloud.deletedNames (now : LocalTime) (codes : List Passcode) : List (Option String) :=
  (codes.filter fun code => (due now code).any (w.accepts lockId)).map (·.name)

theorem run_deletePasscode (id : ℤ) :
    (deletePasscode lockId id).run w.answer s =
      (if w.accepts lockId id then .ok true else .error .requestFailed, s) := by
  by_cases h : (w.verdict lockId id).errcode.getD 0 = 0 <;>
    simp [deletePasscode, run_bind, Cloud.answer, Cloud.reply, Cloud.accepts, parseResp, accepted, h]

theorem calls_deletePasscode (id : ℤ) :
    (deletePasscode lockId id).calls w.answer s = [(.keyboardPwdDelete lockId id, s)] := by
  have hsilent : ∀ (body : DeleteBody) (s : Hass n), Coro.calls (w.answer (n := n))
      (do let res ← fromExcept (parseResp body); fromExcept (accepted res)) s = [] := by
    intro body s
    rw [calls_bind, calls_fromExcept, List.nil_append]
    split
    · exact calls_fromExcept _ _ _
    · rfl
  rw [deletePasscode, calls_bind_of_silent _ hsilent, calls_call]

/-- One passcode: its name is reported if its deletion is accepted. -/
theorem run_cleanupCode (removed : List (Option String)) (code : Passcode) :
    (cleanupCode lockId removed code).run w.answer s =
      (if w.allows lockId s.now code
        then .ok (removed ++ w.deletedNames lockId s.now [code])
        else .error .requestFailed, s) := by
  cases hexpired : code.expired s.now with
  | false =>
    simp [cleanupCode, run_bind, Cloud.allows, Cloud.deletedNames, due, hexpired]
  | true =>
    cases hid : code.id with
    | none => simp [cleanupCode, run_bind, Cloud.allows, Cloud.deletedNames, due, hexpired, hid]
    | some id =>
      by_cases h : w.accepts lockId id <;>
        simp [cleanupCode, run_bind, run_deletePasscode, Cloud.allows, Cloud.deletedNames, due,
          hexpired, hid, h]

theorem calls_cleanupCode (removed : List (Option String)) (code : Passcode) :
    (cleanupCode lockId removed code).calls w.answer s =
      (due s.now code).toList.map fun id => (.keyboardPwdDelete lockId id, s) := by
  cases hexpired : code.expired s.now with
  | false => simp [cleanupCode, calls_bind, due, hexpired]
  | true =>
    cases hid : code.id with
    | none => simp [cleanupCode, calls_bind, due, hexpired, hid]
    | some id =>
      have hsilent : ∀ (done : Bool) (s : Hass n), Coro.calls (w.answer (n := n))
          (if done then pure (removed ++ [code.name]) else pure removed) s = [] := by
        intro done s
        cases done <;> rfl
      have hcalls : (cleanupCode lockId removed code).calls w.answer s =
          [(.keyboardPwdDelete lockId id, s)] := by
        simp only [cleanupCode, calls_bind, calls_get, run_get, hexpired, hid, List.nil_append]
        rw [← calls_bind, calls_bind_of_silent _ hsilent, calls_deletePasscode]
      simp [hcalls, due, hexpired, hid]

/-- The passcodes of one lock: a refused deletion ends the loop. -/
theorem run_cleanupCodes (codes : List Passcode) (removed : List (Option String)) :
    (codes.foldlM (cleanupCode lockId) removed : Handler n _).run w.answer s =
      (if codes.all (w.allows lockId s.now)
        then .ok (removed ++ w.deletedNames lockId s.now codes)
        else .error .requestFailed, s) := by
  induction codes generalizing removed with
  | nil => simp [Cloud.deletedNames]
  | cons code codes ih =>
    have hnames : w.deletedNames lockId s.now (code :: codes) =
        w.deletedNames lockId s.now [code] ++
          w.deletedNames lockId s.now codes := by
      simp only [Cloud.deletedNames, ← List.map_append, ← List.filter_append, List.singleton_append]
    rw [List.foldlM_cons, run_bind, run_cleanupCode]
    cases hallows : w.allows lockId s.now code with
    | false => simp [hallows]
    | true => simp [hallows, ih, hnames, List.append_assoc]

/-- **Each passcode that is due is attempted once**, as long as none is refused. -/
theorem calls_cleanupCodes (codes : List Passcode) (removed : List (Option String))
    (hall : codes.all (w.allows lockId s.now) = true) :
    (codes.foldlM (cleanupCode lockId) removed : Handler n _).calls w.answer s =
      (codes.filterMap (due s.now)).map fun id => (.keyboardPwdDelete lockId id, s) := by
  induction codes generalizing removed with
  | nil => rfl
  | cons code codes ih =>
    rw [List.all_cons, Bool.and_eq_true] at hall
    obtain ⟨hcode, hcodes⟩ := hall
    rw [List.foldlM_cons, calls_bind, run_cleanupCode, calls_cleanupCode, if_pos hcode]
    dsimp only
    rw [ih _ hcodes]
    cases hdue : due s.now code <;> simp [hdue]

/-- What is attempted is due, whatever is refused. -/
theorem mem_calls_cleanupCodes {codes : List Passcode} {removed : List (Option String)}
    {m : Request × Hass n}
    (hm : m ∈ (codes.foldlM (cleanupCode lockId) removed : Handler n _).calls w.answer s) :
    ∃ code ∈ codes, ∃ id ∈ due s.now code, m.1 = .keyboardPwdDelete lockId id := by
  induction codes generalizing removed with
  | nil => cases hm
  | cons code codes ih =>
    rw [List.foldlM_cons, calls_bind, run_cleanupCode, calls_cleanupCode] at hm
    rcases List.mem_append.mp hm with hm | hm
    · obtain ⟨id, hid, rfl⟩ := List.mem_map.mp hm
      exact ⟨code, List.mem_cons_self, id, Option.mem_toList.mp hid, rfl⟩
    · by_cases hcode : w.allows lockId s.now code = true
      · rw [if_pos hcode] at hm
        obtain ⟨code', hcode', h⟩ := ih hm
        exact ⟨code', List.mem_cons_of_mem _ hcode', h⟩
      · rw [if_neg hcode] at hm
        cases hm

/-! ### Entities -/

/-- Home Assistant once the codes of coordinator `i` have been listed again. -/
def Cloud.refreshed (i : Fin n) : Hass n :=
  let c := s.coordinator i
  s.setCoordinator i (setUpdatedData
    { c.data with passcodes := some (w.passcodes c.lockId), ekeys := some (w.ekeys c.lockId) }
    { c with codesLastFetched := some s.now })

theorem run_asyncRefreshCodes (i : Fin n) :
    (onCoordinator i asyncRefreshCodes).run w.answer s = (.ok (), w.refreshed s i) := rfl

theorem calls_asyncRefreshCodes (i : Fin n) :
    (onCoordinator i asyncRefreshCodes).calls w.answer s =
      [(.api (.listKeyboardPwd (s.lockId i)), s), (.api (.listKey (s.lockId i)), s)] := rfl

/-- The names deleted on a lock. -/
def Cloud.deleted (now : LocalTime) : List (Option String) :=
  w.deletedNames lockId now (w.passcodes lockId)

/-- No deletion on this lock is refused. -/
def Cloud.settles (now : LocalTime) : Bool := (w.passcodes lockId).all (w.allows lockId now)

/-- What is reported for an entity. -/
def Cloud.report (now : LocalTime) (entityId : EntityId) : Removed :=
  if w.deleted lockId now ≠ [] then [(entityId, w.deleted lockId now)] else []

/-- What is requested for a lock: the list, each deletion that is due once, and the lists again if a
deletion is accepted. -/
def Cloud.requests (now : LocalTime) : List Request :=
  .api (.listKeyboardPwd lockId) ::
    ((w.passcodes lockId).filterMap (due now)).map (.keyboardPwdDelete lockId ·) ++
    if w.deleted lockId now ≠ [] then [.api (.listKeyboardPwd lockId), .api (.listKey lockId)] else []

/-- Home Assistant once an entity is done. -/
def Cloud.cleaned (i : Fin n) : Hass n :=
  if w.deleted (s.lockId i) s.now ≠ [] then w.refreshed s i else s

/-- The passcodes of a lock as its entity finds them. -/
theorem run_listPasscodes (i : Fin n) :
    (onCoordinator i (Api.listPasscodes lockId)).run w.answer s =
      (.ok (w.passcodes lockId), s) := rfl

theorem calls_listPasscodes (i : Fin n) :
    (onCoordinator i (Api.listPasscodes lockId)).calls w.answer s =
      [(.api (.listKeyboardPwd lockId), s)] := rfl

theorem run_cleanupLock (removed : Removed) (e : EntityId × Fin n) :
    (cleanupLock removed e).run w.answer s =
      if w.settles (s.lockId e.2) s.now
        then (.ok (removed ++ w.report (s.lockId e.2) s.now e.1), w.cleaned s e.2)
        else (.error .requestFailed, s) := by
  rw [cleanupLock, run_bind, run_get]
  dsimp only
  rw [run_bind, run_listPasscodes]
  dsimp only
  rw [run_bind, run_cleanupCodes]
  cases hsettles : w.settles (s.lockId e.2) s.now with
  | false =>
    rw [Cloud.settles] at hsettles
    simp [hsettles]
  | true =>
    rw [Cloud.settles] at hsettles
    rw [if_pos hsettles, List.nil_append, ← Cloud.deleted]
    by_cases hnames : w.deleted (s.lockId e.2) s.now = []
    · simp [hnames, Cloud.report, Cloud.cleaned]
    · simp [hnames, Cloud.report, Cloud.cleaned, run_bind, run_asyncRefreshCodes]

theorem calls_cleanupLock (removed : Removed) (e : EntityId × Fin n)
    (hsettles : w.settles (s.lockId e.2) s.now = true) :
    (cleanupLock removed e).calls w.answer s =
      (w.requests (s.lockId e.2) s.now).map (·, s) := by
  rw [cleanupLock, calls_bind, calls_get, run_get]
  dsimp only
  rw [calls_bind, calls_listPasscodes, run_listPasscodes]
  dsimp only
  rw [calls_bind, run_cleanupCodes, calls_cleanupCodes w s _ _ _ hsettles]
  rw [Cloud.settles] at hsettles
  rw [if_pos hsettles, List.nil_append, ← Cloud.deleted]
  by_cases hnames : w.deleted (s.lockId e.2) s.now = []
  · simp [hnames, Cloud.requests]
  · simp [hnames, Cloud.requests, calls_bind, calls_asyncRefreshCodes, run_asyncRefreshCodes,
      Function.comp_def]

/-- What is deleted on a lock is due, whatever is refused. -/
theorem mem_calls_cleanupLock {removed : Removed} {e : EntityId × Fin n} {m : Request × Hass n}
    (hm : m ∈ (cleanupLock removed e).calls w.answer s) {l id : ℤ}
    (hdelete : m.1 = .keyboardPwdDelete l id) :
    l = s.lockId e.2 ∧ ∃ code ∈ w.passcodes l, id ∈ due s.now code := by
  rw [cleanupLock, calls_bind, calls_get, run_get, List.nil_append] at hm
  dsimp only at hm
  rw [calls_bind, calls_listPasscodes, run_listPasscodes] at hm
  dsimp only at hm
  rw [calls_bind] at hm
  rcases List.mem_append.mp hm with hm | hm
  · rw [List.mem_singleton.mp hm] at hdelete
    cases hdelete
  rcases List.mem_append.mp hm with hm | hm
  · obtain ⟨code, hcode, id', hid, hrequest⟩ := mem_calls_cleanupCodes w s _ hm
    rw [hrequest] at hdelete
    obtain ⟨rfl, rfl⟩ := Request.keyboardPwdDelete.inj hdelete
    exact ⟨rfl, code, hcode, hid⟩
  -- what comes behind the loop are lists
  rw [run_cleanupCodes] at hm
  split_ifs at hm with hall
  · dsimp only at hm
    split_ifs at hm with hnames
    · rw [calls_bind, calls_asyncRefreshCodes, run_asyncRefreshCodes] at hm
      have hlists : m.1 = .api (.listKeyboardPwd (s.lockId e.2)) ∨
          m.1 = .api (.listKey (s.lockId e.2)) := by
        simp only [calls_pure, List.append_nil, List.mem_cons, List.not_mem_nil, or_false] at hm
        rcases hm with rfl | rfl
        · exact Or.inl rfl
        · exact Or.inr rfl
      rcases hlists with h | h <;> rw [h] at hdelete <;> cases hdelete
    · cases hm
  · cases hm

end Runs

/-! ### The loop over the entities -/

/-- Time has not passed, and no coordinator has changed its lock. -/
structure SameLocks (s s' : Hass n) : Prop where
  now : s'.now = s.now
  lockId : ∀ i, s'.lockId i = s.lockId i

theorem cleaned_same (w : Cloud) (s : Hass n) (i : Fin n) : SameLocks s (w.cleaned s i) := by
  unfold Cloud.cleaned
  split_ifs with hnames
  · refine ⟨rfl, fun j => ?_⟩
    by_cases hij : j = i
    · subst hij
      simp [Cloud.refreshed, Hass.setCoordinator, Hass.lockId, Hass.coordinator, setUpdatedData]
    · simp [Cloud.refreshed, Hass.setCoordinator, Hass.lockId, Function.update_of_ne hij]
  · exact ⟨rfl, fun _ => rfl⟩

section Loop
variable (w : Cloud) (s : Hass n) (es : List (EntityId × Fin n))

/-- No deletion is refused on any of the locks. -/
def Cloud.settlesAll : Bool := es.all fun e => w.settles (s.lockId e.2) s.now

theorem settlesAll_iff : w.settlesAll s es = true ↔
    ∀ e ∈ es, ∀ code ∈ w.passcodes (s.lockId e.2), ∀ id ∈ due s.now code,
      w.accepts (s.lockId e.2) id = true := by
  simp only [Cloud.settlesAll, Cloud.settles, Cloud.allows, List.all_eq_true]
  refine forall_congr' fun e => forall_congr' fun _ => forall_congr' fun code =>
    forall_congr' fun _ => ?_
  cases due s.now code <;> simp

/-- What is reported for the entities. -/
def Cloud.reports : Removed := es.flatMap fun e => w.report (s.lockId e.2) s.now e.1

/-- What is requested for the entities. -/
def Cloud.allRequests : List Request :=
  es.flatMap fun e => w.requests (s.lockId e.2) s.now

variable {s} in
theorem SameLocks.loop_eq {s' : Hass n} (hs : SameLocks s s') :
    w.settlesAll s' es = w.settlesAll s es ∧ w.reports s' es = w.reports s es ∧
      w.allRequests s' es = w.allRequests s es := by
  simp only [Cloud.settlesAll, Cloud.reports, Cloud.allRequests, hs.now, hs.lockId, and_self]

/-- The result of the loop: it ends at the first lock with a refused deletion. -/
theorem run_cleanupLocks (removed : Removed) :
    ((es.foldlM cleanupLock removed).run w.answer s).1 =
      if w.settlesAll s es then .ok (removed ++ w.reports s es) else .error .requestFailed := by
  induction es generalizing s removed with
  | nil => simp [Cloud.settlesAll, Cloud.reports]
  | cons e es ih =>
    rw [List.foldlM_cons, run_bind, run_cleanupLock]
    have hall : w.settlesAll s (e :: es) =
        (w.settles (s.lockId e.2) s.now && w.settlesAll s es) := rfl
    rw [hall]
    cases hsettles : w.settles (s.lockId e.2) s.now with
    | false => rfl
    | true =>
      obtain ⟨hsettlesAll, hreports, -⟩ := (cleaned_same w s e.2).loop_eq w es
      rw [if_pos rfl]
      dsimp only
      rw [ih, hsettlesAll, hreports, Bool.true_and, List.append_assoc]
      rfl

/-- **What the loop requests**, as long as no deletion is refused. -/
theorem calls_cleanupLocks (removed : Removed) (hall : w.settlesAll s es = true) :
    ((es.foldlM cleanupLock removed).calls w.answer s).map Prod.fst = w.allRequests s es := by
  induction es generalizing s removed with
  | nil => rfl
  | cons e es ih =>
    obtain ⟨hsettles, hrest⟩ : w.settles (s.lockId e.2) s.now = true ∧
        w.settlesAll s es = true := by
      simpa [Cloud.settlesAll] using hall
    obtain ⟨hsettlesAll, -, hrequests⟩ := (cleaned_same w s e.2).loop_eq w es
    rw [List.foldlM_cons, calls_bind, run_cleanupLock, calls_cleanupLock w s _ _ hsettles,
      if_pos hsettles]
    dsimp only
    rw [List.map_append, ih _ _ (hsettlesAll.trans hrest), hrequests, List.map_map]
    simp [Cloud.allRequests, Function.comp_def]

variable {s es} in
/-- What the loop deletes is due, whatever is refused. -/
theorem mem_calls_cleanupLocks {removed : Removed} {m : Request × Hass n}
    (hm : m ∈ (es.foldlM cleanupLock removed).calls w.answer s) {l id : ℤ}
    (hdelete : m.1 = .keyboardPwdDelete l id) :
    ∃ e ∈ es, l = s.lockId e.2 ∧ ∃ code ∈ w.passcodes l, id ∈ due s.now code := by
  induction es generalizing s removed with
  | nil => cases hm
  | cons e es ih =>
    rw [List.foldlM_cons, calls_bind] at hm
    rcases List.mem_append.mp hm with hm | hm
    · exact ⟨e, List.mem_cons_self, mem_calls_cleanupLock w s hm hdelete⟩
    · rw [run_cleanupLock] at hm
      split_ifs at hm with hsettles
      · obtain ⟨e', he', hl, hdue⟩ := ih hm
        have hs := cleaned_same w s e.2
        rw [hs.lockId] at hl
        rw [hs.now] at hdue
        exact ⟨e', List.mem_cons_of_mem _ he', hl, hdue⟩
      · cases hm

end Loop

/-- A lock with the entity `lock.door`. -/
def oneLock (now : LocalTime) : Hass 1 where
  now := now
  coordinators _ :=
    { lockId := 7, connectable := true, hasGateway := true, slowInterval := 1
      slowInterval_pos := Int.one_pos, webhookOnly := false, bluetoothAvailable := false
      data := { name := "door", mac := "00:00" }, now := now }
  entities _ := ["lock.door"]

end TTLockConnect.Services.Cleanup
