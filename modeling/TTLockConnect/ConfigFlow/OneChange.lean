import TTLockConnect.Async.Budget
import TTLockConnect.ConfigFlow.Conversation
import TTLockConnect.Coordinator.Posting

/-! # One change an answer

No method of the client tries again, and no step of the flow does: whatever the cloud replies, what a
user asks for once is posted once at most. -/

namespace TTLockConnect.ConfigFlow.OneChange

open TTLockConnect.Text TTLockConnect.Models TTLockConnect.Coordinator.State
open TTLockConnect.Async.Coroutine TTLockConnect.Async.Coroutine.Coro TTLockConnect.Async.Runs
open TTLockConnect.Async.Component TTLockConnect.Async.EventLoop TTLockConnect.Async.Mutex
open TTLockConnect.Async.Budget TTLockConnect.ConfigFlow.Panel TTLockConnect.ConfigFlow.Conversation
open TTLockConnect.Cloud.Client (HttpRequest HttpReply Verb Kwargs)

/-! ### The methods of the client -/

/-- A POST. -/
def posts : Demand HttpRequest → Bool
  | .ask (.send .post _ _) => true
  | _ => false

section Methods
variable {α : Type} {m : Cloud.Client.Method α} {taken : Bool} {b : ℕ}
  (client : ℕ) (verb : Verb) (path : String) (kwargs : Kwargs)

theorem spends_ask {q : HttpRequest} (h : (posts (.ask q)).toNat ≤ b) :
    Spends posts b (ask q : Cloud.Client.Method (HttpReply q)) := spends_call h

theorem spends_withLock (h : Spends posts b m) : Spends posts b (withLock m) := by
  have hacquire : Spends posts 0 (call Demand.acquire : Cloud.Client.Method Unit) :=
    spends_call (Nat.le_refl 0)
  have hrelease : ∀ p : Cloud.Client.Method α, Spends posts 0 p →
      Spends posts 0 (do release; p) := fun p h _ => h
  refine hacquire.free_bind fun _ => Spends.bind (m := 0) ?_ fun a => hrelease (pure a) trivial
  exact spends_tryCatch (m := 0) (fun err => hrelease (throw err) trivial) m h

theorem spends_parseResp (status : ℕ) : Spends posts 0 (Cloud.Client.parseResp path status) := by
  have hjson : Spends posts 0 (ask (HttpRequest.json path) : Cloud.Client.Method Cloud.Client.Body) :=
    spends_ask (Nat.le_refl 0)
  have htext : Spends posts 0 (ask (HttpRequest.text path) : Cloud.Client.Method String) :=
    spends_ask (Nat.le_refl 0)
  refine spends_ite (htext.free_bind fun _ => trivial) ?_
  exact hjson.free_bind fun _ => hjson.free_bind fun res => spends_ite trivial hjson

/-- **A request is sent once.** -/
theorem spends_send : Spends posts 1 (Cloud.Client.send client verb path kwargs) := by
  have htoken : Spends posts 0 (Cloud.Client.asyncGetAccessToken client) := by
    refine Spends.free_bind (spends_ask (Nat.le_refl 0)) fun validToken => ?_
    cases validToken
    · exact spends_ask (Nat.le_refl 0)
    · exact trivial
  refine htoken.free_bind fun _ => Spends.bind (m := 0) (spends_ask (Bool.toNat_le _)) ?_
  exact spends_parseResp path

theorem spends_relay : Spends posts 1 (Cloud.Client.relay client verb path kwargs) := by
  refine Spends.bind (m := 0) (spends_withLock (spends_send client verb path kwargs)) fun res => ?_
  refine spends_ite ?_ trivial
  cases res.errmsg <;> exact trivial

theorem spends_ekeyAction (a : EkeyAction) (keyId : ℤ) :
    Spends posts 1 (a.method client keyId) := by
  cases a <;> exact Spends.bind (m := 0) (spends_send client _ _ _) fun _ => trivial

end Methods

/-! ### The steps -/

/-- A POST, of the flow itself or of a coordinator. -/
def changes : Panel.Request → Bool
  | .http q => posts q
  | .api q => Coordinator.Posting.isPost q

section Steps
variable {isdigit : Char → Bool} {epochMs : Instant → ℤ} {α : Type} {b : ℕ}

theorem spends_onCoordinator {m : Coordinator.Poll.Method α}
    (h : Spends Coordinator.Posting.isPost b m) : Spends changes b (onCoordinator m) :=
  spends_within (fun _ => rfl) m h

theorem spends_refreshCodes : Spends changes 0 (onCoordinator Coordinator.Poll.asyncRefreshCodes) :=
  spends_onCoordinator Coordinator.Posting.reads_asyncRefreshCodes

theorem spends_onApi {m : Cloud.Client.Method α} (h : Spends posts b m) :
    Spends changes b (onApi m) := spends_within (fun _ => rfl) m h

theorem spends_lockMenu : Spends changes 0 asyncStepLockMenu := by
  have hmenu : Spends changes 0 (do
      let f ← get
      pure (.menu (showMenu f.coordinator.data)) : Step FlowResult) := fun _ => trivial
  refine spends_get_bind fun f => spends_ite ?_ hmenu
  exact spends_refreshCodes.free_bind fun _ => hmenu

theorem spends_settle {m : Cloud.Client.Method α} {taken : α → Bool} {refused : Step FlowResult}
    (hm : Spends posts 1 m) (hrefused : Spends changes 0 refused) :
    Spends changes 1 (settle m taken refused) := by
  refine Spends.bind (m := 0) (spends_onApi hm) fun result => spends_ite ?_ hrefused
  exact spends_refreshCodes.free_bind fun _ => spends_lockMenu

theorem spends_deletePinForm (errors : Errors) : Spends changes 0 (deletePinForm errors) :=
  fun _ => spends_ite spends_lockMenu trivial

theorem spends_addPin (input : Option AddPinInput) :
    Spends changes 1 (asyncStepAddPin isdigit epochMs input) := by
  have hform : ∀ errors {b}, Spends changes b (addPinForm errors) := fun _ _ _ => trivial
  cases input with
  | none => exact hform _
  | some input =>
    refine spends_ite (hform _) ?_
    cases periodMs epochMs input.startTime input.endTime with
    | none => exact hform _
    | some period => exact fun _ => spends_settle (spends_relay _ _ _ _) (hform _)

theorem spends_deletePin (input : Option DeletePinInput) :
    Spends changes 1 (asyncStepDeletePin input) := by
  cases input with
  | none => exact spends_mono _ (Nat.zero_le 1) (spends_deletePinForm [])
  | some input =>
    refine spends_get_bind fun f => Spends.free_bind (spends_fromExcept _) fun passcodeId => ?_
    exact spends_settle (spends_relay _ _ _ _) (spends_deletePinForm _)

theorem spends_sendEkey (input : Option SendEkeyInput) :
    Spends changes 1 (asyncStepSendEkey epochMs input) := by
  have hform : ∀ errors {b}, Spends changes b (sendEkeyForm errors) := fun _ _ _ => trivial
  cases input with
  | none => exact hform _
  | some input =>
    rw [asyncStepSendEkey]
    cases periodMs epochMs input.startTime input.endTime with
    | none => exact hform _
    | some period =>
      refine fun f => spends_settle (Spends.bind (m := 0) (spends_send _ _ _ _) fun _ => ?_) (hform _)
      exact trivial

theorem spends_ekey (a : EkeyAction) (ekey : Option String) :
    Spends changes 1 (ekeyActionStep a ekey) := by
  cases ekey with
  | none => exact fun _ => spends_ite (spends_mono _ (Nat.zero_le 1) spends_lockMenu) trivial
  | some ekey =>
    refine spends_get_bind fun f => Spends.free_bind (spends_fromExcept _) fun keyId => ?_
    refine Spends.bind (m := 0) (spends_onApi (spends_ekeyAction f.api a keyId)) fun _ => ?_
    exact spends_refreshCodes.free_bind fun _ => spends_lockMenu

end Steps

/-! ### The flows -/

section Flows
variable {n k : ℕ} {O : Type} {isdigit : Char → Bool} {epochMs : Instant → ℤ} {d : Dialog n}
  {s : Flows n k O} {f : Fin k} {b : ℕ}

/-- The same, of a request about a lock. -/
def changesLock (q : Fin n × Panel.Request) : Bool := changes q.2

theorem spends_onLock {p : Step FlowResult} (coordinator : Option (Fin n)) (h : Spends changes b p) :
    Spends changesLock b (onLock coordinator p : Flowing n k O (Outcome n O)) := by
  cases coordinator with
  | none => exact trivial
  | some i => exact Spends.bind (m := 0) (spends_within (fun _ => rfl) p h) fun _ _ => trivial

theorem spends_goOn (d : Dialog n) (r : Except PyError (Pick n)) :
    Spends changesLock 1 (goOn d r : Option (Fin n) × Flowing n k O (Outcome n O)).2 := by
  cases r with
  | error err => exact trivial
  | ok pick =>
    cases pick with
    | abort | form => exact trivial
    | lock i => exact spends_onLock (some i) (spends_mono _ (Nat.zero_le 1) spends_lockMenu)

/-- **A step posts once at most.** -/
theorem spends_answer (input : UserInput O) :
    Spends changesLock 1 (answer isdigit epochMs s d input).2 := by
  cases input with
  | next step =>
    cases step with
    | init | cadence | finish => exact trivial
    | codes => exact spends_goOn d _
    | lockMenu => exact spends_onLock _ (spends_mono _ (Nat.zero_le 1) spends_lockMenu)
    | addPin => exact spends_onLock _ (spends_addPin none)
    | deletePin => exact spends_onLock _ (spends_deletePin none)
    | sendEkey => exact spends_onLock _ (spends_sendEkey none)
    | ekey a => exact spends_onLock _ (spends_ekey a none)
  | cadence options => exact trivial
  | lock lock => exact spends_goOn d _
  | addPin input => exact spends_onLock _ (spends_addPin (some input))
  | deletePin input => exact spends_onLock _ (spends_deletePin (some input))
  | sendEkey input => exact spends_onLock _ (spends_sendEkey (some input))
  | ekey ekey =>
    rw [answer]
    cases d.shown.action with
    | none => exact trivial
    | some a => exact spends_onLock _ (spends_ekey a (some ekey))

/-- What a job may post: an answer once, a coordinator's job what it posts, all else nothing. -/
def changeBudget : Job n k O → ℕ
  | .configure _ _ => 1
  | .coordinator _ job => Coordinator.Posting.budget job
  | .loaded _ | .options _ => 0

theorem spends_prog (w : Job n k O) : Spends changesLock (changeBudget w) (prog isdigit epochMs w) := by
  cases w with
  | loaded loaded | options options => exact fun _ => trivial
  | coordinator i job =>
    have hjob := spends_onCoordinator (Coordinator.Posting.spends_prog job)
    exact spends_within (fun _ => rfl) _ hjob
  | configure f input =>
    refine spends_get_bind fun s => ?_
    cases s.dialogs f with
    | none => exact trivial
    | some d =>
      refine spends_ite ?_ trivial
      have hanswer : Spends changesLock 1 (answer isdigit epochMs s d input).2 := spends_answer input
      revert hanswer
      generalize answer isdigit epochMs s d input = x
      obtain ⟨coordinator, p⟩ := x
      intro hanswer
      refine spends_modify_bind (Spends.bind (m := 0) hanswer fun outcome => ?_)
      cases outcome <;> exact fun _ => trivial

variable {c : Fin n → LockUpdateCoordinator} {api : ℕ} {options : O} {P : Loop n k O}
  {τ : List (Move (Loop n k O) (FlowLabel n k O))}

/-- **An answer makes one change at most**: in every interleaving, of what a task has sent so far, with
the request it waits for, one request is a POST if the task works on an answer or sets the auto-lock or
the lock sound, and none if it does anything else; so when it is over. -/
theorem one_change
    (hr : Run (fun P l => P.step (prog isdigit epochMs) l) (opened k c api options) τ P) :
    ∀ m ∈ τ, (∀ t ∈ m.dst.tasks,
        spent changesLock t.log + (changesLock t.req).toNat ≤ changeBudget t.job) ∧
      ∀ e, m.src.ended (prog isdigit epochMs) m.label = some e →
        spent changesLock e.log ≤ changeBudget e.job :=
  run_within spends_prog hr

/-- The cloud is down when the ekey is to be frozen. -/
def failing : List (Move (Loop 1 1 Unit) (FlowLabel 1 1 Unit)) :=
  (play (fun P l => P.step (prog Char.isDigit (· / 1000)) l) (opened 1 oneEkey 0 ())
    (freezing ++ [.reply 0 sampleAnswers])).1

theorem one_change_failing :
    (failing.filterMap fun m => (m.src.ended (prog Char.isDigit (· / 1000)) m.label).map
      fun e => spent changesLock e.log) = [0, 0, 1] ∧
    ∀ m ∈ failing, (∀ t ∈ m.dst.tasks,
        spent changesLock t.log + (changesLock t.req).toNat ≤ changeBudget t.job) ∧
      ∀ e, m.src.ended (prog Char.isDigit (· / 1000)) m.label = some e →
        spent changesLock e.log ≤ changeBudget e.job := by
  refine ⟨by rfl, ?_⟩
  exact one_change (run_play (opened 1 oneEkey 0 ()) (freezing ++ [.reply 0 sampleAnswers]))

end Flows

end TTLockConnect.ConfigFlow.OneChange
