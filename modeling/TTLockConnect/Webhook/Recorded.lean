import TTLockConnect.Async.Segments
import TTLockConnect.Async.TwoRuns
import TTLockConnect.Webhook.Register

/-! # What is recorded of siblings

`called` and `urls` are not part of Home Assistant: they record which handlers were called, and what
each call of `get_url` came to. The same is read off a run without them: `calls` are the labels, and
`outcomes` goes through `join_group` and `get_url` of every call once more, segment by segment, in the
states and with the replies of the run. The records are these two. -/

namespace TTLockConnect.Webhook.Recorded

open TTLockConnect.Async.Coroutine TTLockConnect.Async.Coroutine.Coro TTLockConnect.Async.Runs
open TTLockConnect.Async.EventLoop TTLockConnect.Async.Mutex TTLockConnect.Async.Segments
open TTLockConnect.Async.TwoRuns (forall₂_set forall₂_eraseIdx)
open TTLockConnect.Webhook.Group TTLockConnect.Webhook.Register

variable (clientId : String)

/-! ### What a run tells -/

/-- The handler that a step calls. -/
def caller : Register.Label → Option ℕ
  | .call self => some self
  | _ => none

/-- The handlers that were called in a run. -/
def calls (τ : List (Move System Register.Label)) : List ℕ := τ.filterMap fun m => caller m.label

/-- What a call of `get_url` comes to: a URL, or that there is none. -/
abbrev Outcome := ℕ × Option String

/-- Where a call is: in its first critical section, in `get_url`, or behind it. -/
inductive Stage where
  | joining (q : Demand Request) (k : Except WebhookError (Grant Reply q) → Method Ref)
  | asking (q : Demand Request) (k : Except WebhookError (Grant Reply q) → Method String)
  | past

/-- Where a segment of a coroutine of a handler stops. -/
abbrev Stops (α : Type) := Stop (Guarded Hass) (Demand Request) (Grant Reply) WebhookError α

/-- Where a call is whose `get_url` has come to this. -/
def asked (self : ℕ) : Stops String → Stage × List Outcome
  | .wait _ q k => (.asking q k, [])
  | .done (.ok url) _ => (.past, [(self, some url)])
  | .done (.error err) _ => (.past, if err = .noURLAvailable then [(self, none)] else [])

/-- Where a call is whose `join_group` has come to this; it goes on to `get_url` at once. -/
def joined (self : ℕ) : Stops Ref → Stage × List Outcome
  | .wait _ q k => (.joining q k, [])
  | .done (.ok r) s => asked self ((getUrl self).advance ⟨s.locked, syncAndListen self r s.data⟩)
  | .done (.error _) _ => (.past, [])

/-- How a call goes on from its stage. -/
def Stage.resume (self : ℕ) (answers : Answers) (s : Guarded Hass) : Stage → Stage × List Outcome
  | .joining q k => joined self ((k (answers.reply q)).advance s)
  | .asking q k => asked self ((k (answers.reply q)).advance s)
  | .past => (.past, [])

/-- The stages of the calls in flight after a step, and the outcomes there are in it. -/
def watch (m : Move System Register.Label) (stages : List Stage) : List Stage × List Outcome :=
  match m.label with
  | .call self =>
    let w := joined self ((joinGroup clientId self).advance m.src.shared)
    (stages ++ [w.1], w.2)
  | .reply i answers =>
    match m.src.tasks[i]?, stages[i]?, granted m.src (.reply i answers.reply) with
    | some t, some stage, some resumed =>
      let w := stage.resume t.job answers resumed.shared
      (if m.dst.tasks.length < m.src.tasks.length then stages.eraseIdx i else stages.set i w.1, w.2)
    | _, _, _ => (stages, [])
  | _ => (stages, [])

/-- The stages at the end of a run, and the outcomes in it. -/
def watched (τ : List (Move System Register.Label)) : List Stage × List Outcome :=
  τ.foldl (fun w m => ((watch clientId m w.1).1, w.2 ++ (watch clientId m w.1).2)) ([], [])

/-- **What the calls of `get_url` in a run have come to.** -/
def outcomes (τ : List (Move System Register.Label)) : List Outcome := (watched clientId τ).2

theorem watched_snoc (τ : List (Move System Register.Label)) (m : Move System Register.Label) :
    watched clientId (τ ++ [m]) = ((watch clientId m (watched clientId τ).1).1,
      (watched clientId τ).2 ++ (watch clientId m (watched clientId τ).1).2) := by
  unfold watched
  rw [List.foldl_append]
  rfl

/-! ### The parts of a call -/

/-- What follows `get_url`. -/
def closing (self : ℕ) (r : Ref) : Option String → Method Unit
  | none => pure ()
  | some url => do
    modifyData fun h => h.issue (.delete "no_webhook_url")
    modifyData (raiseSetupIssue clientId self r url)
    registerGroup r

/-- A coroutine for a URL, whose outcome is stored. -/
def storing (self : ℕ) (p : Method String) : Method (Option String) :=
  tryCatch (do
      let url ← p
      modifyData (urlFound self url)
      pure (some url))
    fun err =>
      if err = .noURLAvailable then do
        modifyData (urlMissing self)
        pure none
      else throw err

/-- What follows `join_group`. -/
def calling (self : ℕ) (r : Ref) : Method Unit := do
  modifyData (syncAndListen self r)
  storing self (getUrl self) >>= closing clientId self r

theorem registerWebhook_eq (self : ℕ) :
    registerWebhook clientId self = joinGroup clientId self >>= calling clientId self := by
  refine congrArg (joinGroup clientId self >>= ·) (funext fun r => ?_)
  refine congrArg (modifyData (syncAndListen self r) >>= ·) (funext fun _ => ?_)
  refine congrArg (storing self (getUrl self) >>= ·) (funext fun url => ?_)
  cases url with
  | none => rfl
  | some url => rfl

/-! ### What leaves the records alone -/

/-- The two records. -/
def records (h : Hass) : List ℕ × List Outcome := (h.called, h.urls)

/-- A part of a call that records nothing. -/
abbrev Unrecorded {α : Type} (p : Method α) : Prop := Quiet (ofData records) p

theorem unrecorded_hass : Unrecorded hass := quiet_get_bind fun _ => quiet_pure _

theorem unrecorded_ask (q : Request) : Unrecorded (ask q) := quiet_call _

theorem unrecorded_webhookIdOf (self : ℕ) : Unrecorded (webhookIdOf self) := by
  refine unrecorded_hass.bind fun h => ?_
  cases (h.entry self).webhookId with
  | some webhookId => exact quiet_pure _
  | none => exact quiet_throw _

theorem unrecorded_asyncGenerateUrl (webhookId : String) :
    Unrecorded (asyncGenerateUrl webhookId) := by
  refine unrecorded_hass.bind fun h => ?_
  cases h.environment.generateUrl webhookId with
  | some url => exact quiet_pure _
  | none => exact quiet_throw _

theorem unrecorded_tryGenerateCloudhook (self : ℕ) : Unrecorded (tryGenerateCloudhook self) := by
  refine unrecorded_hass.bind fun h => quiet_ite (Quiet.tryCatch ?_ fun err => ?_) (quiet_pure _)
  · exact (unrecorded_webhookIdOf self).bind fun _ => (unrecorded_ask _).bind fun _ => quiet_pure _
  · exact quiet_ite (quiet_pure _) (quiet_throw _)

theorem unrecorded_getUrl (self : ℕ) : Unrecorded (getUrl self) := by
  refine unrecorded_hass.bind fun h => ?_
  cases (h.entry self).webhookUrl with
  | some url => exact quiet_pure _
  | none =>
    refine (unrecorded_tryGenerateCloudhook self).bind fun cloudhook => ?_
    cases cloudhook.filter (· ≠ "") with
    | some url => exact quiet_pure _
    | none => exact (unrecorded_webhookIdOf self).bind unrecorded_asyncGenerateUrl

theorem unrecorded_implementationOf (candidate : ℕ) : Unrecorded (implementationOf candidate) := by
  refine Quiet.tryCatch ((unrecorded_ask _).bind fun _ => quiet_pure _) fun err => ?_
  exact quiet_ite (quiet_pure _) (quiet_throw _)

theorem unrecorded_groupMembers (self : ℕ) (candidates members : List ℕ) :
    Unrecorded (groupMembers clientId self candidates members) := by
  induction candidates generalizing members with
  | nil => exact quiet_pure _
  | cons candidate candidates ih =>
    exact quiet_ite (ih _) ((unrecorded_implementationOf candidate).bind fun _ => ih _)

theorem unrecorded_resolveGroup (self : ℕ) : Unrecorded (resolveGroup clientId self) := by
  refine unrecorded_hass.bind fun h => (unrecorded_groupMembers clientId self _ []).bind ?_
  refine fun members => unrecorded_hass.bind fun h => quiet_modifyData_bind (fun _ => rfl) ?_
  exact quiet_ite (quiet_modifyData_bind (fun _ => rfl) (quiet_pure _)) (quiet_pure _)

theorem unrecorded_ensureGroup (self : ℕ) : Unrecorded (ensureGroup clientId self) := by
  refine unrecorded_hass.bind fun h => ?_
  cases h.group with
  | some r => exact quiet_pure _
  | none =>
    refine (unrecorded_resolveGroup clientId self).bind fun resolved => unrecorded_hass.bind fun h => ?_
    exact quiet_modifyData_bind (fun _ => rfl) (quiet_pure _)

theorem unrecorded_joinGroup (self : ℕ) : Unrecorded (joinGroup clientId self) := by
  refine quiet_withLock ((unrecorded_ensureGroup clientId self).bind fun r => ?_)
  exact quiet_modifyData_bind (fun _ => rfl) (quiet_pure _)

theorem unrecorded_webhookRegister (webhookId : String) : Unrecorded (webhookRegister webhookId) := by
  refine quiet_modifyData_bind (fun _ => rfl) (unrecorded_hass.bind fun h => ?_)
  exact quiet_ite (quiet_throw _) (quiet_modifyData fun _ => rfl)

theorem unrecorded_registerGroup (r : Ref) : Unrecorded (registerGroup r) := by
  refine quiet_withLock (unrecorded_hass.bind fun h => quiet_ite (quiet_pure _) ?_)
  refine quiet_modifyData_bind (fun _ => rfl) ((unrecorded_webhookRegister _).bind fun _ => ?_)
  exact quiet_modifyData fun _ => rfl

theorem records_raiseSetupIssue (self : ℕ) (r : Ref) (url : String) (h : Hass) :
    records (raiseSetupIssue clientId self r url h) = records h := by
  unfold raiseSetupIssue
  split_ifs <;> rfl

theorem unrecorded_closing (self : ℕ) (r : Ref) (url : Option String) :
    Unrecorded (closing clientId self r url) := by
  cases url with
  | none => exact quiet_pure _
  | some url =>
    refine quiet_modifyData_bind (fun _ => rfl) ?_
    refine quiet_modifyData_bind (records_raiseSetupIssue clientId self r url) ?_
    exact unrecorded_registerGroup r

/-! ### A segment of a call -/

/-- A task and its stage. -/
inductive At : Task (Guarded Hass) (Demand Request) (Grant Reply) WebhookError ℕ → Stage → Prop
  | joining {self : ℕ} {born : Guarded Hass} {log : List (Exchange (Grant Reply) WebhookError)}
      {q : Demand Request} {k : Except WebhookError (Grant Reply q) → Method Ref} :
      (∀ a, Unrecorded (k a)) →
        At ⟨self, born, log, q, fun a => k a >>= calling clientId self⟩ (.joining q k)
  | asking {self : ℕ} {r : Ref} {born : Guarded Hass}
      {log : List (Exchange (Grant Reply) WebhookError)} {q : Demand Request}
      {k : Except WebhookError (Grant Reply q) → Method String} :
      (∀ a, Unrecorded (k a)) →
        At ⟨self, born, log, q, fun a => storing self (k a) >>= closing clientId self r⟩ (.asking q k)
  | past {t : Task (Guarded Hass) (Demand Request) (Grant Reply) WebhookError ℕ} :
      (∀ a, Unrecorded (t.cont a)) → At t .past

/-- What has become of a call in a segment that began with the records `c` and `u`: its outcomes are
added to the record, and it is at its stage. -/
def Watched (self : ℕ) (c : List ℕ) (u : List Outcome) (w : Stage × List Outcome) : Stops Unit → Prop
  | .done _ s => records s.data = (c, u ++ w.2)
  | .wait s q k => records s.data = (c, u ++ w.2) ∧ ∀ born log, At clientId ⟨self, born, log, q, k⟩ w.1

variable {clientId} {self : ℕ} {c : List ℕ} {u : List Outcome} {s : Guarded Hass} {r : Ref}

theorem watched_past {p : Method Unit} (hp : Unrecorded p) {os : List Outcome}
    (hs : records s.data = (c, u ++ os)) : Watched clientId self c u (.past, os) (p.advance s) := by
  cases hadv : p.advance s with
  | done res s' => exact Eq.trans (hp.done hadv) hs
  | wait s' q k =>
    obtain ⟨h, hk⟩ := hp.wait hadv
    exact ⟨Eq.trans h hs, fun _ _ => .past hk⟩

theorem watched_asked {p : Method String} (hp : Unrecorded p) (hs : records s.data = (c, u)) :
    Watched clientId self c u (asked self (p.advance s))
      ((storing self p >>= closing clientId self r).advance s) := by
  unfold storing
  rw [advance_bind, advance_tryCatch, advance_bind]
  cases hadv : p.advance s with
  | wait s' q k =>
    obtain ⟨h, hk⟩ := hp.wait hadv
    refine ⟨Eq.trans (h.trans hs) ?_, fun _ _ => .asking hk⟩
    rw [asked, List.append_nil]
  | done res s' =>
    have hasked : records s'.data = (c, u) := Eq.trans (hp.done hadv) hs
    obtain ⟨hc, hu⟩ : s'.data.called = c ∧ s'.data.urls = u := Prod.mk.inj hasked
    cases res with
    | ok url =>
      refine watched_past (unrecorded_closing clientId self r (some url)) ?_
      exact congrArg₂ Prod.mk hc (congrArg (· ++ [(self, some url)]) hu)
    | error err =>
      dsimp only [asked]
      by_cases herr : err = .noURLAvailable
      · rw [if_pos herr, if_pos herr]
        refine watched_past (unrecorded_closing clientId self r none) ?_
        exact congrArg₂ Prod.mk hc (congrArg (· ++ [(self, none)]) hu)
      · rw [if_neg herr, if_neg herr]
        exact congrArg₂ Prod.mk hc (hu.trans (List.append_nil u).symm)

theorem watched_joined {p : Method Ref} (hp : Unrecorded p) (hs : records s.data = (c, u)) :
    Watched clientId self c u (joined self (p.advance s))
      ((p >>= calling clientId self).advance s) := by
  rw [advance_bind]
  cases hadv : p.advance s with
  | wait s' q k =>
    obtain ⟨h, hk⟩ := hp.wait hadv
    refine ⟨Eq.trans (h.trans hs) ?_, fun _ _ => .joining hk⟩
    rw [joined, List.append_nil]
  | done res s' =>
    have hjoined : records s'.data = (c, u) := Eq.trans (hp.done hadv) hs
    cases res with
    | ok r => exact watched_asked (unrecorded_getUrl self) hjoined
    | error err =>
      refine hjoined.trans ?_
      rw [joined, List.append_nil]

/-- **A task goes on as its stage does.** -/
theorem watched_resume
    {t : Task (Guarded Hass) (Demand Request) (Grant Reply) WebhookError ℕ} {stage : Stage}
    (ht : At clientId t stage) (answers : Answers) (hs : records s.data = (c, u)) :
    Watched clientId t.job c u (stage.resume t.job answers s)
      ((t.cont (answers.reply t.req)).advance s) := by
  cases ht with
  | joining hk => exact watched_joined (hk _) hs
  | asking hk => exact watched_asked (hk _) hs
  | past hk =>
    refine watched_past (hk _) ?_
    rw [hs, List.append_nil]

/-! ### Every run -/

variable {environment : Environment} {entries : List Entry} {hooks : List String}
  {τ : List (Move System Register.Label)} {sys sys' : System} {l : Register.Label}

/-- The records so far, and the stages of the calls in flight. -/
structure RecordedSo (clientId : String) (cs : List ℕ) (w : List Stage × List Outcome)
    (sys : System) : Prop where
  records : records sys.shared.data = (cs, w.2)
  stages : List.Forall₂ (At clientId) sys.tasks w.1

theorem step_call {cs : List ℕ} {w : List Stage × List Outcome}
    (hi : RecordedSo clientId cs w sys)
    (h : Async.Mutex.step (prog clientId) sys (.start self) = some sys') :
    RecordedSo clientId (cs ++ [self]) ((watch clientId ⟨sys, .call self, sys'⟩ w.1).1,
      w.2 ++ (watch clientId ⟨sys, .call self, sys'⟩ w.1).2) sys' := by
  obtain ⟨hc, hu⟩ : sys.shared.data.called = cs ∧ sys.shared.data.urls = w.2 :=
    Prod.mk.inj hi.records
  -- the call is recorded, and then waits for the lock
  set s : Guarded Hass :=
    ⟨sys.shared.locked, { sys.shared.data with called := sys.shared.data.called ++ [self] }⟩
  have hcalled : records s.data = (cs ++ [self], w.2) :=
    congrArg₂ Prod.mk (congrArg (· ++ [self]) hc) hu
  have hw : Watched clientId self (cs ++ [self]) w.2 (joined self ((joinGroup clientId self).advance s))
      ((joinGroup clientId self >>= calling clientId self).advance s) :=
    watched_joined (unrecorded_joinGroup clientId self) hcalled
  rw [← registerWebhook_eq] at hw
  have hw : Watched clientId self (cs ++ [self]) w.2
      (joined self ((joinGroup clientId self).advance sys.shared))
      ((prog clientId self).advance sys.shared) := hw
  have h : Pool.step (prog clientId) sys (.start self) = some sys' := h
  have hm := Pool.moved_of_step h
  generalize Pool.ended (prog clientId) sys (.start self) = e at hm
  cases hm with
  | through hadv => cases hadv
  | started hadv =>
    rw [hadv] at hw
    exact ⟨hw.1, List.rel_append hi.stages (.cons (hw.2 _ _) .nil)⟩

/-- What is granted to a task is not in the data. -/
theorem granted_data {i : ℕ} {answers : Answers} {P : System}
    {t : Task (Guarded Hass) (Demand Request) (Grant Reply) WebhookError ℕ}
    (ht : sys.tasks[i]? = some t) (hg : granted sys (.reply i answers.reply) = some P) :
    P.shared.data = sys.shared.data := by
  rcases granted_cases ht hg with ⟨-, -, -, rfl⟩ | ⟨-, rfl⟩
  · rfl
  · rfl

theorem watch_reply {i : ℕ} {answers : Answers} {P : System} {stages : List Stage} {stage : Stage}
    {t : Task (Guarded Hass) (Demand Request) (Grant Reply) WebhookError ℕ}
    (ht : sys.tasks[i]? = some t) (hstage : stages[i]? = some stage)
    (hg : granted sys (.reply i answers.reply) = some P) :
    watch clientId ⟨sys, .reply i answers, sys'⟩ stages =
      (if sys'.tasks.length < sys.tasks.length then stages.eraseIdx i
        else stages.set i (stage.resume t.job answers P.shared).1,
        (stage.resume t.job answers P.shared).2) := by
  simp only [watch, ht, hstage, hg]

theorem step_reply {cs : List ℕ} {w : List Stage × List Outcome} {i : ℕ} {answers : Answers}
    (hi : RecordedSo clientId cs w sys)
    (h : Async.Mutex.step (prog clientId) sys (.reply i answers.reply) = some sys') :
    RecordedSo clientId cs ((watch clientId ⟨sys, .reply i answers, sys'⟩ w.1).1,
      w.2 ++ (watch clientId ⟨sys, .reply i answers, sys'⟩ w.1).2) sys' := by
  obtain ⟨P, hg, hs⟩ := Option.bind_eq_some_iff.mp h
  have htasks := granted_tasks hg
  have hresume {t : Task (Guarded Hass) (Demand Request) (Grant Reply) WebhookError ℕ}
      (ht : sys.tasks[i]? = some t) : ∃ stage, w.1[i]? = some stage ∧
        Watched clientId t.job cs w.2 (stage.resume t.job answers P.shared)
          ((t.cont (answers.reply t.req)).advance P.shared) := by
    obtain ⟨hlt, rfl⟩ := List.getElem?_eq_some_iff.mp ht
    have hlt' : i < w.1.length := hi.stages.length_eq ▸ hlt
    refine ⟨w.1[i], List.getElem?_eq_getElem hlt', watched_resume ?_ answers ?_⟩
    · exact hi.stages.get hlt hlt'
    · rw [granted_data ht hg]
      exact hi.records
  have hm := Pool.moved_of_step hs
  generalize Pool.ended (prog clientId) P (.reply i answers.reply) = e at hm
  cases hm with
  | @ended _ _ t r s ht hadv =>
    rw [htasks] at ht
    obtain ⟨stage, hstage, hw⟩ := hresume ht
    rw [hadv] at hw
    have hshorter : (P.tasks.eraseIdx i).length < sys.tasks.length := by
      have hlt := (List.getElem?_eq_some_iff.mp ht).1
      rw [htasks, List.length_eraseIdx_of_lt hlt]
      omega
    rw [watch_reply ht hstage hg, if_pos hshorter]
    refine ⟨hw, ?_⟩
    dsimp only
    rw [htasks]
    exact forall₂_eraseIdx hi.stages i
  | @moved _ _ t s q k ht hadv =>
    rw [htasks] at ht
    obtain ⟨stage, hstage, hw⟩ := hresume ht
    rw [hadv] at hw
    have hsame : ¬ (P.tasks.set i ⟨t.job, t.born, t.log ++ [⟨t.req, answers.reply t.req⟩], q, k⟩).length <
        sys.tasks.length := by
      rw [List.length_set, htasks]
      exact Nat.lt_irrefl _
    rw [watch_reply ht hstage hg, if_neg hsame]
    refine ⟨hw.1, ?_⟩
    dsimp only
    rw [htasks]
    exact forall₂_set hi.stages (hw.2 _ _) i

/-- **The records are what the run tells**: `called` are the handlers that were called, and `urls` is
what their calls of `get_url` have come to. -/
theorem run_recorded (hr : Run (Register.step clientId) (start environment entries hooks) τ sys) :
    sys.shared.data.called = calls τ ∧ sys.shared.data.urls = outcomes clientId τ := by
  suffices h : RecordedSo clientId (calls τ) (watched clientId τ) sys from
    Prod.mk.inj h.records
  induction hr with
  | nil => exact ⟨rfl, .nil⟩
  | @snoc τ sys sys' l _ hs ih =>
    have hcalls : calls (τ ++ [⟨sys, l, sys'⟩]) = calls τ ++ calls [⟨sys, l, sys'⟩] :=
      List.filterMap_append
    rw [hcalls, watched_snoc]
    cases l with
    | call self =>
      simp only [Register.step] at hs
      split_ifs at hs
      exact step_call ih hs
    | reply i answers =>
      have h := step_reply ih hs
      rwa [← List.append_nil (calls τ)] at h
    | environment environment =>
      cases hs
      refine ⟨ih.records.trans ?_, ih.stages⟩
      exact congrArg₂ Prod.mk (List.append_nil _).symm (List.append_nil _).symm
    | added e =>
      simp only [Register.step] at hs
      split_ifs at hs
      cases hs
      refine ⟨ih.records.trans ?_, ih.stages⟩
      exact congrArg₂ Prod.mk (List.append_nil _).symm (List.append_nil _).symm

end TTLockConnect.Webhook.Recorded
