import TTLockConnect.Webhook.Recorded
import TTLockConnect.Webhook.Siblings

/-! # Siblings register once

`register_webhook` goes from phase to phase, and keeps what holds among siblings. So they register the
webhook once, as soon as one of them that got a URL is through, and when all are through the group
counts them and their entries have its id. -/

namespace TTLockConnect.Webhook.Once

open TTLockConnect.Async.Coroutine TTLockConnect.Async.Coroutine.Coro TTLockConnect.Async.Runs
open TTLockConnect.Async.EventLoop TTLockConnect.Async.Mutex TTLockConnect.Async.Phases
open TTLockConnect.Webhook.Group TTLockConnect.Webhook.Recorded TTLockConnect.Webhook.Register
open TTLockConnect.Webhook.Siblings

/-! ### The specification of a call -/

/-- The replies there are. -/
def Replies : (q : Demand Request) → Except WebhookError (Grant Reply q) → Prop
  | .acquire, a => a = .ok ()
  | .ask (.implementation _), a => ∀ err, a = .error err → err = .valueError ∨ err = .keyError
  | .ask (.cloudhook _), _ => True

theorem replies_reply (answers : Answers) (q : Demand Request) : Replies q (answers.reply q) := by
  match q with
  | .acquire => exact rfl
  | .ask (.implementation entryId) => exact answers.notAvailable entryId
  | .ask (.cloudhook _) => exact trivial

/-- A part of the call of `self` among its siblings. -/
def Meets (clientId : String) (self : ℕ) {α : Type}
    (Q : Multiset Phase → Guarded Hass → Except WebhookError α → Prop) (p : Method α)
    (f : Multiset Phase) (s : Guarded Hass) : Prop :=
  Sat Replies (Consistent clientId) (fun x : Phase => x.handler = self) Q p f s

variable {clientId : String} {self : ℕ} {α β : Type} {f : Multiset Phase} {s : Guarded Hass}
  {r : Ref} {Q : Multiset Phase → Guarded Hass → Except WebhookError α → Prop}

theorem meets_hass_bind {p : Hass → Method α} (h : Meets clientId self Q (p s.data) f s) :
    Meets clientId self Q (hass >>= p) f s := h

/-! ### The URL -/

/-- What only looks at the state keeps the invariant. -/
theorem meets_webhookIdOf {Q : Multiset Phase → Guarded Hass → Except WebhookError String → Prop}
    (hQ : ∀ r, Q f s r) : Meets clientId self Q (webhookIdOf self) f s := by
  refine meets_hass_bind ?_
  cases (s.data.entry self).webhookId with
  | some webhookId => exact hQ (.ok webhookId)
  | none => exact hQ (.error .keyError)

theorem meets_asyncGenerateUrl {webhookId : String}
    {Q : Multiset Phase → Guarded Hass → Except WebhookError String → Prop} (hQ : ∀ r, Q f s r) :
    Meets clientId self Q (asyncGenerateUrl webhookId) f s := by
  refine meets_hass_bind ?_
  cases s.data.environment.generateUrl webhookId with
  | some url => exact hQ (.ok url)
  | none => exact hQ (.error .noURLAvailable)

/-- The call is a member and stays one, whatever comes of this part. -/
def Member (clientId : String) (self : ℕ) (r : Ref) {α : Type} :
    Multiset Phase → Guarded Hass → Except WebhookError α → Prop :=
  fun f s _ => Consistent clientId (.member self r ::ₘ f) s

theorem meets_tryGenerateCloudhook (hc : Consistent clientId (.member self r ::ₘ f) s) :
    Meets clientId self (Member clientId self r) (tryGenerateCloudhook self) f s := by
  have hbody : Meets clientId self (Member clientId self r) (do
      let webhookId ← webhookIdOf self
      let url ← ask (.cloudhook webhookId)
      pure (some url) : Method (Option String)) f s := by
    refine Sat.bind (Q := Member clientId self r) (meets_webhookIdOf fun _ => hc) ?_ fun _ _ _ h => h
    intro f s webhookId hc
    exact Sat.bind (Q := Member clientId self r) (sat_ask rfl hc fun _ _ _ _ h => h)
      (fun _ _ _ h => h) fun _ _ _ h => h
  refine meets_hass_bind ?_
  split_ifs
  · refine Sat.tryCatch hbody (fun _ _ _ h => h) fun f s err hc => ?_
    split_ifs
    · exact hc
    · exact hc
  · exact hc

theorem meets_getUrl (hc : Consistent clientId (.member self r ::ₘ f) s) :
    Meets clientId self (Member clientId self r) (getUrl self) f s := by
  refine meets_hass_bind ?_
  cases (s.data.entry self).webhookUrl with
  | some url => exact hc
  | none =>
    refine Sat.bind (Q := Member clientId self r) (meets_tryGenerateCloudhook hc) ?_
      fun _ _ _ h => h
    intro f s cloudhook hc
    cases cloudhook.filter (· ≠ "") with
    | some url => exact hc
    | none =>
      refine Sat.bind (Q := Member clientId self r) (meets_webhookIdOf fun _ => hc) ?_
        fun _ _ _ h => h
      exact fun f s webhookId hc => meets_asyncGenerateUrl fun _ => hc

/-- What is known once the URL is stored: the call is to register, or it is over. -/
def Stored (clientId : String) (self : ℕ) (r : Ref) :
    Multiset Phase → Guarded Hass → Except WebhookError (Option String) → Prop
  | f, s, .ok (some _) => Consistent clientId (.registering self r ::ₘ f) s
  | f, s, .ok none => Consistent clientId f s
  | f, s, .error _ => Consistent clientId f s

/-- What is known at the end of the `try`. -/
def Tried (clientId : String) (self : ℕ) (r : Ref) :
    Multiset Phase → Guarded Hass → Except WebhookError (Option String) → Prop
  | f, s, .ok url => Stored clientId self r f s (.ok url)
  | f, s, .error _ => Consistent clientId (.member self r ::ₘ f) s

theorem meets_storeUrl (hc : Consistent clientId (.member self r ::ₘ f) s) :
    Meets clientId self (Stored clientId self r) (storeUrl self) f s := by
  have hbody : Meets clientId self (Tried clientId self r) (do
      let url ← getUrl self
      modifyData (urlFound self url)
      pure (some url) : Method (Option String)) f s := by
    refine Sat.bind (Q := Member clientId self r) (meets_getUrl hc) ?_ fun _ _ _ h => h
    exact fun f s url hc => hc.urlFound url
  refine Sat.tryCatch hbody (fun _ _ _ h => h) fun f s err hc => ?_
  have hmember : Consistent clientId (.member self r ::ₘ f) s := hc
  split_ifs
  · exact hmember.urlMissing
  · exact hmember.memberOver

/-! ### The group -/

/-- The call resolves the group and goes on to; nothing is raised. -/
def Resolving (clientId : String) (self : ℕ) {α : Type} :
    Multiset Phase → Guarded Hass → Except WebhookError α → Prop
  | f, s, .ok _ => Consistent clientId (.resolving self ::ₘ f) s
  | _, _, .error _ => False

theorem meets_implementationOf (candidate : ℕ)
    (hc : Consistent clientId (.resolving self ::ₘ f) s) :
    Meets clientId self (Resolving clientId self) (implementationOf candidate) f s := by
  have hbody : Meets clientId self
      (fun f s a => (∀ err, a = .error err → err = .valueError ∨ err = .keyError) ∧
        Consistent clientId (.resolving self ::ₘ f) s) (do
      let implementation ← ask (.implementation candidate)
      pure (some implementation) : Method (Option String)) f s := by
    refine Sat.bind (Q := fun f s a => (∀ err, a = .error err → err = .valueError ∨ err = .keyError) ∧
      Consistent clientId (.resolving self ::ₘ f) s) ?_ ?_ ?_
    · exact sat_ask rfl hc fun a f₁ s₁ ha h₁ => ⟨ha, h₁⟩
    · exact fun f s a h => ⟨nofun, h.2⟩
    · exact fun f s err h => ⟨fun err' heq => h.1 err' (congrArg Except.error (Except.error.inj heq)),
        h.2⟩
  refine Sat.tryCatch hbody (fun f s a h => h.2) fun f s err h => ?_
  rw [if_pos (h.1 err rfl)]
  exact h.2

theorem meets_groupMembers (candidates members : List ℕ)
    (hc : Consistent clientId (.resolving self ::ₘ f) s) :
    Meets clientId self (Resolving clientId self) (groupMembers clientId self candidates members)
      f s := by
  induction candidates generalizing members f s with
  | nil => exact hc
  | cons candidate candidates ih =>
    unfold groupMembers
    split_ifs with hself
    · exact ih _ hc
    · exact Sat.bind (meets_implementationOf candidate hc) (fun f s a h => ih _ h)
        fun _ _ _ h => h

theorem meets_resolveGroup (hc : Consistent clientId (.resolving self ::ₘ f) s) :
    Meets clientId self (Resolving clientId self) (resolveGroup clientId self) f s := by
  refine meets_hass_bind (Sat.bind (meets_groupMembers _ [] hc) ?_ fun _ _ _ h => h)
  intro f s members hc
  refine meets_hass_bind (sat_modifyData_bind ?_)
  have hadopted := Consistent.adoptAll hc members
    (resolveGroupWebhookId (members.map s.data.entry) s.data.environment.tokenHex)
  split_ifs
  · exact hadopted.ambiguous _
  · exact hadopted

/-- There is a group, and the call is about to join it. -/
def Ensured (clientId : String) (self : ℕ) :
    Multiset Phase → Guarded Hass → Except WebhookError Ref → Prop
  | f, s, .ok r => s.data.group = some r ∧ Consistent clientId (.joining self ::ₘ f) ⟨false, s.data⟩
  | _, _, .error _ => False

theorem meets_ensureGroup (hc : Consistent clientId (.joining self ::ₘ f) s)
    (hfree : s.locked = false) :
    Meets clientId self (Ensured clientId self) (ensureGroup clientId self) f ⟨true, s.data⟩ := by
  refine meets_hass_bind ?_
  cases hgroup : s.data.group with
  | some r =>
    refine ⟨hgroup, ?_⟩
    rw [← hfree]
    exact hc
  | none =>
    refine Sat.bind (meets_resolveGroup (hc.resolve hfree hgroup)) ?_ fun _ _ _ h => h
    intro f s resolved h
    obtain ⟨webhookId, confirmed⟩ := resolved
    exact ⟨rfl, Consistent.newGroup h webhookId confirmed⟩

/-- The call has joined, once its entry is brought in line. -/
def Joined (clientId : String) (self : ℕ) :
    Multiset Phase → Guarded Hass → Except WebhookError Ref → Prop
  | f, s, .ok r =>
    Consistent clientId (.member self r ::ₘ f) ⟨s.locked, syncAndListen self r s.data⟩
  | _, _, .error _ => False

theorem meets_joinGroup (hc : Consistent clientId (.joining self ::ₘ f) s) :
    Meets clientId self (Joined clientId self) (joinGroup clientId self) f s := by
  refine sat_withLock rfl hc (fun f₁ s₁ h₁ hfree => ?_) fun e _ _ ha _ => by cases ha
  refine Sat.bind (meets_ensureGroup h₁ hfree) ?_ fun _ _ _ h => h
  rintro f s r ⟨hgroup, hjoining⟩
  exact sat_modifyData_bind (hjoining.join hgroup)

/-! ### The registration -/

/-- The call is over. -/
abbrev Over (clientId : String) :
    Multiset Phase → Guarded Hass → Except WebhookError Unit → Prop := Keeps (Consistent clientId)

/-- An id that is not registered can be. -/
theorem meets_webhookRegister {webhookId : String}
    {Q : Multiset Phase → Guarded Hass → Except WebhookError Unit → Prop}
    (hfresh : webhookId ∉ s.data.hooks)
    (hQ : Q f ⟨s.locked, registered webhookId (s.data.hooks ++ [webhookId]) s.data⟩ (.ok ())) :
    Meets clientId self Q (webhookRegister webhookId) f s := by
  refine sat_modifyData_bind (meets_hass_bind ?_)
  split_ifs with hmem
  · exact absurd hmem hfresh
  · exact hQ

theorem meets_registerGroup (hc : Consistent clientId (.registering self r ::ₘ f) s) :
    Meets clientId self (Over clientId) (registerGroup r) f s := by
  refine sat_withLock rfl hc (fun f₁ s₁ h₁ hfree => ?_) fun e _ _ ha _ => by cases ha
  obtain ⟨locked, h⟩ := s₁
  dsimp only at hfree
  subst hfree
  refine meets_hass_bind ?_
  dsimp only
  split_ifs with hregistered
  · exact h₁.registeredOver hregistered
  · have hnot : (h.theGroup r).registered = false := Bool.eq_false_iff.mpr hregistered
    have hfresh : (h.theGroup r).webhookId ∉ h.hooks.filter (· ≠ (h.theGroup r).webhookId) := by
      simp
    refine sat_modifyData_bind (sat_bind (webhookRegister _) (meets_webhookRegister hfresh ?_))
    exact h₁.register hnot _

/-- **`register_webhook` keeps what holds among siblings.** -/
theorem meets_prog (hc : Consistent clientId f s)
    (hself : self ∈ s.data.entries.map Entry.entryId) :
    Meets clientId self (Over clientId) (prog clientId self) f s := by
  refine sat_modifyData_bind (Sat.bind (meets_joinGroup (hc.call hself)) ?_ fun _ _ _ h => h.elim)
  intro f s r hjoined
  refine sat_modifyData_bind (Sat.bind (meets_storeUrl hjoined) ?_ fun _ _ _ h => h)
  intro f s url hstored
  cases url with
  | none => exact hstored
  | some url =>
    refine sat_modifyData_bind (sat_modifyData_bind (meets_registerGroup ?_))
    exact Consistent.issues hstored url

/-! ### Every interleaving -/

/-- The invariant of the calls in flight. -/
abbrev SiblingsInv (clientId : String) (sys : System) : Prop :=
  Inv Replies (Consistent clientId) (fun self (x : Phase) => x.handler = self) sys

variable {sys sys' : System} {l : Register.Label}

theorem start_inv (environment : Environment) (entries : List Entry) (hooks : List String) :
    SiblingsInv clientId (start environment entries hooks) := by
  refine ⟨0, .nil, rfl, rfl, nofun, fun _ => ⟨rfl, rfl, rfl, rfl, ?_⟩, nofun⟩
  exact fun x hx => absurd hx (Multiset.notMem_zero x)

/-- **Every step keeps what holds among siblings.** -/
theorem step_inv (hi : SiblingsInv clientId sys) (h : Register.step clientId sys l = some sys') :
    SiblingsInv clientId sys' := by
  cases l with
  | call self =>
    simp only [Register.step] at h
    split_ifs at h with hself
    refine Async.Phases.step_inv (l := .start self) hi trivial (fun w hw f hc => ?_) h
    cases hw
    exact meets_prog hc hself
  | reply i answers =>
    exact Async.Phases.step_inv (l := .reply i answers.reply) hi (replies_reply answers)
      (fun w hw => by cases hw) h
  | environment environment =>
    obtain ⟨xs, hxs, hc⟩ := hi
    cases h
    exact ⟨xs, hxs, hc.environment environment⟩
  | added e =>
    obtain ⟨xs, hxs, hc⟩ := hi
    simp only [Register.step] at h
    split_ifs at h with hold
    cases h
    exact ⟨xs, hxs, hc.added hold⟩

/-- What the invariant says of the registrations. -/
theorem registeredOnce (hi : SiblingsInv clientId sys) : RegisteredOnce clientId sys := by
  obtain ⟨xs, hxs, hc⟩ := hi
  cases hgroup : sys.shared.data.group with
  | none =>
    have ha := hc.alone hgroup
    refine ⟨?_, ?_, fun hne => absurd ha.registrations hne, ?_⟩
    · rw [ha.registrations]
      exact Nat.zero_le 1
    · intro self url hu
      rw [ha.urls] at hu
      cases hu
    · rw [ha.issue]
      exact Nat.zero_le 1
  | some r =>
    obtain ⟨g, hs⟩ := hc.shared r hgroup
    refine ⟨?_, ?_, ?_, hs.issue.trans (Bool.toNat_le _)⟩
    · rw [hs.registrations]
      exact Bool.toNat_le _
    · intro self url hu hover
      rw [hs.registrations]
      rcases hs.url self url hu with hreg | hmem
      · rw [hreg]
        rfl
      · -- who waits to register is in flight
        obtain ⟨t, ht, hjob⟩ := hxs.exists_task hmem
        exact absurd hjob.symm (hover t ht)
    · intro hne
      refine hs.forUrl ?_
      have hlen := hs.registrations
      cases hreg : g.registered with
      | true => rfl
      | false =>
        rw [hreg] at hlen
        exact absurd (List.length_eq_zero_iff.mp hlen) hne

/-- What it says once all calls are over. -/
theorem allJoined (hi : SiblingsInv clientId sys) (hidle : sys.tasks = []) :
    AllJoined sys.shared.data := by
  obtain ⟨xs, hxs, hc⟩ := hi
  rw [hidle] at hxs
  obtain rfl := hxs.eq_zero
  have hcalled : (sys.shared.data.called : Multiset ℕ) = sys.shared.data.onStop := by
    rw [hc.called]
    exact Multiset.add_zero _
  have hperm := Multiset.coe_eq_coe.mp hcalled
  refine ⟨?_, fun self hself => ?_⟩
  · rw [hperm.length_eq]
    cases hgroup : sys.shared.data.group with
    | none =>
      rw [(hc.alone hgroup).onStop, refcount, hgroup]
      rfl
    | some r =>
      obtain ⟨g, hs⟩ := hc.shared r hgroup
      rw [refcount, hgroup, Option.map_some, hs.theGroup]
      exact hs.refcount
  · have hjoined : self ∈ sys.shared.data.onStop := hperm.mem_iff.mp hself
    cases hgroup : sys.shared.data.group with
    | none =>
      rw [(hc.alone hgroup).onStop] at hjoined
      cases hjoined
    | some r =>
      obtain ⟨g, hs⟩ := hc.shared r hgroup
      obtain ⟨e, he, hid⟩ := List.mem_map.mp (hc.known self hself)
      refine ⟨r, g, rfl, hs.object, ⟨e, he, hid⟩, fun e' he' hid' => ?_⟩
      rw [← hid'] at hjoined
      exact hs.ids e' he' hjoined

/-- **Concurrent siblings register once.** In every interleaving of the calls of any number of
handlers, the webhook is registered at most once, and once as soon as a call that got a URL is over;
the setup issue is raised at most once; and when all calls are over the group counts the handlers, and
their entries have its id. The handlers are those of the run's calls, and the URLs are what their calls
of `get_url` have come to. -/
theorem run_registeredOnce {environment : Environment} {entries : List Entry} {hooks : List String}
    {τ : List (Move System Register.Label)}
    (hr : Run (Register.step clientId) (start environment entries hooks) τ sys) :
    (RegisteredOnce clientId sys ∧ (sys.tasks = [] → AllJoined sys.shared.data)) ∧
      sys.shared.data.called = calls τ ∧ sys.shared.data.urls = outcomes clientId τ := by
  have hi := (hr.invariant (SiblingsInv clientId) (start_inv environment entries hooks)
    fun _ _ _ hi h => step_inv hi h).1
  exact ⟨⟨registeredOnce hi, allJoined hi⟩, run_recorded hr⟩

/-! ### Two siblings and a stranger -/

/-- Two entries with ids of their own, and one that has no implementation. -/
def strangers : List Entry :=
  [{ entryId := 0, webhookId := some "wh-a" }, { entryId := 1, webhookId := some "wh-b" },
    { entryId := 2, webhookId := some "wh-c" }]

/-- There is a URL for each id, and no subscription. -/
def reachable : Environment := ⟨false, some, "wh-new"⟩

def implementationOfSample : ℕ → Except WebhookError String
  | 2 => .error .valueError
  | _ => .ok "client"

theorem notAvailable_sample (entryId : ℕ) (err : WebhookError)
    (h : implementationOfSample entryId = .error err) : err = .valueError ∨ err = .keyError := by
  unfold implementationOfSample at h
  split at h
  · cases h
    exact .inl rfl
  · cases h

def sampleAnswers : Answers := ⟨implementationOfSample, fun _ => .error .cloudNotAvailable,
  notAvailable_sample⟩

/-- Both call before the first has the lock, and the second has joined before the first registers. -/
def interleaved : List (Move System Register.Label) × System :=
  play (Register.step "client") (start reachable strangers [])
    [.call 0, .call 1, .reply 0 sampleAnswers, .reply 0 sampleAnswers, .reply 0 sampleAnswers,
      .reply 1 sampleAnswers, .reply 1 sampleAnswers, .reply 0 sampleAnswers]

theorem run_registeredOnce_interleaved :
    (RegisteredOnce "client" interleaved.2 ∧ AllJoined interleaved.2.shared.data) ∧
      calls interleaved.1 = [0, 1] ∧ outcomes "client" interleaved.1 =
        [(0, some "wh-a"), (1, some "wh-a")] := by
  obtain ⟨hboth, hcalls, houtcomes⟩ := run_registeredOnce
    (run_play (start reachable strangers []) _ : Run (Register.step "client") _ interleaved.1
      interleaved.2)
  exact ⟨⟨hboth.1, hboth.2 rfl⟩, hcalls.symm, houtcomes.symm⟩

end TTLockConnect.Webhook.Once
