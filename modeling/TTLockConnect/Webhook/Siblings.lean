import TTLockConnect.Async.Phases
import TTLockConnect.Webhook.Register
import Mathlib.Data.Multiset.Count
import Mathlib.Data.Multiset.Filter

/-! # What holds among siblings

A call in flight waits to join, resolves the group, is a member that asks for its URL, or waits to
register. Until there is a group no one is a member; then all are members of the same one, which is
registered as soon as one of them has got a URL and nobody waits to register. -/

namespace TTLockConnect.Webhook.Siblings

open TTLockConnect.Async.Coroutine TTLockConnect.Async.Coroutine.Coro TTLockConnect.Async.Runs
open TTLockConnect.Async.EventLoop TTLockConnect.Async.Mutex TTLockConnect.Async.Phases
open TTLockConnect.Webhook.Group TTLockConnect.Webhook.Register

/-! ### Phases -/

/-- Where a call in flight is. -/
inductive Phase where
  /-- It waits for the lock, to join. -/
  | joining (self : ℕ)
  /-- It has the lock, and resolves the group. -/
  | resolving (self : ℕ)
  /-- It has joined, and asks for its URL. -/
  | member (self : ℕ) (r : Ref)
  /-- It has a URL, and waits for the lock, to register. -/
  | registering (self : ℕ) (r : Ref)
  deriving DecidableEq

namespace Phase

/-- The handler whose call it is. -/
def handler : Phase → ℕ
  | .joining self | .resolving self | .member self _ | .registering self _ => self

/-- The call has the lock. -/
def isResolving : Phase → Bool
  | .resolving _ => true
  | _ => false

/-- The handler, if it has not joined. -/
def outside : Phase → Option ℕ
  | .joining self | .resolving self => some self
  | _ => none

/-- The group, if it has joined. -/
def group : Phase → Option Ref
  | .member _ r | .registering _ r => some r
  | _ => none

end Phase

/-- How many calls resolve the group. -/
def holders (xs : Multiset Phase) : ℕ := xs.countP fun x => x.isResolving = true

/-- The handlers that have been called and have not joined. -/
def outsiders (xs : Multiset Phase) : Multiset ℕ := xs.filterMap Phase.outside

theorem holders_cons (x : Phase) (f : Multiset Phase) :
    holders (x ::ₘ f) = holders f + x.isResolving.toNat := by
  unfold holders
  rw [Multiset.countP_cons]
  cases x.isResolving <;> rfl

theorem outsiders_cons_some {x : Phase} {self : ℕ} (hx : x.outside = some self)
    (f : Multiset Phase) : outsiders (x ::ₘ f) = self ::ₘ outsiders f :=
  Multiset.filterMap_cons_some Phase.outside x f hx

theorem outsiders_cons_none {x : Phase} (hx : x.outside = none) (f : Multiset Phase) :
    outsiders (x ::ₘ f) = outsiders f := Multiset.filterMap_cons_none x f hx

/-- One more at the end of a list. -/
theorem coe_concat (l : List ℕ) (self : ℕ) :
    ((l ++ [self] : List ℕ) : Multiset ℕ) = self ::ₘ (l : Multiset ℕ) := by
  rw [← Multiset.coe_add, Multiset.coe_singleton, Multiset.add_comm, Multiset.singleton_add]

/-! ### The invariant -/

variable (clientId : String)

/-- What holds of the group that the handlers share. -/
structure Sharing (xs : Multiset Phase) (h : Hass) (r : Ref) (g : WebhookGroup) : Prop where
  object : h.groups[r]? = some g
  refcount : g.refcount = h.onStop.length
  ids : ∀ e ∈ h.entries, e.entryId ∈ h.onStop → e.webhookId = some g.webhookId
  resolved : ∀ x ∈ xs, x.isResolving = false
  same : ∀ x ∈ xs, ∀ r', x.group = some r' → r' = r
  registrations : h.registrations.length = g.registered.toNat
  issue : setupIssues clientId h ≤ g.issueRaised.toNat
  url : ∀ self url, (self, some url) ∈ h.urls →
    g.registered = true ∨ Phase.registering self r ∈ xs
  forUrl : g.registered = true → ∃ self url, (self, some url) ∈ h.urls
  registering : ∀ self, Phase.registering self r ∈ xs → ∃ url, (self, some url) ∈ h.urls

/-- What holds before there is a group. -/
structure Alone (xs : Multiset Phase) (h : Hass) : Prop where
  onStop : h.onStop = []
  urls : h.urls = []
  registrations : h.registrations = []
  issue : setupIssues clientId h = 0
  outside : ∀ x ∈ xs, x.group = none

/-- **What holds of Home Assistant and the calls in flight.** -/
structure Consistent (xs : Multiset Phase) (s : Guarded Hass) : Prop where
  holder : s.locked.toNat = holders xs
  called : (s.data.called : Multiset ℕ) = s.data.onStop + outsiders xs
  known : ∀ self ∈ s.data.called, self ∈ s.data.entries.map Entry.entryId
  alone : s.data.group = none → Alone clientId xs s.data
  shared : ∀ r, s.data.group = some r → ∃ g, Sharing clientId xs s.data r g

variable {clientId} {xs f : Multiset Phase} {h : Hass} {s : Guarded Hass} {self : ℕ} {r : Ref}
  {g : WebhookGroup} {x : Phase}

/-! ### Calls that come and go -/

/-- A call is over or leaves its phase; one that was to register finds the group registered. -/
theorem Sharing.drop (hs : Sharing clientId (x ::ₘ f) h r g)
    (hx : ∀ self, x = .registering self r → g.registered = true) : Sharing clientId f h r g where
  object := hs.object
  refcount := hs.refcount
  ids := hs.ids
  resolved y hy := hs.resolved y (Multiset.mem_cons_of_mem hy)
  same y hy := hs.same y (Multiset.mem_cons_of_mem hy)
  registrations := hs.registrations
  issue := hs.issue
  url := by
    intro self url hu
    rcases hs.url self url hu with hreg | hmem
    · exact .inl hreg
    · rcases Multiset.mem_cons.mp hmem with heq | hmem
      · exact .inl (hx self heq.symm)
      · exact .inr hmem
  forUrl := hs.forUrl
  registering self hmem := hs.registering self (Multiset.mem_cons_of_mem hmem)

/-- A call is new or in a new phase, in which it does not wait to register. -/
theorem Sharing.add (hs : Sharing clientId f h r g) (hres : x.isResolving = false)
    (hgroup : ∀ r', x.group = some r' → r' = r)
    (hreg : ∀ self, x ≠ .registering self r) : Sharing clientId (x ::ₘ f) h r g where
  object := hs.object
  refcount := hs.refcount
  ids := hs.ids
  resolved := by
    intro y hy
    rcases Multiset.mem_cons.mp hy with rfl | hy
    · exact hres
    · exact hs.resolved y hy
  same := by
    intro y hy
    rcases Multiset.mem_cons.mp hy with rfl | hy
    · exact hgroup
    · exact hs.same y hy
  registrations := hs.registrations
  issue := hs.issue
  url self url hu := (hs.url self url hu).imp_right Multiset.mem_cons_of_mem
  forUrl := hs.forUrl
  registering := by
    intro self hmem
    rcases Multiset.mem_cons.mp hmem with heq | hmem
    · exact absurd heq.symm (hreg self)
    · exact hs.registering self hmem

theorem Alone.drop (ha : Alone clientId (x ::ₘ f) h) : Alone clientId f h :=
  ⟨ha.onStop, ha.urls, ha.registrations, ha.issue,
    fun y hy => ha.outside y (Multiset.mem_cons_of_mem hy)⟩

theorem Alone.add (ha : Alone clientId f h) (hx : x.group = none) :
    Alone clientId (x ::ₘ f) h := by
  refine ⟨ha.onStop, ha.urls, ha.registrations, ha.issue, fun y hy => ?_⟩
  rcases Multiset.mem_cons.mp hy with rfl | hy
  · exact hx
  · exact ha.outside y hy

/-! ### The calls to the issue registry -/

theorem setupIssues_issue (h : Hass) (call : IssueCall) :
    setupIssues clientId (h.issue call) =
      setupIssues clientId h + if call.raises (setupIssueId clientId) then 1 else 0 := by
  unfold setupIssues Hass.issue
  rw [List.countP_append, List.countP_singleton]

/-- The other issues are not the setup issue. -/
theorem noUrl_ne (clientId : String) : "no_webhook_url" ≠ setupIssueId clientId := by
  intro heq
  have hhead := congrArg (fun s : String => s.toList.head?) heq
  simp [setupIssueId] at hhead

theorem ambiguous_ne (clientId : String) :
    "webhook_consolidation_ambiguous_" ++ clientId ≠ setupIssueId clientId := by
  intro heq
  have htake := congrArg (fun s : String => s.toList.take 9) heq
  simp [setupIssueId] at htake

/-! ### What the group is after a change -/

theorem Sharing.theGroup (hs : Sharing clientId xs h r g) : h.theGroup r = g := by
  unfold Hass.theGroup
  rw [List.getD_eq_getElem?_getD, hs.object]
  rfl

theorem groups_updateGroup (hobject : h.groups[r]? = some g) (k : WebhookGroup → WebhookGroup) :
    (h.updateGroup r k).groups[r]? = some (k g) := by
  obtain ⟨hlt, -⟩ := List.getElem?_eq_some_iff.mp hobject
  unfold Hass.updateGroup Hass.theGroup
  rw [List.getElem?_set_self hlt, List.getD_eq_getElem?_getD, hobject]
  rfl

/-- Entries may change, but not their ids. -/
theorem mem_entryId_map {entries : List Entry} {k : Entry → Entry}
    (hk : ∀ e, (k e).entryId = e.entryId) (hself : self ∈ entries.map Entry.entryId) :
    self ∈ (entries.map k).map Entry.entryId := by
  rw [List.map_map]
  obtain ⟨e, he, rfl⟩ := List.mem_map.mp hself
  exact List.mem_map.mpr ⟨e, he, hk e⟩

/-- **A handler joins**: one member more, whose entry has the group's id. -/
theorem Sharing.join (hs : Sharing clientId f h r g) (self : ℕ) :
    Sharing clientId (.member self r ::ₘ f)
      (syncAndListen self r (h.updateGroup r withMember)) r (withMember g) := by
  have hobject := groups_updateGroup hs.object withMember
  have hgroup : (h.updateGroup r withMember).theGroup r = (withMember g) := by
    unfold Hass.theGroup
    rw [List.getD_eq_getElem?_getD, hobject]
    rfl
  have hjoined : Sharing clientId f
      (syncAndListen self r (h.updateGroup r withMember)) r (withMember g) := by
    refine ⟨hobject, ?_, ?_, hs.resolved, hs.same, hs.registrations, hs.issue, hs.url, hs.forUrl,
      hs.registering⟩
    · show g.refcount + 1 = ((h.onStop ++ [self]).length : ℤ)
      rw [hs.refcount, List.length_append, List.length_singleton]
      push_cast
      rfl
    · intro e' he' hmem
      have hmem' : e'.entryId ∈ h.onStop ++ [self] := hmem
      obtain ⟨e, he, rfl⟩ := List.mem_map.mp he'
      rw [hgroup] at hmem' ⊢
      by_cases hself : e.entryId = self
      · rw [if_pos hself]
        rfl
      · rw [if_neg hself] at hmem' ⊢
        rcases List.mem_append.mp hmem' with hmem' | hmem'
        · exact hs.ids e he hmem'
        · exact absurd (List.mem_singleton.mp hmem') hself
  exact hjoined.add rfl (fun r' hr' => (Option.some.inj hr').symm) nofun

/-- **A URL is found**, and its handler is to register. -/
theorem Sharing.urlFound (hs : Sharing clientId f h r g) (self : ℕ) (url : String) :
    Sharing clientId (.registering self r ::ₘ f) (Register.urlFound self url h) r g where
  object := hs.object
  refcount := hs.refcount
  ids := by
    intro e' he' hmem
    obtain ⟨e, he, rfl⟩ := List.mem_map.mp he'
    by_cases hself : e.entryId = self
    · rw [if_pos hself] at hmem ⊢
      exact hs.ids e he hmem
    · rw [if_neg hself] at hmem ⊢
      exact hs.ids e he hmem
  resolved := by
    intro y hy
    rcases Multiset.mem_cons.mp hy with rfl | hy
    · rfl
    · exact hs.resolved y hy
  same := by
    intro y hy r' hr'
    rcases Multiset.mem_cons.mp hy with rfl | hy
    · exact (Option.some.inj hr').symm
    · exact hs.same y hy r' hr'
  registrations := hs.registrations
  issue := hs.issue
  url := by
    intro self' url' hu
    rcases List.mem_append.mp hu with hu | hu
    · exact (hs.url self' url' hu).imp_right Multiset.mem_cons_of_mem
    · obtain ⟨rfl, -⟩ := Prod.mk.inj (List.mem_singleton.mp hu)
      exact .inr (Multiset.mem_cons_self _ f)
  forUrl := by
    intro hreg
    obtain ⟨self', url', hu⟩ := hs.forUrl hreg
    exact ⟨self', url', List.mem_append_left _ hu⟩
  registering := by
    intro self' hmem
    rcases Multiset.mem_cons.mp hmem with heq | hmem
    · obtain ⟨rfl, -⟩ := Phase.registering.inj heq
      exact ⟨url, List.mem_append_right _ List.mem_cons_self⟩
    · obtain ⟨url', hu⟩ := hs.registering self' hmem
      exact ⟨url', List.mem_append_left _ hu⟩

/-- There is no URL. -/
theorem Sharing.urlMissing (hs : Sharing clientId f h r g) (self : ℕ) :
    Sharing clientId f (Register.urlMissing self h) r g where
  object := hs.object
  refcount := hs.refcount
  ids := hs.ids
  resolved := hs.resolved
  same := hs.same
  registrations := hs.registrations
  issue := by
    have hother : IssueCall.raises (setupIssueId clientId) (.create "no_webhook_url" none) = false :=
      beq_eq_false_iff_ne.mpr (noUrl_ne clientId)
    rw [Register.urlMissing, setupIssues_issue, hother]
    exact hs.issue
  url := by
    intro self' url' hu
    rcases List.mem_append.mp hu with hu | hu
    · exact hs.url self' url' hu
    · exact absurd (Prod.mk.inj (List.mem_singleton.mp hu)).2 nofun
  forUrl := by
    intro hreg
    obtain ⟨self', url', hu⟩ := hs.forUrl hreg
    exact ⟨self', url', List.mem_append_left _ hu⟩
  registering := by
    intro self' hmem
    obtain ⟨url', hu⟩ := hs.registering self' hmem
    exact ⟨url', List.mem_append_left _ hu⟩

theorem Sharing.issueDeleted (hs : Sharing clientId xs h r g) (issueId : String) :
    Sharing clientId xs (h.issue (.delete issueId)) r g := by
  refine ⟨hs.object, hs.refcount, hs.ids, hs.resolved, hs.same, hs.registrations, ?_, hs.url,
    hs.forUrl, hs.registering⟩
  rw [setupIssues_issue]
  exact hs.issue

/-- **The setup issue is raised once.** -/
theorem Sharing.raiseSetupIssue (hs : Sharing clientId xs h r g) (self : ℕ) (url : String) :
    ∃ g', Sharing clientId xs (Register.raiseSetupIssue clientId self r url h) r g' := by
  unfold Register.raiseSetupIssue
  split_ifs with hraise
  · have hnot : g.issueRaised = false := by
      rw [← hs.theGroup]
      exact hraise.2
    have hzero : setupIssues clientId h = 0 := by
      have hle := hs.issue
      rw [hnot, Bool.toNat_false] at hle
      omega
    have hobject : (h.issue (.create (setupIssueId clientId) (some url))).groups[r]? = some g :=
      hs.object
    refine ⟨_, groups_updateGroup hobject _, hs.refcount, hs.ids, hs.resolved, hs.same,
      hs.registrations, ?_, hs.url, hs.forUrl, hs.registering⟩
    show setupIssues clientId (h.issue _) ≤ 1
    rw [setupIssues_issue, hzero]
    split_ifs <;> omega
  · exact ⟨g, hs⟩

/-- The webhook is registered with Home Assistant. -/
def registered (webhookId : String) (hooks : List String) (h : Hass) : Hass :=
  { h with hooks := hooks, registrations := h.registrations ++ [webhookId] }

/-- **The webhook is registered**, which it was not. -/
theorem Sharing.register (hs : Sharing clientId (.registering self r ::ₘ f) h r g)
    (hnot : g.registered = false) (hooks : List String) :
    Sharing clientId f ((registered g.webhookId hooks h).updateGroup r
      fun g => { g with registered := true }) r { g with registered := true } := by
  have hobject : (registered g.webhookId hooks h).groups[r]? = some g := hs.object
  have hregistered : Sharing clientId (.registering self r ::ₘ f)
      ((registered g.webhookId hooks h).updateGroup r fun g => { g with registered := true }) r
        { g with registered := true } := by
    refine ⟨groups_updateGroup hobject _, hs.refcount, hs.ids, hs.resolved, hs.same, ?_, hs.issue,
      fun _ _ _ => .inl rfl, fun _ => ?_, hs.registering⟩
    · have hzero := hs.registrations
      rw [hnot] at hzero
      show (h.registrations ++ [g.webhookId]).length = 1
      rw [List.length_append, hzero]
      rfl
    · obtain ⟨url, hu⟩ := hs.registering self (Multiset.mem_cons_self _ f)
      exact ⟨self, url, hu⟩
  exact hregistered.drop fun _ _ => rfl

/-! ### From one phase to the next -/

/-- Once there is a group, the invariant is that of the group. -/
theorem Consistent.of_sharing (hholder : s.locked.toNat = holders xs)
    (hcalled : (s.data.called : Multiset ℕ) = s.data.onStop + outsiders xs)
    (hknown : ∀ self ∈ s.data.called, self ∈ s.data.entries.map Entry.entryId)
    (hgroup : s.data.group = some r) (hs : Sharing clientId xs s.data r g) :
    Consistent clientId xs s where
  holder := hholder
  called := hcalled
  known := hknown
  alone hnone := by
    rw [hgroup] at hnone
    cases hnone
  shared r' hr' := by
    rw [hgroup] at hr'
    cases hr'
    exact ⟨g, hs⟩

/-- A handler is called. -/
theorem Consistent.call (hc : Consistent clientId f s)
    (hself : self ∈ s.data.entries.map Entry.entryId) :
    Consistent clientId (.joining self ::ₘ f)
      ⟨s.locked, { s.data with called := s.data.called ++ [self] }⟩ where
  holder := by
    rw [holders_cons]
    exact hc.holder
  called := by
    rw [outsiders_cons_some rfl, Multiset.add_cons]
    show ((s.data.called ++ [self] : List ℕ) : Multiset ℕ) = self ::ₘ (_ + _)
    rw [coe_concat, hc.called]
  known := by
    intro self' hself'
    rcases List.mem_append.mp hself' with hself' | hself'
    · exact hc.known self' hself'
    · rw [List.mem_singleton.mp hself']
      exact hself
  alone hnone := by
    have ha := (hc.alone hnone).add (x := .joining self) rfl
    exact ⟨ha.onStop, ha.urls, ha.registrations, ha.issue, ha.outside⟩
  shared r hr := by
    obtain ⟨g, hs⟩ := hc.shared r hr
    have hs' := hs.add (x := .joining self) rfl nofun nofun
    exact ⟨g, hs'.object, hs'.refcount, hs'.ids, hs'.resolved, hs'.same, hs'.registrations, hs'.issue,
      hs'.url, hs'.forUrl, hs'.registering⟩

/-- A handler finds no group, and resolves it. -/
theorem Consistent.resolve (hc : Consistent clientId (.joining self ::ₘ f) s)
    (hfree : s.locked = false) (hnone : s.data.group = none) :
    Consistent clientId (.resolving self ::ₘ f) ⟨true, s.data⟩ where
  holder := by
    have hzero := hc.holder
    rw [holders_cons, hfree] at hzero
    rw [holders_cons]
    show 1 = holders f + 1
    rw [← show 0 = holders f from hzero]
  called := by
    have hcalled := hc.called
    rw [outsiders_cons_some rfl] at hcalled ⊢
    exact hcalled
  known := hc.known
  alone _ := (hc.alone hnone).drop.add rfl
  shared r hr := by
    rw [show s.data.group = some r from hr] at hnone
    cases hnone

/-- Who resolves the group is alone in that. -/
theorem Consistent.resolving (hc : Consistent clientId (.resolving self ::ₘ f) s) :
    s.data.group = none ∧ s.locked = true ∧ holders f = 0 := by
  have hholder := hc.holder
  rw [holders_cons] at hholder
  have hone : s.locked.toNat = holders f + 1 := hholder
  have hle := Bool.toNat_le s.locked
  have hlocked : s.locked = true := Bool.toNat_eq_one.mp (by omega)
  refine ⟨?_, hlocked, by omega⟩
  cases hgroup : s.data.group with
  | none => rfl
  | some r =>
    obtain ⟨g, hs⟩ := hc.shared r hgroup
    exact absurd (hs.resolved _ (Multiset.mem_cons_self _ f)) nofun

/-- As long as there is no group, entries take over ids. -/
theorem Consistent.adoptAll (hc : Consistent clientId (.resolving self ::ₘ f) s)
    (members : List ℕ) (res : Resolution) :
    Consistent clientId (.resolving self ::ₘ f) ⟨s.locked, adoptAll members res s.data⟩ where
  holder := hc.holder
  called := hc.called
  known := by
    intro self' hself'
    refine mem_entryId_map (fun e => ?_) (hc.known self' hself')
    split_ifs <;> rfl
  alone hnone := by
    have ha := hc.alone hnone
    exact ⟨ha.onStop, ha.urls, ha.registrations, ha.issue, ha.outside⟩
  shared r hr := by
    have hsome : s.data.group = some r := hr
    rw [hc.resolving.1] at hsome
    cases hsome

theorem Consistent.ambiguous (hc : Consistent clientId (.resolving self ::ₘ f) s)
    (url : Option String) :
    Consistent clientId (.resolving self ::ₘ f) ⟨s.locked,
      s.data.issue (.create ("webhook_consolidation_ambiguous_" ++ clientId) url)⟩ where
  holder := hc.holder
  called := hc.called
  known := hc.known
  alone hnone := by
    have ha := hc.alone hnone
    have hother : IssueCall.raises (setupIssueId clientId)
        (.create ("webhook_consolidation_ambiguous_" ++ clientId) url) = false :=
      beq_eq_false_iff_ne.mpr (ambiguous_ne clientId)
    refine ⟨ha.onStop, ha.urls, ha.registrations, ?_, ha.outside⟩
    rw [setupIssues_issue, hother]
    exact ha.issue
  shared r hr := by
    have hsome : s.data.group = some r := hr
    rw [hc.resolving.1] at hsome
    cases hsome

/-- The group is there, and who has resolved it is about to join. -/
theorem Consistent.newGroup (hc : Consistent clientId (.resolving self ::ₘ f) s)
    (webhookId : String) (confirmed : Bool) :
    Consistent clientId (.joining self ::ₘ f)
      ⟨false, Register.newGroup webhookId confirmed s.data⟩ := by
  obtain ⟨hnone, -, hzero⟩ := hc.resolving
  have ha := hc.alone hnone
  have hcalled := hc.called
  rw [outsiders_cons_some rfl] at hcalled
  have hobject : (Register.newGroup webhookId confirmed s.data).groups[s.data.groups.length]? =
      some { webhookId := webhookId, confirmed := confirmed } := List.getElem?_concat_length
  refine .of_sharing ?_ ?_ hc.known rfl ⟨hobject, ?_, ?_, ?_, ?_, ?_, ?_, ?_, nofun, ?_⟩
  · rw [holders_cons, hzero]
    rfl
  · rw [outsiders_cons_some rfl]
    exact hcalled
  · show (0 : ℤ) = (s.data.onStop.length : ℤ)
    rw [ha.onStop]
    rfl
  · intro e _ hmem
    have hmem' : e.entryId ∈ s.data.onStop := hmem
    rw [ha.onStop] at hmem'
    cases hmem'
  · intro x hx
    rcases Multiset.mem_cons.mp hx with rfl | hx
    · rfl
    · have hnot := Multiset.countP_eq_zero.mp hzero x hx
      exact Bool.not_eq_true _ ▸ hnot
  · intro x hx r' hr'
    rcases Multiset.mem_cons.mp hx with rfl | hx
    · cases hr'
    · rw [ha.outside x (Multiset.mem_cons_of_mem hx)] at hr'
      cases hr'
  · show s.data.registrations.length = 0
    rw [ha.registrations]
    rfl
  · exact ha.issue.le
  · intro self' url hu
    have hu' : (self', some url) ∈ s.data.urls := hu
    rw [ha.urls] at hu'
    cases hu'
  · intro self' hmem
    rcases Multiset.mem_cons.mp hmem with heq | hmem
    · cases heq
    · have hgroup := ha.outside _ (Multiset.mem_cons_of_mem hmem)
      cases hgroup

/-- A handler joins the group. -/
theorem Consistent.join (hc : Consistent clientId (.joining self ::ₘ f) s)
    (hgroup : s.data.group = some r) : Consistent clientId (.member self r ::ₘ f)
      ⟨s.locked, syncAndListen self r (s.data.updateGroup r withMember)⟩ := by
  obtain ⟨g, hs⟩ := hc.shared r hgroup
  have hcalled := hc.called
  have hholder := hc.holder
  rw [outsiders_cons_some rfl, Multiset.add_cons] at hcalled
  refine .of_sharing ?_ ?_ ?_ hgroup ((hs.drop nofun).join self)
  · rw [holders_cons] at hholder ⊢
    exact hholder
  · rw [outsiders_cons_none rfl]
    show (s.data.called : Multiset ℕ) = ((s.data.onStop ++ [self] : List ℕ) : Multiset ℕ) + _
    rw [coe_concat, Multiset.cons_add]
    exact hcalled
  · intro self' hself'
    refine mem_entryId_map (fun e => ?_) (hc.known self' hself')
    split_ifs <;> rfl

/-- The group of a call that has joined. -/
theorem Consistent.group (hc : Consistent clientId (x ::ₘ f) s) (hx : x.group = some r) :
    s.data.group = some r ∧ ∃ g, Sharing clientId (x ::ₘ f) s.data r g := by
  cases hgroup : s.data.group with
  | none =>
    have hnot := (hc.alone hgroup).outside x (Multiset.mem_cons_self x f)
    rw [hx] at hnot
    cases hnot
  | some r' =>
    obtain ⟨g, hs⟩ := hc.shared r' hgroup
    obtain rfl := hs.same x (Multiset.mem_cons_self x f) r hx
    exact ⟨rfl, g, hs⟩

/-- A call that has joined, in another phase or over. -/
theorem Consistent.counts (hc : Consistent clientId (x ::ₘ f) s) (hx : x.group = some r) :
    s.locked.toNat = holders f ∧ (s.data.called : Multiset ℕ) = s.data.onStop + outsiders f := by
  have hholder := hc.holder
  have hcalled := hc.called
  cases x with
  | joining self => cases hx
  | resolving self => cases hx
  | member self r' =>
    rw [holders_cons] at hholder
    rw [outsiders_cons_none rfl] at hcalled
    exact ⟨hholder, hcalled⟩
  | registering self r' =>
    rw [holders_cons] at hholder
    rw [outsiders_cons_none rfl] at hcalled
    exact ⟨hholder, hcalled⟩

/-- A member is over. -/
theorem Consistent.memberOver (hc : Consistent clientId (.member self r ::ₘ f) s) :
    Consistent clientId f s := by
  obtain ⟨hgroup, g, hs⟩ := hc.group rfl
  obtain ⟨hholder, hcalled⟩ := hc.counts rfl
  exact .of_sharing hholder hcalled hc.known hgroup (hs.drop nofun)

/-- A member finds its URL. -/
theorem Consistent.urlFound (hc : Consistent clientId (.member self r ::ₘ f) s) (url : String) :
    Consistent clientId (.registering self r ::ₘ f)
      ⟨s.locked, Register.urlFound self url s.data⟩ := by
  obtain ⟨hgroup, g, hs⟩ := hc.group rfl
  obtain ⟨hholder, hcalled⟩ := hc.counts rfl
  refine .of_sharing ?_ ?_ (fun self' hself' => ?_) hgroup ((hs.drop nofun).urlFound self url)
  · rw [holders_cons]
    exact hholder
  · rw [outsiders_cons_none rfl]
    exact hcalled
  · refine mem_entryId_map (fun e => ?_) (hc.known self' hself')
    split_ifs <;> rfl

/-- A member finds no URL, and is over. -/
theorem Consistent.urlMissing (hc : Consistent clientId (.member self r ::ₘ f) s) :
    Consistent clientId f ⟨s.locked, Register.urlMissing self s.data⟩ := by
  obtain ⟨hgroup, g, hs⟩ := hc.group rfl
  obtain ⟨hholder, hcalled⟩ := hc.counts rfl
  exact .of_sharing hholder hcalled hc.known hgroup ((hs.drop nofun).urlMissing self)

/-- Whoever has a URL deletes the one issue, and raises the other. -/
theorem Consistent.issues (hc : Consistent clientId (.registering self r ::ₘ f) s)
    (url : String) : Consistent clientId (.registering self r ::ₘ f) ⟨s.locked,
      raiseSetupIssue clientId self r url (s.data.issue (.delete "no_webhook_url"))⟩ := by
  obtain ⟨hgroup, g, hs⟩ := hc.group rfl
  obtain ⟨g', hs'⟩ := (hs.issueDeleted "no_webhook_url").raiseSetupIssue self url
  unfold raiseSetupIssue at hs' ⊢
  split_ifs at hs' ⊢
  · exact .of_sharing hc.holder hc.called hc.known hgroup hs'
  · exact .of_sharing hc.holder hc.called hc.known hgroup hs'

/-- A call finds the group registered, and is over. -/
theorem Consistent.registeredOver (hc : Consistent clientId (.registering self r ::ₘ f) s)
    (hregistered : (s.data.theGroup r).registered = true) : Consistent clientId f s := by
  obtain ⟨hgroup, g, hs⟩ := hc.group rfl
  obtain ⟨hholder, hcalled⟩ := hc.counts rfl
  rw [hs.theGroup] at hregistered
  exact .of_sharing hholder hcalled hc.known hgroup (hs.drop fun _ _ => hregistered)

/-- A call registers the group, and is over. -/
theorem Consistent.register (hc : Consistent clientId (.registering self r ::ₘ f) s)
    (hnot : (s.data.theGroup r).registered = false) (hooks : List String) :
    Consistent clientId f ⟨s.locked,
      (registered (s.data.theGroup r).webhookId hooks s.data).updateGroup r
        fun g => { g with registered := true }⟩ := by
  obtain ⟨hgroup, g, hs⟩ := hc.group rfl
  obtain ⟨hholder, hcalled⟩ := hc.counts rfl
  rw [hs.theGroup] at hnot ⊢
  exact .of_sharing hholder hcalled hc.known hgroup (hs.register hnot hooks)

/-- Home Assistant answers otherwise. -/
theorem Consistent.environment (hc : Consistent clientId xs s) (environment : Environment) :
    Consistent clientId xs ⟨s.locked, { s.data with environment := environment }⟩ where
  holder := hc.holder
  called := hc.called
  known := hc.known
  alone hnone := by
    have ha := hc.alone hnone
    exact ⟨ha.onStop, ha.urls, ha.registrations, ha.issue, ha.outside⟩
  shared r hr := by
    obtain ⟨g, hs⟩ := hc.shared r hr
    exact ⟨g, hs.object, hs.refcount, hs.ids, hs.resolved, hs.same, hs.registrations, hs.issue,
      hs.url, hs.forUrl, hs.registering⟩

/-- Who has joined was called. -/
theorem Consistent.mem_called (hc : Consistent clientId xs s) (hself : self ∈ s.data.onStop) :
    self ∈ s.data.called := by
  have hmem : self ∈ (s.data.called : Multiset ℕ) := by
    rw [hc.called]
    exact Multiset.mem_add.mpr (.inl (Multiset.mem_coe.mpr hself))
  exact Multiset.mem_coe.mp hmem

/-- An entry is added. -/
theorem Consistent.added (hc : Consistent clientId xs s) {e : Entry}
    (hnew : e.entryId ∉ s.data.entries.map Entry.entryId) :
    Consistent clientId xs ⟨s.locked, { s.data with entries := s.data.entries ++ [e] }⟩ where
  holder := hc.holder
  called := hc.called
  known self hself := by
    show self ∈ (s.data.entries ++ [e]).map Entry.entryId
    rw [List.map_append]
    exact List.mem_append_left _ (hc.known self hself)
  alone hnone := by
    have ha := hc.alone hnone
    exact ⟨ha.onStop, ha.urls, ha.registrations, ha.issue, ha.outside⟩
  shared r hr := by
    obtain ⟨g, hs⟩ := hc.shared r hr
    refine ⟨g, hs.object, hs.refcount, fun e' he' hmem => ?_, hs.resolved, hs.same,
      hs.registrations, hs.issue, hs.url, hs.forUrl, hs.registering⟩
    rcases List.mem_append.mp he' with he' | he'
    · exact hs.ids e' he' hmem
    · rw [List.mem_singleton.mp he'] at hmem
      exact absurd (hc.known _ (hc.mem_called hmem)) hnew

end TTLockConnect.Webhook.Siblings
