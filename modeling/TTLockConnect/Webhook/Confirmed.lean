import TTLockConnect.Async.Runs
import TTLockConnect.Webhook.Group
import TTLockConnect.Webhook.Records
import Mathlib.Tactic.SplitIfs
import Mathlib.Tactic.ByContra

/-! # Whether a confirmed webhook has carried traffic

The entries of one developer application, through the resolution of their group, the joining of
entries, the posts on the group's id and restarts of Home Assistant. `CONF_WEBHOOK_STATUS` tells
whether an entry's id has carried a dispatched record, as long as a resolution finds at most one
confirmed id, no confirmed entry joins an unconfirmed group, and the first post on an id is handled
to its end. -/

namespace TTLockConnect.Webhook.Confirmed

open TTLockConnect.Text TTLockConnect.Models TTLockConnect.Async.Runs
open TTLockConnect.Webhook.Records TTLockConnect.Webhook.Group

/-! ### The application and its steps -/

/-- The entries of one developer application, their group at runtime, the entry whose handler is
registered for the group's id, and the ids that have carried a record which was dispatched. -/
structure Application where
  entries : List Entry
  group : Option WebhookGroup
  registrar : Option ℕ
  carried : List String
  deriving DecidableEq, Repr

/-- What happens next. -/
inductive AppLabel where
  /-- An entry that finds no group resolves one, among itself and the entries known to be of the
  same application. -/
  | resolve (self : ℕ) (known : List ℕ) (fresh : String)
  /-- An entry syncs itself to the group. -/
  | join (entryId : ℕ)
  /-- An entry that has joined registers its handler. -/
  | register (entryId : ℕ)
  /-- A post on the group's id. -/
  | post (post : Post)
  /-- Home Assistant is restarted. -/
  | restart
  deriving DecidableEq, Repr

/-- `_group_members`. -/
def isMember (self : ℕ) (known : List ℕ) (e : Entry) : Bool :=
  e.entryId == self || known.contains e.entryId

namespace Application

variable (lib : Library)

/-- The resolution, and every member brought in line with it. -/
def resolved (s : Application) (self : ℕ) (known : List ℕ) (fresh : String) : Application :=
  let r := resolveGroupWebhookId (s.entries.filter (isMember self known)) fresh
  { s with
    entries := s.entries.map fun e =>
      if isMember self known e then e.adopt r.canonical r.confirmed else e
    group := some { webhookId := r.canonical, confirmed := r.confirmed } }

/-- An entry synced to the group. -/
def joined (s : Application) (group : WebhookGroup) (entryId : ℕ) : Application :=
  { s with entries := s.entries.map fun e =>
      if e.entryId = entryId then syncEntryToGroup group e else e }

/-- A post handled by the entry `e` that is registered. -/
def posted (s : Application) (group : WebhookGroup) (e : Entry) (post : Post) : Application :=
  let handled := handleWebhook lib e.status post
  { s with
    entries := if handled.resolved then resolveSetupIssue e.webhookId s.entries else s.entries
    group := some { group with confirmed := group.confirmed || handled.resolved }
    carried := if handled.dispatched = [] then s.carried else group.webhookId :: s.carried }

/-- One step. A fresh token has not carried anything. -/
def step (s : Application) : AppLabel → Option Application
  | .resolve self known fresh =>
    if s.group = none ∧ fresh ∉ s.carried then some (s.resolved self known fresh) else none
  | .join entryId => s.group.map fun group => s.joined group entryId
  | .register entryId =>
    match s.group, s.entries.find? fun e => e.entryId == entryId with
    | some group, some e =>
      if group.registered = false ∧ e.webhookId = some group.webhookId then
        some { s with group := some { group with registered := true }, registrar := some entryId }
      else none
    | _, _ => none
  | .post post =>
    match s.group, s.registrar.bind fun r => s.entries.find? fun e => e.entryId == r with
    | some group, some e => some (s.posted lib group e post)
    | _, _ => none
  | .restart => some { s with group := none, registrar := none }

end Application

/-! ### Truthful flags -/

/-- The flag of an entry says whether its id has carried traffic. -/
def Exact (carried : List String) (e : Entry) : Prop :=
  e.status = true ↔ ∃ id ∈ carried, e.webhookId = some id

/-- **The flags are truthful**: every entry's, and the group's own. -/
structure Truthful (s : Application) : Prop where
  entries : ∀ e ∈ s.entries, Exact s.carried e
  group : ∀ g ∈ s.group, (g.confirmed = true ↔ g.webhookId ∈ s.carried)

/-- The handler that is registered belongs to an entry that has the group's id. -/
def Registered (s : Application) : Prop :=
  ∀ r ∈ s.registrar, ∃ g e, s.group = some g ∧
    s.entries.find? (fun e => e.entryId == r) = some e ∧ e.webhookId = some g.webhookId

/-- The members are confirmed under at most one id. -/
def OneConfirmed (members : List Entry) : Prop :=
  ∀ id ∈ confirmedIds members, ∀ id' ∈ confirmedIds members, id = id'

/-- What a step has to meet. -/
def Allowed (lib : Library) (s : Application) : AppLabel → Prop
  | .resolve self known _ => OneConfirmed (s.entries.filter (isMember self known))
  | .join entryId => ∀ g ∈ s.group, g.confirmed = false →
      ∀ e ∈ s.entries, e.entryId = entryId → e.status = false
  | .post post => (∀ a ∈ attempts lib post, a.toBool = true) ∨
      (attempts lib post).head?.any Except.toBool = false ∨ ∀ g ∈ s.group, g.confirmed = true
  | _ => True

variable {lib : Library} {s s' : Application} {l : AppLabel} {carried : List String}
  {members : List Entry} {fresh : String}

theorem exact_adopt_iff {e : Entry} {id : String} {confirmed : Bool} :
    Exact carried (e.adopt id confirmed) ↔ ((e.status = true ∨ confirmed = true) ↔ id ∈ carried) := by
  unfold Exact Entry.adopt
  simp [Bool.or_eq_true]

/-! ### A resolution -/

section Resolution
variable (hex : ∀ e ∈ members, Exact carried e)
include hex

theorem carried_of_confirmed {id : String} (h : id ∈ confirmedIds members) : id ∈ carried := by
  obtain ⟨e, he, hst, hid⟩ := mem_confirmedIds.mp h
  obtain ⟨id', hc, hid'⟩ := (hex e he).mp hst
  rw [hid] at hid'
  rwa [Option.some.inj hid']

theorem confirmed_of_carried {id : String} (h : id ∈ existing members) (hc : id ∈ carried) :
    id ∈ confirmedIds members := by
  obtain ⟨e, he, hid⟩ := mem_existing.mp h
  exact mem_confirmedIds.mpr ⟨e, he, (hex e he).mpr ⟨id, hc, hid⟩, hid⟩

/-- A confirmed member is confirmed under an id. -/
theorem confirmedId_of_status {e : Entry} (he : e ∈ members) (hst : e.status = true) :
    ∃ id ∈ confirmedIds members, e.webhookId = some id := by
  obtain ⟨id, -, hid⟩ := (hex e he).mp hst
  exact ⟨id, mem_confirmedIds.mpr ⟨e, he, hst, hid⟩, hid⟩

/-- **Under at most one confirmed id the resolution is right about its choice**, and leaves no
confirmed member with an unconfirmed one. -/
theorem resolve_confirmed_iff (hone : OneConfirmed members) (hf : fresh ∉ carried) :
    ((resolveGroupWebhookId members fresh).confirmed = true ↔
      (resolveGroupWebhookId members fresh).canonical ∈ carried) ∧
    ((resolveGroupWebhookId members fresh).confirmed = false →
      ∀ e ∈ members, e.status = false) := by
  have hnone (hnil : confirmedIds members = []) : ∀ e ∈ members, e.status = false := by
    intro e he
    by_contra hst
    obtain ⟨id, hid, -⟩ := confirmedId_of_status hex he (Bool.not_eq_false _ ▸ hst)
    rw [hnil] at hid
    cases hid
  rcases resolve_cases members fresh with ⟨hnil, hr⟩ | ⟨id, hid, hr⟩ | ⟨id, hid, hr⟩ | ⟨id, hid, hne, hr⟩
  · have hc : confirmedIds members = [] := by
      rw [List.eq_nil_iff_forall_not_mem]
      intro id hid
      have hmem := confirmedIds_subset hid
      rw [hnil] at hmem
      cases hmem
    rw [hr]
    exact ⟨iff_of_false Bool.false_ne_true hf, fun _ => hnone hc⟩
  · have hmem : id ∈ existing members := by rw [hid]; exact List.mem_cons_self
    rw [hr]
    dsimp only
    rw [List.contains_iff_mem]
    refine ⟨⟨carried_of_confirmed hex, confirmed_of_carried hex hmem⟩, fun hn e he => ?_⟩
    by_contra hst
    obtain ⟨id', hid', -⟩ := confirmedId_of_status hex he (Bool.not_eq_false _ ▸ hst)
    have heq : id' = id := by
      have hsub := confirmedIds_subset hid'
      rw [hid] at hsub
      exact List.mem_singleton.mp hsub
    rw [heq, ← List.contains_iff_mem, hn] at hid'
    cases hid'
  · rw [hr]
    have hmem : id ∈ confirmedIds members := by rw [hid]; exact List.mem_cons_self
    exact ⟨iff_of_true rfl (carried_of_confirmed hex hmem), nofun⟩
  · have hc : confirmedIds members = [] := by
      rcases hl : confirmedIds members with _ | ⟨c, _ | ⟨c', cs⟩⟩
      · rfl
      · exact absurd hl (hne c)
      · have hnd : (confirmedIds members).Nodup := List.nodup_dedup _
        have heq : c = c' := hone c (by simp [hl]) c' (by simp [hl])
        rw [hl, heq] at hnd
        simp at hnd
    rw [hr]
    refine ⟨iff_of_false Bool.false_ne_true fun hcar => ?_, fun _ => hnone hc⟩
    have hmem := confirmed_of_carried hex hid hcar
    rw [hc] at hmem
    cases hmem

end Resolution

/-- Under two confirmed ids the resolution guesses. -/
theorem resolve_unconfirmed (fresh : String) (hone : ¬ OneConfirmed members) :
    (resolveGroupWebhookId members fresh).confirmed = false ∧ ∃ e ∈ members, e.status = true := by
  unfold OneConfirmed at hone
  simp only [not_forall] at hone
  obtain ⟨a, ha, b, hb, hab⟩ := hone
  obtain ⟨e, he, hst, -⟩ := mem_confirmedIds.mp ha
  refine ⟨?_, e, he, hst⟩
  have hsame {id : String} (h : ∀ c ∈ confirmedIds members, c = id) : False :=
    hab ((h a ha).trans (h b hb).symm)
  rcases resolve_cases members fresh with ⟨hnil, hr⟩ | ⟨id, hid, hr⟩ | ⟨id, hid, hr⟩ | ⟨id, -, -, hr⟩
  · rw [hr]
  · have hall : ∀ c ∈ confirmedIds members, c = id := by
      intro c hc
      have hsub := confirmedIds_subset hc
      rw [hid] at hsub
      exact List.mem_singleton.mp hsub
    exact (hsame hall).elim
  · have hall : ∀ c ∈ confirmedIds members, c = id := by
      intro c hc
      rw [hid] at hc
      exact List.mem_singleton.mp hc
    exact (hsame hall).elim
  · rw [hr]

/-! ### One step -/

theorem step_resolve_iff (hg : Truthful s) {self : ℕ} {known : List ℕ} (hf : fresh ∉ s.carried) :
    Truthful (s.resolved self known fresh) ↔
      OneConfirmed (s.entries.filter (isMember self known)) := by
  have hex : ∀ e ∈ s.entries.filter (isMember self known), Exact s.carried e := fun e he =>
    hg.entries e (List.mem_filter.mp he).1
  constructor
  · intro h
    by_contra hone
    obtain ⟨hr, e, he, hst⟩ := resolve_unconfirmed fresh hone
    obtain ⟨hmem, hself⟩ := List.mem_filter.mp he
    -- the group is not confirmed, and yet the member is
    have hgroup := h.group _ rfl
    dsimp only at hgroup
    rw [hr] at hgroup
    have hentry := h.entries _ (List.mem_map.mpr ⟨e, hmem, if_pos hself⟩)
    rw [exact_adopt_iff, hr] at hentry
    exact Bool.false_ne_true (hgroup.mpr (hentry.mp (.inl hst)))
  · intro hone
    obtain ⟨hconf, hnone⟩ := resolve_confirmed_iff hex hone hf
    refine ⟨fun e' he' => ?_, fun g hgr => ?_⟩
    · obtain ⟨e, he, rfl⟩ := List.mem_map.mp he'
      by_cases hself : isMember self known e = true
      · rw [if_pos hself, exact_adopt_iff]
        change (_ ∨ _) ↔ _ ∈ s.carried
        rw [← hconf]
        refine ⟨fun h => h.elim (fun hst => ?_) id, .inr⟩
        by_contra hc
        have hno := hnone (Bool.eq_false_iff.mpr hc) e (List.mem_filter.mpr ⟨he, hself⟩)
        exact absurd (hno.symm.trans hst) (by decide)
      · rw [if_neg hself]
        exact hg.entries e he
    · cases hgr
      exact hconf

theorem step_join_iff (hg : Truthful s) {g : WebhookGroup} (hgr : s.group = some g) {i : ℕ} :
    Truthful (s.joined g i) ↔
      (g.confirmed = false → ∀ e ∈ s.entries, e.entryId = i → e.status = false) := by
  have hgc : g.confirmed = true ↔ g.webhookId ∈ s.carried := hg.group g hgr
  constructor
  · intro h hc e he hi
    have hentry := h.entries _ (List.mem_map.mpr ⟨e, he, if_pos hi⟩)
    rw [syncEntryToGroup, exact_adopt_iff] at hentry
    by_contra hst
    have hcar := hentry.mp (.inl (Bool.not_eq_false _ ▸ hst))
    rw [hgc.mpr hcar] at hc
    cases hc
  · intro hj
    refine ⟨fun e' he' => ?_, hg.group⟩
    obtain ⟨e, he, rfl⟩ := List.mem_map.mp he'
    by_cases hi : e.entryId = i
    · rw [if_pos hi, syncEntryToGroup, exact_adopt_iff]
      change (_ ∨ _) ↔ _ ∈ s.carried
      rw [← hgc]
      refine ⟨fun h => h.elim (fun hst => ?_) id, .inr⟩
      by_contra hc
      have hno := hj (Bool.eq_false_iff.mpr hc) e he hi
      exact absurd (hno.symm.trans hst) (by decide)
    · rw [if_neg hi]
      exact hg.entries e he

theorem mem_cons_of_carried {id id' : String} (h : id ∈ carried) :
    id' ∈ id :: carried ↔ id' ∈ carried := by
  rw [List.mem_cons]
  exact ⟨fun h' => h'.elim (fun he => he ▸ h) fun h => h, .inr⟩

theorem exact_congr {carried' : List String} {e : Entry}
    (h : ∀ id, e.webhookId = some id → (id ∈ carried' ↔ id ∈ carried)) :
    Exact carried' e ↔ Exact carried e := by
  unfold Exact
  refine iff_congr Iff.rfl (exists_congr fun id => ?_)
  constructor
  · rintro ⟨hc, hid⟩
    exact ⟨(h id hid).mp hc, hid⟩
  · rintro ⟨hc, hid⟩
    exact ⟨(h id hid).mpr hc, hid⟩

/-- Records have been dispatched, and nothing is confirmed: one of the entries has the id. -/
theorem unresolved_exact_iff (hex : ∀ e ∈ s.entries, Exact s.carried e) {e : Entry} {id : String}
    (he : e ∈ s.entries) (hid : e.webhookId = some id) :
    (∀ e ∈ s.entries, Exact (id :: s.carried) e) ↔ id ∈ s.carried := by
  constructor
  · intro h
    have hst : e.status = true := (h e he).mpr ⟨id, List.mem_cons_self, hid⟩
    obtain ⟨id', hc, hid'⟩ := (hex e he).mp hst
    rw [hid] at hid'
    rwa [Option.some.inj hid']
  · exact fun hc e he => (exact_congr fun id' _ => mem_cons_of_carried hc).mpr (hex e he)

/-- Records have been dispatched, and the entries with the id are confirmed. -/
theorem resolved_exact (hex : ∀ e ∈ s.entries, Exact s.carried e) (id : String) :
    ∀ e ∈ resolveSetupIssue (some id) s.entries, Exact (id :: s.carried) e := by
  intro e' he'
  obtain ⟨e, he, rfl⟩ := List.mem_map.mp he'
  by_cases hid : e.webhookId = some id
  · rw [if_pos hid]
    exact iff_of_true rfl ⟨id, List.mem_cons_self, hid⟩
  · rw [if_neg hid]
    refine (exact_congr fun id' hid' => ?_).mpr (hex e he)
    have hne : id' ≠ id := fun heq => hid (heq ▸ hid')
    exact ⟨fun h => (List.mem_cons.mp h).resolve_left hne, List.mem_cons_of_mem _⟩

/-- The post dispatches a record: the first attempt succeeds. -/
def Dispatches (lib : Library) (post : Post) : Prop :=
  (attempts lib post).head?.any Except.toBool = true

/-- **What a post does** that is handled by an entry with the group's id: nothing if no record is
dispatched; else the id has carried traffic, and is confirmed if the post is handled to its end by an
entry that is not. -/
theorem posted_cases (lib : Library) (s : Application) {g : WebhookGroup} {e : Entry}
    (hid : e.webhookId = some g.webhookId) (post : Post) :
    (¬ Dispatches lib post ∧ s.posted lib g e post =
      { s with group := some { g with confirmed := g.confirmed || false } }) ∨
    (Dispatches lib post ∧ (∀ a ∈ attempts lib post, a.toBool = true) ∧ e.status = false ∧
      s.posted lib g e post =
        { s with
          entries := resolveSetupIssue (some g.webhookId) s.entries
          group := some { g with confirmed := g.confirmed || true }
          carried := g.webhookId :: s.carried }) ∨
    (Dispatches lib post ∧ (e.status = true ∨ ¬ ∀ a ∈ attempts lib post, a.toBool = true) ∧
      s.posted lib g e post =
        { s with
          group := some { g with confirmed := g.confirmed || false }
          carried := g.webhookId :: s.carried }) := by
  unfold Application.posted Dispatches
  dsimp only
  rcases attempts_cases (attempts lib post) with hok | ⟨pre, err, rest, ha, hpre⟩
  · rw [handleWebhook_of_ok lib e.status hok, ← values_attempts]
    dsimp only
    rcases hl : attempts lib post with _ | ⟨a, as⟩
    · exact .inl ⟨Bool.false_ne_true, rfl⟩
    · have hfirst : a.toBool = true := hok a (hl ▸ List.mem_cons_self)
      have hvals : values (a :: as) ≠ [] := fun h =>
        List.cons_ne_nil a as ((values_eq_nil_of_ok (hl ▸ hok)).mp h)
      have hne : (values (a :: as)).isEmpty = false := List.isEmpty_eq_false_iff.mpr hvals
      simp only [hvals, hne, Bool.not_false, Bool.true_and, if_false]
      rw [hl] at hok
      cases hs : e.status with
      | true => exact .inr (.inr ⟨hfirst, .inl rfl, rfl⟩)
      | false =>
        refine .inr (.inl ⟨hfirst, hok, rfl, ?_⟩)
        rw [hid]
        rfl
  · rw [handleWebhook_of_failure lib e.status ha hpre, ha]
    have hbad : ¬ ∀ a ∈ pre ++ .error err :: rest, a.toBool = true := fun h =>
      Bool.false_ne_true (h (.error err) (by simp))
    simp only [Handled.excepting, Bool.false_eq_true, if_false]
    cases pre with
    | nil => exact .inl ⟨Bool.false_ne_true, rfl⟩
    | cons a pre =>
      have hvals : values (a :: pre) ≠ [] := fun h =>
        List.cons_ne_nil a pre ((values_eq_nil_of_ok hpre).mp h)
      simp only [hvals, if_false]
      exact .inr (.inr ⟨hpre a List.mem_cons_self, .inr hbad, trivial⟩)

/-- What is asked of a post unless its first attempt fails is asked of one that dispatches a
record. -/
theorem unlessFailing_iff {P Q : Prop} {post : Post} :
    (P ∨ (attempts lib post).head?.any Except.toBool = false ∨ Q) ↔
      (Dispatches lib post → P ∨ Q) := by
  unfold Dispatches
  generalize (attempts lib post).head?.any Except.toBool = first
  cases first with
  | false => exact iff_of_true (.inr (.inl rfl)) nofun
  | true => simp

/-- The entry that is registered is confirmed exactly if its id has carried traffic. -/
theorem status_iff_carried (hex : ∀ e ∈ s.entries, Exact s.carried e) {e : Entry} {id : String}
    (he : e ∈ s.entries) (hid : e.webhookId = some id) : e.status = true ↔ id ∈ s.carried := by
  refine (hex e he).trans ⟨?_, fun hc => ⟨id, hc, hid⟩⟩
  rintro ⟨id', hc, hid'⟩
  rw [hid] at hid'
  rwa [Option.some.inj hid']

theorem step_post_iff (hg : Truthful s) {g : WebhookGroup} (hgr : s.group = some g) {e : Entry}
    (he : e ∈ s.entries) (hid : e.webhookId = some g.webhookId) (post : Post) :
    Truthful (s.posted lib g e post) ↔ Allowed lib s (.post post) := by
  have hgroups : (∀ g ∈ s.group, g.confirmed = true) ↔ g.webhookId ∈ s.carried := by
    rw [hgr]
    refine ⟨fun h => (hg.group g hgr).mp (h g rfl), fun h g' hg' => ?_⟩
    cases hg'
    exact (hg.group g hgr).mpr h
  unfold Allowed
  dsimp only
  rw [unlessFailing_iff, hgroups]
  rcases posted_cases lib s hid post with ⟨hd, hs⟩ | ⟨hd, hok, -, hs⟩ | ⟨hd, hst, hs⟩
  · rw [hs]
    refine iff_of_true ⟨hg.entries, fun g' hg' => ?_⟩ fun h => absurd h hd
    cases hg'
    dsimp only
    rw [Bool.or_false]
    exact hg.group g hgr
  · rw [hs]
    refine iff_of_true ⟨resolved_exact hg.entries _, fun g' hg' => ?_⟩ fun _ => .inl hok
    cases hg'
    exact iff_of_true (Bool.or_true _) List.mem_cons_self
  · rw [hs]
    have hcar := unresolved_exact_iff hg.entries he hid
    have hallowed : (Dispatches lib post → (∀ a ∈ attempts lib post, a.toBool = true) ∨
        g.webhookId ∈ s.carried) ↔ g.webhookId ∈ s.carried := by
      refine ⟨fun h => (h hd).elim (fun hok => ?_) id, fun h _ => .inr h⟩
      exact (status_iff_carried hg.entries he hid).mp (hst.resolve_right fun hn => hn hok)
    rw [hallowed]
    refine ⟨fun h => hcar.mp h.entries, fun hc => ⟨hcar.mpr hc, fun g' hg' => ?_⟩⟩
    cases hg'
    have hconf : g.confirmed = true := (hg.group g hgr).mpr hc
    exact iff_of_true (by simp [hconf]) List.mem_cons_self

/-- What a step can do. -/
theorem step_cases (h : s.step lib l = some s') :
    (∃ self known fresh, l = .resolve self known fresh ∧ s.group = none ∧ fresh ∉ s.carried ∧
      s' = s.resolved self known fresh) ∨
    (∃ i g, l = .join i ∧ s.group = some g ∧ s' = s.joined g i) ∨
    (∃ i g e, l = .register i ∧ s.group = some g ∧
      s.entries.find? (fun e => e.entryId == i) = some e ∧ e.webhookId = some g.webhookId ∧
      s' = { s with group := some { g with registered := true }, registrar := some i }) ∨
    (∃ post g r e, l = .post post ∧ s.group = some g ∧ s.registrar = some r ∧
      s.entries.find? (fun e => e.entryId == r) = some e ∧ s' = s.posted lib g e post) ∨
    (l = .restart ∧ s' = { s with group := none, registrar := none }) := by
  cases l with
  | resolve self known fresh =>
    simp only [Application.step] at h
    split_ifs at h with hc
    exact .inl ⟨self, known, fresh, rfl, hc.1, hc.2, (Option.some.inj h).symm⟩
  | join i =>
    obtain ⟨g, hg, hs⟩ := Option.map_eq_some_iff.mp h
    exact .inr (.inl ⟨i, g, rfl, hg, hs.symm⟩)
  | register i =>
    simp only [Application.step] at h
    split at h
    · rename_i g e hg he
      split_ifs at h with hc
      exact .inr (.inr (.inl ⟨i, g, e, rfl, hg, he, hc.2, (Option.some.inj h).symm⟩))
    · cases h
  | post post =>
    simp only [Application.step] at h
    split at h
    · rename_i g e hg he
      obtain ⟨r, hr, he⟩ := Option.bind_eq_some_iff.mp he
      exact .inr (.inr (.inr (.inl ⟨post, g, r, e, rfl, hg, hr, he, (Option.some.inj h).symm⟩)))
    · cases h
  | restart => exact .inr (.inr (.inr (.inr ⟨rfl, (Option.some.inj h).symm⟩)))

theorem find?_map_entry {entries : List Entry} {r : ℕ} {e : Entry} {f : Entry → Entry}
    (hf : ∀ e, (f e).entryId = e.entryId)
    (h : entries.find? (fun e => e.entryId == r) = some e) :
    (entries.map f).find? (fun e => e.entryId == r) = some (f e) := by
  have hp : ((fun e => e.entryId == r) ∘ f) = fun e : Entry => e.entryId == r := by
    funext e
    simp only [Function.comp_apply, hf]
  rw [List.find?_map, hp, h]
  rfl

theorem step_registered (hj : Registered s) (h : s.step lib l = some s') : Registered s' := by
  obtain ⟨self, known, fresh, -, hgr, -, rfl⟩ | ⟨i, g, -, hgr, rfl⟩ | ⟨i, g, e, -, hgr, he, hid, rfl⟩ |
    ⟨post, g, r, e, -, hgr, hr, he, rfl⟩ | ⟨-, rfl⟩ := step_cases h
  · intro r hr
    obtain ⟨g, -, hg, -⟩ := hj r hr
    rw [hgr] at hg
    cases hg
  · intro r hr
    obtain ⟨g', e, hg', he, hid⟩ := hj r hr
    rw [hgr] at hg'
    cases hg'
    refine ⟨g, _, hgr, find?_map_entry (fun e => ?_) he, ?_⟩
    · by_cases hi : e.entryId = i
      · rw [if_pos hi]
        rfl
      · rw [if_neg hi]
    · by_cases hi : e.entryId = i
      · rw [if_pos hi]
        rfl
      · rw [if_neg hi]
        exact hid
  · intro r hr
    cases hr
    exact ⟨_, e, rfl, he, hid⟩
  · intro r' hr'
    obtain ⟨g', e', hg', he', hid'⟩ := hj r' hr'
    rw [hgr] at hg'
    cases hg'
    unfold Application.posted
    dsimp only
    cases (handleWebhook lib e.status post).resolved with
    | false => exact ⟨_, e', rfl, he', hid'⟩
    | true =>
      refine ⟨_, _, rfl, find?_map_entry (fun e => ?_) he', ?_⟩
      · split_ifs <;> rfl
      · split_ifs <;> exact hid'
  · exact nofun

/-- **A step keeps the flags truthful exactly if it is allowed.** -/
theorem step_truthful_iff (hj : Registered s) (hg : Truthful s) (h : s.step lib l = some s') :
    Truthful s' ↔ Allowed lib s l := by
  obtain ⟨self, known, fresh, rfl, hgr, hf, rfl⟩ | ⟨i, g, rfl, hgr, rfl⟩ |
    ⟨i, g, e, rfl, hgr, he, hid, rfl⟩ | ⟨post, g, r, e, rfl, hgr, hr, he, rfl⟩ | ⟨rfl, rfl⟩ :=
      step_cases h
  · exact step_resolve_iff hg hf
  · rw [step_join_iff hg hgr]
    refine ⟨fun h g' hg' => ?_, fun h => h g hgr⟩
    rw [hgr] at hg'
    cases hg'
    exact h
  · refine iff_of_true ⟨hg.entries, fun g' hg' => ?_⟩ trivial
    cases hg'
    exact hg.group g hgr
  · obtain ⟨g', e', hg', he', hid⟩ := hj r hr
    rw [hgr] at hg'
    cases hg'
    rw [he] at he'
    cases he'
    exact step_post_iff hg hgr (List.mem_of_find?_eq_some he) hid post
  · exact iff_of_true ⟨hg.entries, nofun⟩ trivial

/-! ### The flags of the entries alone -/

/-- **The entries' flags are truthful.** -/
def FlagsTruthful (s : Application) : Prop := ∀ e ∈ s.entries, Exact s.carried e

/-- What helps the flags of the entries along: the handler that is registered has the group's id, and
the id of a confirmed group has carried traffic. -/
structure Grounded (s : Application) : Prop where
  registered : Registered s
  confirmed : ∀ g ∈ s.group, g.confirmed = true → g.webhookId ∈ s.carried

/-- What a step has to meet for the entries' flags: a guess is harmless if all members are confirmed
under ids of their own, and then the group does not know that its id has carried traffic. -/
def AllowedFlags (lib : Library) (s : Application) : AppLabel → Prop
  | .resolve self known _ => OneConfirmed (s.entries.filter (isMember self known)) ∨
      ∀ e ∈ s.entries.filter (isMember self known), e.status = true
  | .join entryId => ∀ g ∈ s.group, g.confirmed = false → ∀ e ∈ s.entries, e.entryId = entryId →
      (e.status = true ↔ g.webhookId ∈ s.carried)
  | .post post => (∀ a ∈ attempts lib post, a.toBool = true) ∨
      (attempts lib post).head?.any Except.toBool = false ∨ ∀ g ∈ s.group, g.webhookId ∈ s.carried
  | _ => True

/-- A group that a resolution confirms has an id that has carried traffic. -/
theorem carried_of_resolved (hex : ∀ e ∈ members, Exact carried e) (fresh : String)
    (h : (resolveGroupWebhookId members fresh).confirmed = true) :
    (resolveGroupWebhookId members fresh).canonical ∈ carried := by
  rcases resolve_cases members fresh with ⟨-, hr⟩ | ⟨id, -, hr⟩ | ⟨id, hid, hr⟩ | ⟨id, -, -, hr⟩
  · rw [hr] at h
    cases h
  · rw [hr] at h ⊢
    exact carried_of_confirmed hex (List.contains_iff_mem.mp h)
  · rw [hr]
    exact carried_of_confirmed hex (hid ▸ List.mem_cons_self)
  · rw [hr] at h
    cases h

/-- If all members are confirmed, any of their ids has carried traffic. -/
theorem carried_of_allConfirmed (hex : ∀ e ∈ members, Exact carried e)
    (hall : ∀ e ∈ members, e.status = true) (hne : members ≠ []) (fresh : String) :
    (resolveGroupWebhookId members fresh).canonical ∈ carried := by
  have hexisting {id : String} (h : id ∈ existing members) : id ∈ carried := by
    obtain ⟨e, he, hid⟩ := mem_existing.mp h
    exact carried_of_confirmed hex (mem_confirmedIds.mpr ⟨e, he, hall e he, hid⟩)
  rcases resolve_cases members fresh with ⟨hnil, -⟩ | ⟨id, hid, hr⟩ | ⟨id, hid, hr⟩ | ⟨id, hid, -, hr⟩
  · obtain ⟨e, es, rfl⟩ := List.exists_cons_of_ne_nil hne
    obtain ⟨id, hid, -⟩ := confirmedId_of_status hex List.mem_cons_self (hall e List.mem_cons_self)
    have hmem := confirmedIds_subset hid
    rw [hnil] at hmem
    cases hmem
  · rw [hr]
    exact hexisting (hid ▸ List.mem_cons_self)
  · rw [hr]
    exact carried_of_confirmed hex (hid ▸ List.mem_cons_self)
  · rw [hr]
    exact hexisting hid

theorem step_resolve_flags_iff (hg : FlagsTruthful s) (hgr : s.group = none) {self : ℕ}
    {known : List ℕ} (hf : fresh ∉ s.carried) :
    FlagsTruthful (s.resolved self known fresh) ↔
      AllowedFlags lib s (.resolve self known fresh) := by
  have hex : ∀ e ∈ s.entries.filter (isMember self known), Exact s.carried e := fun e he =>
    hg e (List.mem_filter.mp he).1
  constructor
  · intro h
    by_contra hn
    obtain ⟨hone, hall⟩ := not_or.mp hn
    obtain ⟨hr, e, he, hst⟩ := resolve_unconfirmed fresh hone
    obtain ⟨e', he', hst'⟩ := not_forall₂.mp hall
    -- one member is confirmed and the other one is not, under the same id
    have hentry {e : Entry} (he : e ∈ s.entries.filter (isMember self known)) :
        e.status = true ↔ (resolveGroupWebhookId (s.entries.filter (isMember self known))
          fresh).canonical ∈ s.carried := by
      obtain ⟨hmem, hself⟩ := List.mem_filter.mp he
      have hexact : Exact s.carried _ := h _ (List.mem_map.mpr ⟨e, hmem, if_pos hself⟩)
      rw [exact_adopt_iff, hr] at hexact
      simpa only [Bool.false_eq_true, or_false] using hexact
    exact hst' ((hentry he').mpr ((hentry he).mp hst))
  · rintro (hone | hall)
    · have hgroup : ∀ g ∈ s.group, (g.confirmed = true ↔ g.webhookId ∈ s.carried) := by
        rw [hgr]
        exact nofun
      exact ((step_resolve_iff ⟨hg, hgroup⟩ hf).mpr hone).entries
    · intro e' he'
      obtain ⟨e, he, rfl⟩ := List.mem_map.mp he'
      by_cases hself : isMember self known e = true
      · have hmem := List.mem_filter.mpr ⟨he, hself⟩
        rw [if_pos hself, exact_adopt_iff]
        exact iff_of_true (.inl (hall e hmem))
          (carried_of_allConfirmed hex hall (List.ne_nil_of_mem hmem) fresh)
      · rw [if_neg hself]
        exact hg e he

theorem step_join_flags_iff (hg : FlagsTruthful s) (hj : Grounded s) {g : WebhookGroup}
    (hgr : s.group = some g) {i : ℕ} :
    FlagsTruthful (s.joined g i) ↔ AllowedFlags lib s (.join i) := by
  have hexact {e : Entry} : Exact s.carried (syncEntryToGroup g e) ↔
      (g.confirmed = false → (e.status = true ↔ g.webhookId ∈ s.carried)) := by
    rw [syncEntryToGroup, exact_adopt_iff]
    cases hc : g.confirmed with
    | true => exact iff_of_true (iff_of_true (.inr rfl) (hj.confirmed g hgr hc)) nofun
    | false => simp
  constructor
  · intro h g' hg' hc e he hi
    rw [hgr] at hg'
    cases hg'
    exact hexact.mp (h _ (List.mem_map.mpr ⟨e, he, if_pos hi⟩)) hc
  · intro ha e' he'
    obtain ⟨e, he, rfl⟩ := List.mem_map.mp he'
    by_cases hi : e.entryId = i
    · rw [if_pos hi]
      exact hexact.mpr fun hc => ha g hgr hc e he hi
    · rw [if_neg hi]
      exact hg e he

theorem step_post_flags_iff (hg : FlagsTruthful s) {g : WebhookGroup} (hgr : s.group = some g)
    {e : Entry} (he : e ∈ s.entries) (hid : e.webhookId = some g.webhookId) (post : Post) :
    FlagsTruthful (s.posted lib g e post) ↔ AllowedFlags lib s (.post post) := by
  have hallowed : AllowedFlags lib s (.post post) ↔ (Dispatches lib post →
      (∀ a ∈ attempts lib post, a.toBool = true) ∨ g.webhookId ∈ s.carried) := by
    unfold AllowedFlags
    dsimp only
    rw [unlessFailing_iff, hgr]
    simp
  rw [hallowed]
  rcases posted_cases lib s hid post with ⟨hd, hs⟩ | ⟨hd, hok, -, hs⟩ | ⟨hd, hst, hs⟩
  · rw [hs]
    exact iff_of_true hg fun h => absurd h hd
  · rw [hs]
    exact iff_of_true (resolved_exact hg _) fun _ => .inl hok
  · rw [hs]
    refine (unresolved_exact_iff hg he hid).trans ⟨fun h _ => .inr h, fun h => ?_⟩
    refine (h hd).elim (fun hok => ?_) id
    exact (status_iff_carried hg he hid).mp (hst.resolve_right fun hn => hn hok)

/-- **A step keeps the entries' flags truthful exactly if it is allowed.** -/
theorem step_flagsTruthful_iff (hj : Grounded s) (hg : FlagsTruthful s)
    (h : s.step lib l = some s') : FlagsTruthful s' ↔ AllowedFlags lib s l := by
  obtain ⟨self, known, fresh, rfl, hgr, hf, rfl⟩ | ⟨i, g, rfl, hgr, rfl⟩ |
    ⟨i, g, e, rfl, hgr, he, hid, rfl⟩ | ⟨post, g, r, e, rfl, hgr, hr, he, rfl⟩ | ⟨rfl, rfl⟩ :=
      step_cases h
  · exact step_resolve_flags_iff hg hgr hf
  · exact step_join_flags_iff hg hj hgr
  · exact iff_of_true hg trivial
  · obtain ⟨g', e', hg', he', hid⟩ := hj.registered r hr
    rw [hgr] at hg'
    cases hg'
    rw [he] at he'
    cases he'
    exact step_post_flags_iff hg hgr (List.mem_of_find?_eq_some he) hid post
  · exact iff_of_true hg trivial

theorem step_grounded (hj : Grounded s) (hg : FlagsTruthful s) (h : s.step lib l = some s') :
    Grounded s' := by
  refine ⟨step_registered hj.registered h, ?_⟩
  obtain ⟨self, known, fresh, -, hgr, -, rfl⟩ | ⟨i, g, -, hgr, rfl⟩ | ⟨i, g, e, -, hgr, he, hid, rfl⟩ |
    ⟨post, g, r, e, -, hgr, hr, he, rfl⟩ | ⟨-, rfl⟩ := step_cases h
  · intro g hg'
    cases hg'
    exact carried_of_resolved (fun e he => hg e (List.mem_filter.mp he).1) fresh
  · exact hj.confirmed
  · intro g' hg'
    cases hg'
    exact hj.confirmed g hgr
  · obtain ⟨g', e', hg', he', hid⟩ := hj.registered r hr
    rw [hgr] at hg'
    cases hg'
    rw [he] at he'
    cases he'
    intro g' hg' hc
    rcases posted_cases lib s hid post with ⟨-, hs⟩ | ⟨-, -, -, hs⟩ | ⟨-, -, hs⟩
    · rw [hs] at hg' ⊢
      cases hg'
      exact hj.confirmed g hgr ((Bool.or_false _).symm.trans hc)
    · rw [hs] at hg' ⊢
      cases hg'
      exact List.mem_cons_self
    · rw [hs] at hg' ⊢
      cases hg'
      exact List.mem_cons_self
  · exact nofun

/-! ### Runs -/

/-- An application before any of its entries is set up. -/
def Application.start (entries : List Entry) (carried : List String) : Application :=
  ⟨entries, none, none, carried⟩

theorem start_truthful_iff (entries : List Entry) (carried : List String) :
    Truthful (.start entries carried) ↔ ∀ e ∈ entries, Exact carried e :=
  ⟨fun h => h.entries, fun h => ⟨h, nofun⟩⟩

/-- An entry that is confirmed only if its id has carried traffic is so exactly then, unless its id
has and it is not confirmed. -/
theorem exact_iff_of_confirmedOnly {e : Entry}
    (h : e.status = true → ∃ id ∈ carried, e.webhookId = some id) :
    Exact carried e ↔ (e.status = false → ∀ id ∈ carried, e.webhookId ≠ some id) := by
  unfold Exact
  cases hs : e.status with
  | true => exact iff_of_true (iff_of_true rfl (h hs)) nofun
  | false =>
    constructor
    · exact fun hiff _ id hc hid => Bool.false_ne_true (hiff.mpr ⟨id, hc, hid⟩)
    · exact fun hno => ⟨fun h => absurd h Bool.false_ne_true, fun ⟨id, hc, hid⟩ =>
        absurd hid (hno rfl id hc)⟩

/-- **When confirmation is truthful.** An entry is confirmed at the start only if its id has carried a
dispatched record. Then throughout a run every entry is confirmed exactly if its id has, if and only if
no other entry's id has carried one at the start and every step is allowed: a resolution finds its
members confirmed under at most one id or all of them confirmed, an entry that joins a group that is
not confirmed is confirmed exactly if the group's id has carried a record, and a post that dispatches
one is handled to its end, or the id has carried one already.

With the group's own flag, and from any start: the entries are truthful at the start, a resolution
finds its members confirmed under at most one id, a confirmed entry joins none but a confirmed group,
and a post that dispatches a record is handled to its end, or the group is confirmed already. -/
theorem run_truthful_iff {entries : List Entry} {τ : List (Move Application AppLabel)}
    (hr : Run (Application.step lib) (.start entries carried) τ s) :
    ((∀ e ∈ entries, e.status = true → ∃ id ∈ carried, e.webhookId = some id) →
      ((FlagsTruthful (.start entries carried) ∧ ∀ m ∈ τ, FlagsTruthful m.dst) ↔
        (∀ e ∈ entries, e.status = false → ∀ id ∈ carried, e.webhookId ≠ some id) ∧
          ∀ m ∈ τ, AllowedFlags lib m.src m.label)) ∧
    ((Truthful (.start entries carried) ∧ ∀ m ∈ τ, Truthful m.dst) ↔
      (∀ e ∈ entries, Exact carried e) ∧ ∀ m ∈ τ, Allowed lib m.src m.label) := by
  constructor
  · intro honly
    have hstart : FlagsTruthful (.start entries carried) ↔
        ∀ e ∈ entries, e.status = false → ∀ id ∈ carried, e.webhookId ≠ some id :=
      forall₂_congr fun e he => exact_iff_of_confirmedOnly (honly e he)
    rw [← hstart]
    refine and_congr_right fun h0 => ?_
    exact hr.good_iff Grounded FlagsTruthful (AllowedFlags lib) ⟨nofun, nofun⟩ h0
      (fun s l s' hj hg h => step_grounded hj hg h) fun s l s' hj hg h =>
        step_flagsTruthful_iff hj hg h
  · rw [start_truthful_iff]
    refine and_congr_right fun h0 => ?_
    exact hr.good_iff Registered Truthful (Allowed lib) nofun
      ((start_truthful_iff entries carried).mpr h0) (fun s l s' hj _ h => step_registered hj h)
      fun s l s' hj hg h => step_truthful_iff hj hg h

/-! ### Old entries with ids of their own -/

instance (carried : List String) (e : Entry) : Decidable (Exact carried e) :=
  inferInstanceAs (Decidable (_ ↔ _))

instance (members : List Entry) : Decidable (OneConfirmed members) :=
  inferInstanceAs (Decidable (∀ id ∈ confirmedIds members, ∀ id' ∈ confirmedIds members, id = id'))

instance (lib : Library) (s : Application) : ∀ l, Decidable (Allowed lib s l)
  | .resolve _ _ _ => inferInstanceAs (Decidable (OneConfirmed _))
  | .join i => inferInstanceAs (Decidable (∀ g ∈ s.group, g.confirmed = false →
      ∀ e ∈ s.entries, e.entryId = i → e.status = false))
  | .post post => inferInstanceAs (Decidable ((∀ a ∈ attempts lib post, a.toBool = true) ∨
      (attempts lib post).head?.any Except.toBool = false ∨ ∀ g ∈ s.group, g.confirmed = true))
  | .register _ => .isTrue trivial
  | .restart => .isTrue trivial

instance (lib : Library) (s : Application) : ∀ l, Decidable (AllowedFlags lib s l)
  | .resolve self known _ => inferInstanceAs
      (Decidable (OneConfirmed _ ∨ ∀ e ∈ s.entries.filter (isMember self known), e.status = true))
  | .join i => inferInstanceAs (Decidable (∀ g ∈ s.group, g.confirmed = false →
      ∀ e ∈ s.entries, e.entryId = i → (e.status = true ↔ g.webhookId ∈ s.carried)))
  | .post post => inferInstanceAs (Decidable ((∀ a ∈ attempts lib post, a.toBool = true) ∨
      (attempts lib post).head?.any Except.toBool = false ∨ ∀ g ∈ s.group, g.webhookId ∈ s.carried))
  | .register _ => .isTrue trivial
  | .restart => .isTrue trivial

/-- Two entries are confirmed under ids of their own, and one is not. -/
def conflicting : List Entry :=
  [{ entryId := 0, webhookId := some "wh-a" },
    { entryId := 1, webhookId := some "wh-b", status := true },
    { entryId := 2, webhookId := some "wh-c", status := true }]

/-- **A guess counts as confirmed**: both entries are, under the first entry's id. -/
theorem guess_confirmed :
    ¬ ∀ (lib : Library) (entries : List Entry) (carried : List String)
      (τ : List (Move Application AppLabel)) (s : Application),
      (∀ e ∈ entries, e.status = true → ∃ id ∈ carried, e.webhookId = some id) →
        Run (Application.step lib) (.start entries carried) τ s →
          ∀ m ∈ τ, ∀ e ∈ m.dst.entries, Exact m.dst.carried e := by
  intro h
  have hexact := h sampleLibrary conflicting ["wh-b", "wh-c"] _ _ (by decide)
    (run_play _ [.resolve 0 [1, 2] "wh-new"])
  revert hexact
  decide

/-- One entry is confirmed, and another one is not. -/
def oneConfirmed : List Entry :=
  [{ entryId := 0, webhookId := some "wh-a" },
    { entryId := 1, webhookId := some "wh-b", status := true }]

/-- The other entry resolves the group and joins it, and a post comes. -/
def consolidation : List AppLabel :=
  [.resolve 0 [1] "wh-new", .join 0, .register 0, .post ⟨[("records", sampleField)]⟩]

/-- A resolution that finds one confirmed id is truthful. -/
theorem one_confirmed_truthful :
    (FlagsTruthful (.start oneConfirmed ["wh-b"]) ∧
      ∀ m ∈ (play (Application.step sampleLibrary) (.start oneConfirmed ["wh-b"]) consolidation).1,
        FlagsTruthful m.dst) ∧
    Truthful (.start oneConfirmed ["wh-b"]) ∧
      ∀ m ∈ (play (Application.step sampleLibrary) (.start oneConfirmed ["wh-b"]) consolidation).1,
        Truthful m.dst := by
  have hboth := run_truthful_iff (run_play (.start oneConfirmed ["wh-b"]) consolidation :
    Run (Application.step sampleLibrary) _ _ _)
  exact ⟨(hboth.1 (by decide)).mpr ⟨by decide, by decide +kernel⟩,
    hboth.2.mpr ⟨by decide, by decide +kernel⟩⟩

end TTLockConnect.Webhook.Confirmed
