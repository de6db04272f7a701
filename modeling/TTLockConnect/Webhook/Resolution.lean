import TTLockConnect.Diagnostics.Replies
import TTLockConnect.Webhook.Register
import Mathlib.Data.List.AList

/-! # The resolution of a group, on the data of its members

`_resolve_group_webhook_id` on whole config entries: it chooses the id by what their data have under
three keys, and rewrites these three only. Seen through the three keys it is the choice and the
adoption of the abstract group. -/

namespace TTLockConnect.Webhook.Resolution

open TTLockConnect.Webhook.Group TTLockConnect.Webhook.Records TTLockConnect.Webhook.Register
open TTLockConnect.Diagnostics.Replies

/-! ### Members -/

/-- The data of a config entry. -/
abbrev Data := AList fun _ : String => JsonValue

/-- A text, and nothing else. -/
def text : JsonValue → Option String
  | .str s => some s
  | _ => none

/-- A config entry of the group; its `CONF_WEBHOOK_ID`, if it has one, is a text. -/
structure Member where
  entryId : ℕ
  data : Data
  id_text : ∀ v ∈ data.lookup "webhook_id", ∃ s, v = .str s

namespace Member
variable (lib : Library)

/-- `data.get(CONF_WEBHOOK_ID)` -/
def webhookId (m : Member) : Option String := (m.data.lookup "webhook_id").bind text

/-- `data.get(CONF_WEBHOOK_URL)` -/
def webhookUrl (m : Member) : Option JsonValue := m.data.lookup "webhook_url"

/-- Whether `data.get(CONF_WEBHOOK_STATUS)` is truthy. -/
def status (m : Member) : Bool := (m.data.lookup "webhook_status").any (truthy lib)

/-- What the choice depends on. -/
def entry (m : Member) : Entry where
  entryId := m.entryId
  webhookId := m.webhookId
  webhookUrl := m.webhookUrl.bind text
  status := m.status lib

end Member

/-! ### The rewriting of a member -/

/-- The id, and without the URL of another one. -/
def takeId (canonical : String) (data : Data) : Data :=
  if (data.lookup "webhook_id").bind text ≠ some canonical then
    (data.insert "webhook_id" (.str canonical)).erase "webhook_url"
  else data

/-- The status, if the group is confirmed. -/
def takeStatus (lib : Library) (confirmed : Bool) (data : Data) : Data :=
  if confirmed ∧ (data.lookup "webhook_status").any (truthy lib) = false then
    data.insert "webhook_status" (.bool true)
  else data

theorem eq_str_of_text {v : JsonValue} {s : String} (h : text v = some s) : v = .str s := by
  cases v with
  | str s' => rw [Option.some.inj h]
  | _ => cases h

theorem bind_text_eq_some {o : Option JsonValue} {s : String} :
    o.bind text = some s ↔ o = some (.str s) := by
  constructor
  · intro h
    obtain ⟨v, rfl, hv⟩ := Option.bind_eq_some_iff.mp h
    rw [eq_str_of_text hv]
  · rintro rfl
    rfl

section Rewriting
variable (lib : Library) (canonical : String) (confirmed : Bool) (data : Data)

variable {canonical data} in
theorem takeId_of_eq (h : (data.lookup "webhook_id").bind text = some canonical) :
    takeId canonical data = data := if_neg (not_not.mpr h)

variable {canonical data} in
theorem takeId_of_ne (h : (data.lookup "webhook_id").bind text ≠ some canonical) :
    takeId canonical data = (data.insert "webhook_id" (.str canonical)).erase "webhook_url" :=
  if_pos h

theorem lookup_takeId_webhookId :
    (takeId canonical data).lookup "webhook_id" = some (.str canonical) := by
  by_cases h : (data.lookup "webhook_id").bind text = some canonical
  · rw [takeId_of_eq h]
    exact bind_text_eq_some.mp h
  · rw [takeId_of_ne h, AList.lookup_erase_ne (by decide), AList.lookup_insert]

theorem lookup_takeId_webhookUrl : (takeId canonical data).lookup "webhook_url" =
    if (data.lookup "webhook_id").bind text = some canonical then data.lookup "webhook_url"
    else none := by
  split_ifs with h
  · rw [takeId_of_eq h]
  · rw [takeId_of_ne h, AList.lookup_erase]

theorem lookup_takeId_of_ne {key : String} (hid : key ≠ "webhook_id") (hurl : key ≠ "webhook_url") :
    (takeId canonical data).lookup key = data.lookup key := by
  by_cases h : (data.lookup "webhook_id").bind text = some canonical
  · rw [takeId_of_eq h]
  · rw [takeId_of_ne h, AList.lookup_erase_ne hurl, AList.lookup_insert_ne hid]

theorem lookup_takeStatus_of_ne {key : String} (h : key ≠ "webhook_status") :
    (takeStatus lib confirmed data).lookup key = data.lookup key := by
  unfold takeStatus
  split_ifs
  · rw [AList.lookup_insert_ne h]
  · rfl

end Rewriting

/-- The member after the loop. -/
def Member.adopt (lib : Library) (canonical : String) (confirmed : Bool) (m : Member) : Member where
  entryId := m.entryId
  data := takeStatus lib confirmed (takeId canonical m.data)
  id_text := by
    rw [lookup_takeStatus_of_ne _ _ _ (by decide), lookup_takeId_webhookId]
    rintro v ⟨⟩
    exact ⟨canonical, rfl⟩

/-! ### `_resolve_group_webhook_id` -/

/-- What it returns, and what it leaves behind. -/
structure Outcome where
  webhookId : String
  confirmed : Bool
  members : List Member
  issue : Option IssueCall

/-- `_resolve_group_webhook_id`, with the URL of an id, if there is any, and a token. -/
def resolveGroup (lib : Library) (clientId : String) (generateUrl : String → Option String)
    (members : List Member) (tokenHex : String) : Outcome :=
  let r := resolveGroupWebhookId (members.map (Member.entry lib)) tokenHex
  { webhookId := r.canonical
    confirmed := r.confirmed
    members := members.map (Member.adopt lib r.canonical r.confirmed)
    issue :=
      if r.ambiguous then
        some (.create ("webhook_consolidation_ambiguous_" ++ clientId)
          (some ((generateUrl r.canonical).getD r.canonical)))
      else none }

/-! ### The choice -/

/-- Some member has this id. -/
def Has (members : List Member) (id : String) : Prop := ∃ m ∈ members, m.webhookId = some id

/-- Some confirmed member has it. -/
def HasConfirmed (lib : Library) (members : List Member) (id : String) : Prop :=
  ∃ m ∈ members, m.status lib = true ∧ m.webhookId = some id

/-- There is one such id, and this is it. -/
def Only (P : String → Prop) (id : String) : Prop := ∀ i, P i ↔ i = id

/-- **The id that is chosen**, and when the choice is a guess. -/
structure Chooses (lib : Library) (members : List Member) (tokenHex : String) (o : Outcome) :
    Prop where
  single : ∀ id, Only (Has members) id → o.webhookId = id
  confirmed : (¬ ∃ id, Only (Has members) id) →
    ∀ id, Only (HasConfirmed lib members) id → o.webhookId = id
  first : (∃ id, Has members id) → (¬ ∃ id, Only (Has members) id) →
    (¬ ∃ id, Only (HasConfirmed lib members) id) →
      ∃ before m after, members = before ++ m :: after ∧ (∀ x ∈ before, x.webhookId = none) ∧
        m.webhookId = some o.webhookId
  fresh : (¬ ∃ id, Has members id) → o.webhookId = tokenHex
  issue : o.issue.isSome ↔ (∃ id, Has members id) ∧ (¬ ∃ id, Only (Has members) id) ∧
    ¬ ∃ id, Only (HasConfirmed lib members) id

theorem eq_singleton_iff {l : List String} (h : l.Nodup) {id : String} :
    l = [id] ↔ ∀ i, i ∈ l ↔ i = id := by
  constructor
  · rintro rfl i
    exact List.mem_singleton
  · intro hmem
    have hperm : l.Perm [id] :=
      (List.perm_ext_iff_of_nodup h (List.nodup_singleton id)).mpr fun i => by
        rw [hmem, List.mem_singleton]
    exact List.perm_singleton.mp hperm

section Choice
variable {lib : Library} {members : List Member} {id : String}

theorem mem_existing_entries : id ∈ existing (members.map (Member.entry lib)) ↔ Has members id := by
  simp [mem_existing, Member.entry, Has]

theorem mem_confirmedIds_entries :
    id ∈ confirmedIds (members.map (Member.entry lib)) ↔ HasConfirmed lib members id := by
  simp [mem_confirmedIds, Member.entry, HasConfirmed]

theorem existing_eq_singleton_iff :
    existing (members.map (Member.entry lib)) = [id] ↔ Only (Has members) id :=
  (eq_singleton_iff (List.nodup_dedup _)).trans
    (forall_congr' fun _ => iff_congr mem_existing_entries Iff.rfl)

theorem confirmedIds_eq_singleton_iff :
    confirmedIds (members.map (Member.entry lib)) = [id] ↔ Only (HasConfirmed lib members) id :=
  (eq_singleton_iff (List.nodup_dedup _)).trans
    (forall_congr' fun _ => iff_congr mem_confirmedIds_entries Iff.rfl)

theorem existing_eq_nil_iff :
    existing (members.map (Member.entry lib)) = [] ↔ ¬ ∃ id, Has members id := by
  rw [List.eq_nil_iff_forall_not_mem, not_exists]
  exact forall_congr' fun _ => not_congr mem_existing_entries

end Choice

/-- The branches of the choice: which id, and whether it is a guess. -/
theorem resolve_branches (members : List Entry) (fresh : String) :
    (existing members = [] → (resolveGroupWebhookId members fresh).canonical = fresh ∧
      (resolveGroupWebhookId members fresh).ambiguous = false) ∧
    (∀ id, existing members = [id] → (resolveGroupWebhookId members fresh).canonical = id ∧
      (resolveGroupWebhookId members fresh).ambiguous = false) ∧
    (existing members ≠ [] → (∀ id, existing members ≠ [id]) →
      (∀ id, confirmedIds members = [id] → (resolveGroupWebhookId members fresh).canonical = id ∧
        (resolveGroupWebhookId members fresh).ambiguous = false) ∧
      ((∀ id, confirmedIds members ≠ [id]) → (resolveGroupWebhookId members fresh).canonical =
          (members.filterMap Entry.webhookId).headD fresh ∧
        (resolveGroupWebhookId members fresh).ambiguous = true)) := by
  unfold resolveGroupWebhookId
  rcases hex : existing members with _ | ⟨a, _ | ⟨b, ids⟩⟩
  · exact ⟨fun _ => ⟨rfl, rfl⟩, nofun, fun h => absurd rfl h⟩
  · refine ⟨nofun, ?_, fun _ h => absurd rfl (h a)⟩
    rintro id ⟨⟩
    exact ⟨rfl, rfl⟩
  · refine ⟨nofun, nofun, fun _ _ => ?_⟩
    rcases hc : confirmedIds members with _ | ⟨c, _ | ⟨c', cs⟩⟩
    · exact ⟨nofun, fun _ => ⟨rfl, rfl⟩⟩
    · refine ⟨?_, fun h => absurd rfl (h c)⟩
      rintro id ⟨⟩
      exact ⟨rfl, rfl⟩
    · exact ⟨nofun, fun _ => ⟨rfl, rfl⟩⟩

section Resolve
variable (lib : Library) (clientId : String) (generateUrl : String → Option String)
  (members : List Member) (tokenHex : String)

theorem issue_isSome : (resolveGroup lib clientId generateUrl members tokenHex).issue.isSome =
    (resolveGroupWebhookId (members.map (Member.entry lib)) tokenHex).ambiguous := by
  unfold resolveGroup
  dsimp only
  split_ifs with h
  · rw [h]
    rfl
  · rw [Bool.eq_false_iff.mpr h]
    rfl

variable {lib members} in
theorem HasConfirmed.has {id : String} (h : HasConfirmed lib members id) : Has members id := by
  obtain ⟨m, hm, -, hid⟩ := h
  exact ⟨m, hm, hid⟩

/-- Of several ids, none of them or more than one confirmed, the first is taken, as a guess. -/
theorem resolve_guess (hhas : ∃ id, Has members id) (hmany : ¬ ∃ id, Only (Has members) id)
    (hconfirmed : ¬ ∃ id, Only (HasConfirmed lib members) id) :
    (∃ before m after, members = before ++ m :: after ∧ (∀ x ∈ before, x.webhookId = none) ∧
      m.webhookId =
        some (resolveGroupWebhookId (members.map (Member.entry lib)) tokenHex).canonical) ∧
    (resolveGroupWebhookId (members.map (Member.entry lib)) tokenHex).ambiguous = true := by
  obtain ⟨-, -, hbranch⟩ := resolve_branches (members.map (Member.entry lib)) tokenHex
  have hne : existing (members.map (Member.entry lib)) ≠ [] := fun h =>
    existing_eq_nil_iff.mp h hhas
  obtain ⟨-, hfirst⟩ := hbranch hne fun id h => hmany ⟨id, existing_eq_singleton_iff.mp h⟩
  obtain ⟨hcanonical, hambiguous⟩ := hfirst fun id h =>
    hconfirmed ⟨id, confirmedIds_eq_singleton_iff.mp h⟩
  refine ⟨?_, hambiguous⟩
  rw [hcanonical, List.filterMap_map]
  cases hids : members.filterMap (Entry.webhookId ∘ Member.entry lib) with
  | nil =>
    obtain ⟨id, m, hm, hid⟩ := hhas
    have hmem : id ∈ members.filterMap (Entry.webhookId ∘ Member.entry lib) :=
      List.mem_filterMap.mpr ⟨m, hm, hid⟩
    rw [hids] at hmem
    cases hmem
  | cons id ids =>
    obtain ⟨before, m, after, hsplit, hbefore, hm, -⟩ := List.filterMap_eq_cons_iff.mp hids
    exact ⟨before, m, after, hsplit, hbefore, hm⟩

/-- **The choice is the one that is wanted.** -/
theorem resolveGroup_chooses :
    Chooses lib members tokenHex (resolveGroup lib clientId generateUrl members tokenHex) := by
  obtain ⟨hnone, hsingle, hbranch⟩ := resolve_branches (members.map (Member.entry lib)) tokenHex
  have hconfirmed : (¬ ∃ id, Only (Has members) id) → ∀ id, Only (HasConfirmed lib members) id →
      (resolveGroupWebhookId (members.map (Member.entry lib)) tokenHex).canonical = id ∧
        (resolveGroupWebhookId (members.map (Member.entry lib)) tokenHex).ambiguous = false := by
    intro hmany id hid
    have hne : existing (members.map (Member.entry lib)) ≠ [] := fun h =>
      existing_eq_nil_iff.mp h ⟨id, ((hid id).mpr rfl).has⟩
    exact (hbranch hne fun i h => hmany ⟨i, existing_eq_singleton_iff.mp h⟩).1 id
      (confirmedIds_eq_singleton_iff.mpr hid)
  refine ⟨fun id h => (hsingle id (existing_eq_singleton_iff.mpr h)).1,
    fun hmany id hid => (hconfirmed hmany id hid).1,
    fun hhas hmany hguess => (resolve_guess lib members tokenHex hhas hmany hguess).1,
    fun h => (hnone (existing_eq_nil_iff.mpr h)).1, ?_⟩
  rw [issue_isSome]
  constructor
  · intro hambiguous
    have hmany : ¬ ∃ id, Only (Has members) id := by
      rintro ⟨id, h⟩
      rw [(hsingle id (existing_eq_singleton_iff.mpr h)).2] at hambiguous
      cases hambiguous
    refine ⟨?_, hmany, ?_⟩
    · by_contra h
      rw [(hnone (existing_eq_nil_iff.mpr h)).2] at hambiguous
      cases hambiguous
    · rintro ⟨id, h⟩
      rw [(hconfirmed hmany id h).2] at hambiguous
      cases hambiguous
  · rintro ⟨hhas, hmany, hguess⟩
    exact (resolve_guess lib members tokenHex hhas hmany hguess).2

end Resolve

/-! ### What becomes of the members -/

/-- A member that has taken over the id. -/
structure Takes (id : String) (m m' : Member) : Prop where
  entryId : m'.entryId = m.entryId
  webhookId : m'.webhookId = some id
  /-- A URL is kept exactly if the id has not changed. -/
  url : ∀ u, m.webhookUrl = some u → (m'.webhookUrl = some u ↔ m'.webhookId = m.webhookId)
  noUrl : m.webhookUrl = none → m'.webhookUrl = none
  others : ∀ key, key ≠ "webhook_id" → key ≠ "webhook_url" → key ≠ "webhook_status" →
    m'.data.lookup key = m.data.lookup key

/-- A member whose id and URL are what they were. -/
structure Keeps (m m' : Member) : Prop where
  webhookId : m'.webhookId = m.webhookId
  url : m'.webhookUrl = m.webhookUrl

section Adopt
variable (lib : Library) (canonical : String) (confirmed : Bool) (m : Member)

theorem webhookId_adopt : (m.adopt lib canonical confirmed).webhookId = some canonical := by
  rw [Member.webhookId, Member.adopt]
  dsimp only
  rw [lookup_takeStatus_of_ne _ _ _ (by decide), lookup_takeId_webhookId]
  rfl

theorem webhookUrl_adopt : (m.adopt lib canonical confirmed).webhookUrl =
    if m.webhookId = some canonical then m.webhookUrl else none := by
  rw [Member.webhookUrl, Member.adopt]
  dsimp only
  rw [lookup_takeStatus_of_ne _ _ _ (by decide), lookup_takeId_webhookUrl]
  rfl

theorem takes_adopt : Takes canonical m (m.adopt lib canonical confirmed) where
  entryId := rfl
  webhookId := webhookId_adopt ..
  url := by
    intro u hu
    rw [webhookUrl_adopt, webhookId_adopt, hu]
    split_ifs with h
    · exact iff_of_true rfl h.symm
    · exact iff_of_false nofun fun h' => h h'.symm
  noUrl := by
    intro hu
    rw [webhookUrl_adopt, hu, ite_self]
  others := by
    intro key hid hurl hstatus
    rw [Member.adopt]
    dsimp only
    rw [lookup_takeStatus_of_ne _ _ _ hstatus, lookup_takeId_of_ne _ _ hid hurl]

theorem status_adopt : (m.adopt lib canonical confirmed).status lib = (m.status lib || confirmed) := by
  have hstatus : (takeId canonical m.data).lookup "webhook_status" = m.data.lookup "webhook_status" :=
    lookup_takeId_of_ne _ _ (by decide) (by decide)
  rw [Member.status, Member.adopt]
  dsimp only
  unfold takeStatus
  split_ifs with h
  · rw [AList.lookup_insert, h.1, Bool.or_true]
    rfl
  · rw [hstatus, Member.status]
    cases confirmed with
    | false => rw [Bool.or_false]
    | true =>
      rw [hstatus, and_iff_right rfl, Bool.not_eq_false] at h
      rw [h, Bool.true_or]

/-- **Through the three keys**, a member takes over what an entry of the abstract group does. -/
theorem entry_adopt : (m.adopt lib canonical confirmed).entry lib =
    (m.entry lib).adopt canonical confirmed := by
  have hurl : (m.adopt lib canonical confirmed).webhookUrl.bind text =
      if m.webhookId = some canonical then m.webhookUrl.bind text else none := by
    rw [webhookUrl_adopt]
    split_ifs <;> rfl
  rw [Member.entry, webhookId_adopt, hurl, status_adopt]
  rfl

variable {canonical m} in
theorem keeps_adopt (h : m.webhookId = some canonical) : Keeps m (m.adopt lib canonical confirmed) where
  webhookId := by rw [webhookId_adopt, h]
  url := by rw [webhookUrl_adopt, if_pos h]

end Adopt

/-- **A group is reconciled**: the choice, the members after it, and a second run. -/
structure Reconciles (lib : Library) (clientId : String) (generateUrl : String → Option String)
    (members : List Member) (tokenHex : String) : Prop where
  chooses : Chooses lib members tokenHex (resolveGroup lib clientId generateUrl members tokenHex)
  takes : List.Forall₂ (Takes (resolveGroup lib clientId generateUrl members tokenHex).webhookId)
    members (resolveGroup lib clientId generateUrl members tokenHex).members
  again : ∀ tokenHex',
    (resolveGroup lib clientId generateUrl
      (resolveGroup lib clientId generateUrl members tokenHex).members tokenHex').webhookId =
        (resolveGroup lib clientId generateUrl members tokenHex).webhookId ∧
    List.Forall₂ Keeps (resolveGroup lib clientId generateUrl members tokenHex).members
      (resolveGroup lib clientId generateUrl
        (resolveGroup lib clientId generateUrl members tokenHex).members tokenHex').members

theorem forall₂_map_of_forall {α β : Type} {R : α → β → Prop} {f : α → β} {l : List α}
    (h : ∀ a ∈ l, R a (f a)) : List.Forall₂ R l (l.map f) :=
  List.forall₂_map_right_iff.mpr (List.forall₂_same.mpr h)

/-- **The members after it, through the three keys**: those of the abstract group after its choice. -/
theorem resolveGroup_entries (lib : Library) (clientId : String)
    (generateUrl : String → Option String) (members : List Member) (tokenHex : String) :
    (resolveGroup lib clientId generateUrl members tokenHex).members.map (Member.entry lib) =
      (members.map (Member.entry lib)).map fun e =>
        e.adopt (resolveGroup lib clientId generateUrl members tokenHex).webhookId
          (resolveGroup lib clientId generateUrl members tokenHex).confirmed := by
  rw [resolveGroup]
  dsimp only
  rw [List.map_map, List.map_map]
  exact List.map_congr_left fun m _ => entry_adopt ..

/-- **Every group is reconciled**; the entry of the handler is one of its members. -/
theorem resolveGroup_reconciles (lib : Library) (clientId : String)
    (generateUrl : String → Option String) {members : List Member} (tokenHex : String)
    {self : Member} (hself : self ∈ members) :
    Reconciles lib clientId generateUrl members tokenHex := by
  refine ⟨resolveGroup_chooses .., forall₂_map_of_forall fun m _ => takes_adopt .., ?_⟩
  intro tokenHex'
  set o := resolveGroup lib clientId generateUrl members tokenHex with ho
  have hids : ∀ m ∈ o.members, m.webhookId = some o.webhookId := by
    intro m hm
    obtain ⟨m₀, -, rfl⟩ := List.mem_map.mp hm
    exact webhookId_adopt ..
  have honly : Only (Has o.members) o.webhookId := by
    intro id
    constructor
    · rintro ⟨m, hm, hid⟩
      rw [hids m hm] at hid
      exact (Option.some.inj hid).symm
    · rintro rfl
      exact ⟨_, List.mem_map_of_mem hself, webhookId_adopt ..⟩
  have hagain := (resolveGroup_chooses lib clientId generateUrl o.members tokenHex').single _ honly
  refine ⟨hagain, forall₂_map_of_forall fun m hm => keeps_adopt lib _ ?_⟩
  exact (hids m hm).trans (congrArg some hagain.symm)

/-! ### Two stale entries -/

/-- An entry that has these texts, and a region. -/
def staleEntry (entryId : ℕ) (webhookId webhookUrl : String) : Member where
  entryId := entryId
  data := ((∅ : Data).insert "webhook_id" (.str webhookId)).insert "webhook_url" (.str webhookUrl)
  id_text := by
    rw [AList.lookup_insert_ne (by decide), AList.lookup_insert]
    rintro v ⟨⟩
    exact ⟨webhookId, rfl⟩

/-- Two entries that disagree, none of them confirmed. -/
theorem staleEntries_reconciled : Reconciles sampleLibrary "client-id" some
    [staleEntry 1 "wh-a" "https://a", staleEntry 2 "wh-b" "https://b"] "wh-c" :=
  resolveGroup_reconciles sampleLibrary "client-id" some "wh-c" List.mem_cons_self

end TTLockConnect.Webhook.Resolution
