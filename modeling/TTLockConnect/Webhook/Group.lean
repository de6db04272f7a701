import Mathlib.Data.Int.Notation
import Mathlib.Data.List.Dedup

/-! # The group that shares a webhook

The config entries of one developer application share one webhook: the part of their data that is
about it, the group they join at runtime, and the functions of `WebhookHandler` that bring the two in
line. -/

namespace TTLockConnect.Webhook.Group

/-- A config entry, with what its data have under `CONF_WEBHOOK_ID`, `CONF_WEBHOOK_URL` and
`CONF_WEBHOOK_STATUS`; the status is there exactly if it is true. -/
structure Entry where
  entryId : ℕ
  webhookId : Option String := none
  webhookUrl : Option String := none
  status : Bool := false
  deriving DecidableEq, Repr

/-- `_WebhookGroup`. -/
structure WebhookGroup where
  webhookId : String
  refcount : ℤ := 0
  registered : Bool := false
  confirmed : Bool := false
  issueRaised : Bool := false
  deriving DecidableEq, Repr

/-- The entry takes over an id, losing the URL of another one, and is confirmed if the group is. -/
def Entry.adopt (e : Entry) (webhookId : String) (confirmed : Bool) : Entry where
  entryId := e.entryId
  webhookId := some webhookId
  webhookUrl := if e.webhookId = some webhookId then e.webhookUrl else none
  status := e.status || confirmed

/-- The id of a confirmed entry. -/
def Entry.confirmedId (e : Entry) : Option String := if e.status then e.webhookId else none

/-- `existing`. -/
def existing (members : List Entry) : List String := (members.filterMap Entry.webhookId).dedup

/-- `confirmed_ids`. -/
def confirmedIds (members : List Entry) : List String := (members.filterMap Entry.confirmedId).dedup

/-- The choice of `_resolve_group_webhook_id`: the id, whether the group is confirmed, and whether
the id is a guess. -/
structure Resolution where
  canonical : String
  confirmed : Bool
  ambiguous : Bool
  deriving DecidableEq, Repr

/-- `_resolve_group_webhook_id`, `fresh` being what `secrets.token_hex` returns. -/
def resolveGroupWebhookId (members : List Entry) (fresh : String) : Resolution :=
  let (canonical, ambiguous) := match existing members with
    | [] => (fresh, false)
    | [id] => (id, false)
    | _ =>
      match confirmedIds members with
      | [id] => (id, false)
      | _ => ((members.filterMap Entry.webhookId).headD fresh, true)
  ⟨canonical, !ambiguous && (confirmedIds members).contains canonical, ambiguous⟩

/-- `_sync_entry_to_group`. -/
def syncEntryToGroup (group : WebhookGroup) (e : Entry) : Entry :=
  e.adopt group.webhookId group.confirmed

/-- `async_resolve_setup_issue`, on the entries: those with this id are confirmed. -/
def resolveSetupIssue (webhookId : Option String) (entries : List Entry) : List Entry :=
  entries.map fun e => if e.webhookId = webhookId then { e with status := true } else e

/-! ### The choice of the id -/

theorem mem_existing {members : List Entry} {id : String} :
    id ∈ existing members ↔ ∃ e ∈ members, e.webhookId = some id := by
  rw [existing, List.mem_dedup, List.mem_filterMap]

theorem mem_confirmedIds {members : List Entry} {id : String} :
    id ∈ confirmedIds members ↔ ∃ e ∈ members, e.status = true ∧ e.webhookId = some id := by
  rw [confirmedIds, List.mem_dedup, List.mem_filterMap]
  refine exists_congr fun e => and_congr_right fun _ => ?_
  unfold Entry.confirmedId
  cases e.status with
  | true => simp
  | false => simp

theorem confirmedIds_subset {members : List Entry} {id : String} (h : id ∈ confirmedIds members) :
    id ∈ existing members := by
  obtain ⟨e, he, -, hid⟩ := mem_confirmedIds.mp h
  exact mem_existing.mpr ⟨e, he, hid⟩

/-- **How the id is chosen**: a fresh one, the only one, the only confirmed one, or the first. -/
theorem resolve_cases (members : List Entry) (fresh : String) :
    (existing members = [] ∧ resolveGroupWebhookId members fresh = ⟨fresh, false, false⟩) ∨
    (∃ id, existing members = [id] ∧
      resolveGroupWebhookId members fresh = ⟨id, (confirmedIds members).contains id, false⟩) ∨
    (∃ id, confirmedIds members = [id] ∧
      resolveGroupWebhookId members fresh = ⟨id, true, false⟩) ∨
    ∃ id, id ∈ existing members ∧ (∀ id', confirmedIds members ≠ [id']) ∧
      resolveGroupWebhookId members fresh = ⟨id, false, true⟩ := by
  unfold resolveGroupWebhookId
  cases hex : existing members with
  | nil =>
    have hc : confirmedIds members = [] := by
      rw [List.eq_nil_iff_forall_not_mem]
      intro id hid
      have hmem := confirmedIds_subset hid
      rw [hex] at hmem
      cases hmem
    refine .inl ⟨rfl, ?_⟩
    simp [hc]
  | cons id rest =>
    cases rest with
    | nil => exact .inr (.inl ⟨id, rfl, rfl⟩)
    | cons id' rest =>
      by_cases hc : ∃ c, confirmedIds members = [c]
      · obtain ⟨c, hc⟩ := hc
        refine .inr (.inr (.inl ⟨c, hc, ?_⟩))
        simp [hc]
      · have hne : ∀ c, confirmedIds members ≠ [c] := fun c h => hc ⟨c, h⟩
        have hfirst : (members.filterMap Entry.webhookId).headD fresh ∈ existing members := by
          rw [existing, List.mem_dedup]
          cases hids : members.filterMap Entry.webhookId with
          | nil => rw [existing, hids] at hex; cases hex
          | cons a as => exact List.mem_cons_self
        rw [hex] at hfirst
        refine .inr (.inr (.inr ⟨_, hfirst, hne, ?_⟩))
        rcases hc : confirmedIds members with _ | ⟨c, _ | ⟨c', cs⟩⟩
        · rfl
        · exact absurd hc (hne c)
        · rfl

end TTLockConnect.Webhook.Group
