import TTLockConnect.Async.Runs
import TTLockConnect.Webhook.Group
import Mathlib.Data.List.Perm.Basic
import Mathlib.Tactic.SplitIfs

/-! # How long the shared webhook lives

The entries of one `client_id` through setups, unloads and reloads, and the start and stop of Home
Assistant. A setup joins the group at once, or through a listener for the start; joining adds a
listener for the stop, and only that one leaves the group again. So the count of the group is the
number of joined entries as long as none of them is unloaded or reloaded. -/

namespace TTLockConnect.Webhook.Lifetime

open TTLockConnect.Async.Runs TTLockConnect.Webhook.Group

/-! ### Home Assistant and its steps -/

/-- `CoreState`, as far as the code asks for it. -/
inductive Phase where
  | starting
  | running
  | stopped
  deriving DecidableEq, Repr

/-- Home Assistant, as seen by the entries of one `client_id`. -/
structure Home where
  phase : Phase
  /-- The entries that are loaded. -/
  loaded : List ℕ
  /-- The loaded entries whose handler has joined the group. -/
  joined : List ℕ
  /-- The handlers that listen for the start, by their entries. -/
  onStarted : List ℕ
  /-- The handlers that listen for the stop, by their entries. -/
  onStop : List ℕ
  group : Option WebhookGroup
  /-- The group's id is registered with Home Assistant. An entry that has joined stores that id. -/
  hook : Bool
  deriving DecidableEq, Repr

/-- What happens next; `urls` are the entries for which a URL is found. -/
inductive HomeLabel where
  | setup (entryId : ℕ) (url : Bool)
  | unload (entryId : ℕ)
  | reload (entryId : ℕ) (url : Bool)
  | started (urls : List ℕ)
  | stop
  | boot
  deriving DecidableEq, Repr

namespace Home

/-- The group, resolved if there is none. -/
def theGroup (s : Home) : WebhookGroup := s.group.getD { webhookId := "" }

/-- `register_webhook`. -/
def registerWebhook (s : Home) (entryId : ℕ) (url : Bool) : Home :=
  let group := { s.theGroup with refcount := s.theGroup.refcount + 1 }
  { s with
    joined := if entryId ∈ s.loaded then s.joined.insert entryId else s.joined
    onStop := s.onStop ++ [entryId]
    group := some { group with registered := group.registered || url }
    hook := if url ∧ ¬ group.registered then true else s.hook }

/-- `unregister_webhook`. -/
def unregisterWebhook (s : Home) : Home :=
  match s.group with
  | some group =>
    let group := { group with refcount := group.refcount - 1 }
    if group.refcount ≤ 0 then { s with group := none, hook := false }
    else { s with group := some group }
  | none => { s with hook := false }

/-- `async_setup_entry`, up to its webhook. -/
def setupEntry (s : Home) (entryId : ℕ) (url : Bool) : Home :=
  let s := { s with loaded := s.loaded ++ [entryId] }
  match s.phase with
  | .running => s.registerWebhook entryId url
  | _ => { s with onStarted := s.onStarted ++ [entryId] }

/-- `async_unload_entry`, which knows nothing of the webhook. -/
def unloadEntry (s : Home) (entryId : ℕ) : Home :=
  { s with loaded := s.loaded.erase entryId, joined := s.joined.erase entryId }

/-- Home Assistant has started: the handlers that listen for it join. -/
def start (s : Home) (urls : List ℕ) : Home :=
  s.onStarted.foldl (fun s entryId => s.registerWebhook entryId (urls.contains entryId))
    { s with phase := .running, onStarted := [] }

/-- Home Assistant stops: the handlers that listen for it leave, and the entries are gone. -/
def stop (s : Home) : Home :=
  s.onStop.foldl (fun s _ => s.unregisterWebhook)
    { s with phase := .stopped, loaded := [], joined := [], onStarted := [], onStop := [] }

/-- Home Assistant before any entry is set up. -/
def booting : Home := ⟨.starting, [], [], [], [], none, false⟩

/-- One step. -/
def step (s : Home) : HomeLabel → Option Home
  | .setup entryId url =>
    if s.phase ≠ .stopped ∧ entryId ∉ s.loaded then some (s.setupEntry entryId url) else none
  | .unload entryId => if entryId ∈ s.loaded then some (s.unloadEntry entryId) else none
  | .reload entryId url =>
    if entryId ∈ s.loaded then some ((s.unloadEntry entryId).setupEntry entryId url) else none
  | .started urls => if s.phase = .starting then some (s.start urls) else none
  | .stop => if s.phase ≠ .stopped then some s.stop else none
  | .boot => if s.phase = .stopped then some booting else none

/-- The group's refcount, 0 without a group. -/
def refcount (s : Home) : ℤ := (s.group.map WebhookGroup.refcount).getD 0

end Home

/-- **The webhook lives as long as its group**: the refcount is the number of loaded entries that have
joined, and the id is registered only while that is positive. -/
structure LivesWithGroup (s : Home) : Prop where
  refcount : s.refcount = s.joined.length
  hook : s.hook = true → 0 < s.joined.length

/-- A handler that finds a URL joins the group in this step. -/
def FindsUrl (s : Home) : HomeLabel → Prop
  | .setup _ url | .reload _ url => s.phase = .running ∧ url = true
  | .started urls => ∃ i ∈ s.onStarted, i ∈ urls
  | _ => False

/-- **The first member that finds a URL registers the id**: it is registered as soon as a handler that
finds one has joined, by no other step, and for as long as there are members. -/
structure RegisteredByFirst (m : Move Home HomeLabel) : Prop where
  registered : FindsUrl m.src m.label → m.dst.hook = true
  byMember : m.dst.hook = true → m.src.hook = true ∨ FindsUrl m.src m.label
  stays : m.src.hook = true → 0 < m.dst.joined.length → m.dst.hook = true

/-- What a step has to meet: no entry that has joined is unloaded or reloaded, and when Home Assistant
has started, as many handlers listen for it as there are entries. -/
def Allowed (s : Home) : HomeLabel → Prop
  | .unload entryId => entryId ∉ s.joined
  | .reload entryId _ => entryId ∉ s.joined
  | .started _ => s.onStarted.length = s.loaded.length
  | _ => True

/-! ### Joining and leaving -/

/-- The group counts the handlers that will leave it. -/
structure Counted (s : Home) : Prop where
  refcount : s.refcount = s.onStop.length
  absent : s.group = none → s.onStop = [] ∧ s.hook = false
  present : s.group ≠ none → s.onStop ≠ []
  registered : s.hook = s.theGroup.registered

variable {s s' : Home} {l : HomeLabel}

theorem refcount_registerWebhook (s : Home) (entryId : ℕ) (url : Bool) :
    (s.registerWebhook entryId url).refcount = s.refcount + 1 := by
  unfold Home.refcount Home.registerWebhook Home.theGroup
  cases s.group with
  | none => rfl
  | some g => rfl

theorem hook_registerWebhook (hc : Counted s) (entryId : ℕ) (url : Bool) :
    (s.registerWebhook entryId url).hook = (s.hook || url) := by
  unfold Home.registerWebhook
  dsimp only
  rw [hc.registered]
  cases url <;> cases s.theGroup.registered <;> rfl

theorem counted_registerWebhook (hc : Counted s) (entryId : ℕ) (url : Bool) :
    Counted (s.registerWebhook entryId url) := by
  refine ⟨?_, nofun, fun _ => List.concat_ne_nil _ _, ?_⟩
  · have hlen : (s.registerWebhook entryId url).onStop.length = s.onStop.length + 1 := by
      simp [Home.registerWebhook]
    rw [refcount_registerWebhook, hlen, hc.refcount]
    omega
  · rw [hook_registerWebhook hc, hc.registered]
    rfl

/-- What a row of handlers that join leaves. -/
structure Joined (s : Home) (entryIds : List ℕ) (s' : Home) : Prop where
  phase : s'.phase = s.phase
  loaded : s'.loaded = s.loaded
  onStarted : s'.onStarted = s.onStarted
  counted : Counted s → Counted s'
  refcount : s'.refcount = s.refcount + entryIds.length
  nodup : s.joined.Nodup → s'.joined.Nodup
  mem : ∀ i, i ∈ s'.joined ↔ i ∈ s.joined ∨ i ∈ entryIds ∧ i ∈ s.loaded

theorem joined_registerWebhook (s : Home) (entryId : ℕ) (url : Bool) :
    Joined s [entryId] (s.registerWebhook entryId url) where
  phase := rfl
  loaded := rfl
  onStarted := rfl
  counted := fun hc => counted_registerWebhook hc entryId url
  refcount := refcount_registerWebhook s entryId url
  nodup := by
    intro hn
    unfold Home.registerWebhook
    dsimp only
    split_ifs
    · exact hn.insert
    · exact hn
  mem := by
    intro i
    unfold Home.registerWebhook
    dsimp only
    rw [List.mem_singleton]
    split_ifs with hl
    · rw [List.mem_insert_iff]
      constructor
      · rintro (rfl | h)
        · exact .inr ⟨rfl, hl⟩
        · exact .inl h
      · rintro (h | ⟨rfl, -⟩)
        · exact .inr h
        · exact .inl rfl
    · refine ⟨.inl, ?_⟩
      rintro (h | ⟨rfl, h⟩)
      · exact h
      · exact absurd h hl

theorem joined_foldl (urls entryIds : List ℕ) (s : Home) : Joined s entryIds
    (entryIds.foldl (fun s i => s.registerWebhook i (urls.contains i)) s) := by
  induction entryIds generalizing s with
  | nil =>
    refine ⟨rfl, rfl, rfl, id, ?_, id, fun i => ?_⟩
    · simp
    · simp
  | cons j entryIds ih =>
    have h1 := joined_registerWebhook s j (urls.contains j)
    have h2 := ih (s.registerWebhook j (urls.contains j))
    rw [List.foldl_cons]
    refine ⟨h2.phase.trans h1.phase, h2.loaded.trans h1.loaded, h2.onStarted.trans h1.onStarted,
      fun hc => h2.counted (h1.counted hc), ?_, fun hn => h2.nodup (h1.nodup hn), fun i => ?_⟩
    · rw [h2.refcount, h1.refcount]
      simp only [List.length_cons, List.length_nil]
      push_cast
      omega
    · rw [h2.mem, h1.mem, h1.loaded, List.mem_singleton, List.mem_cons, or_assoc, ← or_and_right]

theorem hook_foldl (hc : Counted s) (urls entryIds : List ℕ) :
    (entryIds.foldl (fun s i => s.registerWebhook i (urls.contains i)) s).hook =
      (s.hook || entryIds.any urls.contains) := by
  induction entryIds generalizing s with
  | nil => exact (Bool.or_false s.hook).symm
  | cons j entryIds ih =>
    rw [List.foldl_cons, ih (counted_registerWebhook hc j _), hook_registerWebhook hc, List.any_cons,
      Bool.or_assoc]

/-- Once all have left, the group is gone and nothing is registered. -/
theorem gone_foldl (entryIds : List ℕ) (s : Home)
    (h : s.group = none ∧ s.hook = false ∨
      s.group ≠ none ∧ entryIds ≠ [] ∧ s.refcount = entryIds.length) :
    (entryIds.foldl (fun s _ => s.unregisterWebhook) s).group = none ∧
      (entryIds.foldl (fun s _ => s.unregisterWebhook) s).hook = false := by
  induction entryIds generalizing s with
  | nil =>
    rcases h with h | ⟨-, h, -⟩
    · exact h
    · exact absurd rfl h
  | cons j entryIds ih =>
    rw [List.foldl_cons]
    refine ih _ ?_
    rcases h with ⟨hg, hh⟩ | ⟨hg, -, hr⟩
    · left
      simp [Home.unregisterWebhook, hg]
    · obtain ⟨g, hg⟩ := Option.ne_none_iff_exists'.mp hg
      have hcount : g.refcount = entryIds.length + 1 := by
        rw [Home.refcount, hg, List.length_cons] at hr
        simpa using hr
      simp only [Home.unregisterWebhook, hg]
      by_cases hle : g.refcount - 1 ≤ 0
      · rw [if_pos hle]
        exact .inl ⟨rfl, rfl⟩
      · rw [if_neg hle]
        refine .inr ⟨nofun, fun hnil => hle ?_, ?_⟩
        · rw [hcount, hnil]
          simp
        · simp only [Home.refcount, Option.map_some, Option.getD_some]
          omega

/-! ### The invariant -/

/-- What holds in every state, whether the group is well or not. -/
structure Inv (s : Home) : Prop where
  counted : Counted s
  loaded : s.loaded.Nodup
  joined : s.joined.Nodup
  subset : ∀ i ∈ s.joined, i ∈ s.loaded
  starting : s.phase = .starting → s.group = none ∧ s.joined = [] ∧ ∀ i ∈ s.loaded, i ∈ s.onStarted
  running : s.phase = .running → ∀ i ∈ s.loaded, i ∈ s.joined
  stopped : s.phase = .stopped → s.joined = [] ∧ s.loaded = [] ∧ s.group = none

theorem booting_inv : Inv .booting := by
  refine ⟨⟨rfl, fun _ => ⟨rfl, rfl⟩, fun h => absurd rfl h, rfl⟩, .nil, .nil, nofun,
    fun _ => ⟨rfl, rfl, nofun⟩, nofun, nofun⟩

theorem length_erase_of_mem {i : ℕ} {l : List ℕ} (h : i ∈ l) :
    (l.erase i).length + 1 = l.length := by
  rw [List.length_erase_of_mem h]
  have := List.length_pos_of_mem h
  omega

theorem inv_unloadEntry (hi : Inv s) (i : ℕ) : Inv (s.unloadEntry i) where
  counted := ⟨hi.counted.refcount, hi.counted.absent, hi.counted.present,
    hi.counted.registered⟩
  loaded := hi.loaded.erase i
  joined := hi.joined.erase i
  subset := by
    intro j hj
    obtain ⟨hne, hj⟩ := (hi.joined.mem_erase_iff).mp hj
    exact (hi.loaded.mem_erase_iff).mpr ⟨hne, hi.subset j hj⟩
  starting := by
    intro hp
    obtain ⟨hg, hj, hl⟩ := hi.starting hp
    refine ⟨hg, ?_, fun j hj => hl j (List.mem_of_mem_erase hj)⟩
    change s.joined.erase i = []
    rw [hj]
    rfl
  running := by
    intro hp j hj
    obtain ⟨hne, hj⟩ := (hi.loaded.mem_erase_iff).mp hj
    exact (hi.joined.mem_erase_iff).mpr ⟨hne, hi.running hp j hj⟩
  stopped := by
    intro hp
    obtain ⟨hj, hl, hg⟩ := hi.stopped hp
    refine ⟨?_, ?_, hg⟩
    · change s.joined.erase i = []
      rw [hj]
      rfl
    · change s.loaded.erase i = []
      rw [hl]
      rfl

theorem nodup_snoc {i : ℕ} {l : List ℕ} (hl : l.Nodup) (hi : i ∉ l) : (l ++ [i]).Nodup := by
  rw [List.nodup_append]
  refine ⟨hl, List.nodup_singleton i, ?_⟩
  intro a ha b hb heq
  rw [List.mem_singleton] at hb
  exact hi (hb ▸ heq ▸ ha)

theorem setupEntry_running (h : s.phase = .running) (i : ℕ) (url : Bool) : s.setupEntry i url =
    ({ s with loaded := s.loaded ++ [i] } : Home).registerWebhook i url := by
  rw [Home.setupEntry]
  dsimp only
  rw [h]

theorem setupEntry_starting (h : s.phase = .starting) (i : ℕ) (url : Bool) : s.setupEntry i url =
    { s with loaded := s.loaded ++ [i], onStarted := s.onStarted ++ [i] } := by
  rw [Home.setupEntry]
  dsimp only
  rw [h]

theorem inv_setupEntry (hi : Inv s) (hp : s.phase ≠ .stopped) {i : ℕ} (hl : i ∉ s.loaded)
    (url : Bool) : Inv (s.setupEntry i url) := by
  cases hph : s.phase with
  | stopped => exact absurd hph hp
  | starting =>
    obtain ⟨hg, hj, hw⟩ := hi.starting hph
    rw [setupEntry_starting hph]
    refine ⟨⟨hi.counted.refcount, hi.counted.absent, hi.counted.present,
    hi.counted.registered⟩,
      nodup_snoc hi.loaded hl, hi.joined, ?_, ?_, ?_, ?_⟩
    · exact fun j hj => List.mem_append_left _ (hi.subset j hj)
    · refine fun _ => ⟨hg, hj, fun j hj => ?_⟩
      rcases List.mem_append.mp hj with hj | hj
      · exact List.mem_append_left _ (hw j hj)
      · exact List.mem_append_right _ hj
    · intro h
      exact absurd (hph.symm.trans h) (by decide)
    · intro h
      exact absurd (hph.symm.trans h) (by decide)
  | running =>
    have hreg := joined_registerWebhook { s with loaded := s.loaded ++ [i] } i url
    rw [setupEntry_running hph]
    refine ⟨hreg.counted ⟨hi.counted.refcount, hi.counted.absent, hi.counted.present,
    hi.counted.registered⟩,
      nodup_snoc hi.loaded hl, hreg.nodup hi.joined, fun j hj => ?_, ?_, fun _ j hj => ?_, ?_⟩
    · rcases (hreg.mem j).mp hj with hj | ⟨-, hj⟩
      · exact List.mem_append_left _ (hi.subset j hj)
      · exact hj
    · intro h
      exact absurd (hph.symm.trans h) (by decide)
    · rw [hreg.mem]
      rcases List.mem_append.mp hj with hj' | hj'
      · exact .inl (hi.running hph j hj')
      · exact .inr ⟨hj', hj⟩
    · intro h
      exact absurd (hph.symm.trans h) (by decide)

theorem joined_start (s : Home) (urls : List ℕ) :
    Joined { s with phase := .running, onStarted := [] } s.onStarted (s.start urls) :=
  joined_foldl urls s.onStarted _

theorem inv_start (hi : Inv s) (hp : s.phase = .starting) (urls : List ℕ) : Inv (s.start urls) := by
  obtain ⟨hg, hj, hw⟩ := hi.starting hp
  have hst := joined_start s urls
  refine ⟨hst.counted ⟨hi.counted.refcount, hi.counted.absent, hi.counted.present,
    hi.counted.registered⟩, ?_,
    hst.nodup hi.joined, fun j hj' => ?_, ?_, fun _ j hj' => ?_, ?_⟩
  · rw [hst.loaded]
    exact hi.loaded
  · rw [hst.loaded]
    rcases (hst.mem j).mp hj' with h | ⟨-, h⟩
    · exact hi.subset j h
    · exact h
  · intro h
    rw [hst.phase] at h
    cases h
  · rw [hst.loaded] at hj'
    exact (hst.mem j).mpr (.inr ⟨hw j hj', hj'⟩)
  · intro h
    rw [hst.phase] at h
    cases h

/-- What leaving does not touch. -/
theorem foldl_unregisterWebhook (entryIds : List ℕ) (s : Home) :
    (entryIds.foldl (fun s _ => s.unregisterWebhook) s).phase = s.phase ∧
      (entryIds.foldl (fun s _ => s.unregisterWebhook) s).loaded = s.loaded ∧
      (entryIds.foldl (fun s _ => s.unregisterWebhook) s).joined = s.joined ∧
      (entryIds.foldl (fun s _ => s.unregisterWebhook) s).onStop = s.onStop := by
  induction entryIds generalizing s with
  | nil => exact ⟨rfl, rfl, rfl, rfl⟩
  | cons i entryIds ih =>
    have h1 : s.unregisterWebhook.phase = s.phase ∧ s.unregisterWebhook.loaded = s.loaded ∧
        s.unregisterWebhook.joined = s.joined ∧ s.unregisterWebhook.onStop = s.onStop := by
      unfold Home.unregisterWebhook
      split
      · dsimp only
        split_ifs
        · exact ⟨rfl, rfl, rfl, rfl⟩
        · exact ⟨rfl, rfl, rfl, rfl⟩
      · exact ⟨rfl, rfl, rfl, rfl⟩
    obtain ⟨hp, hl, hj, ho⟩ := ih s.unregisterWebhook
    exact ⟨hp.trans h1.1, hl.trans h1.2.1, hj.trans h1.2.2.1, ho.trans h1.2.2.2⟩

/-- Everything is gone when Home Assistant has stopped. -/
theorem stop_gone (hi : Inv s) : s.stop.group = none ∧ s.stop.hook = false ∧ s.stop.joined = [] ∧
    s.stop.loaded = [] ∧ s.stop.onStop = [] ∧ s.stop.phase = .stopped := by
  obtain ⟨hp, hl, hj, ho⟩ := foldl_unregisterWebhook s.onStop
    { s with phase := .stopped, loaded := [], joined := [], onStarted := [], onStop := [] }
  have hgone := gone_foldl s.onStop
    { s with phase := .stopped, loaded := [], joined := [], onStarted := [], onStop := [] } ?_
  · exact ⟨hgone.1, hgone.2, hj, hl, ho, hp⟩
  · by_cases hg : s.group = none
    · exact .inl ⟨hg, (hi.counted.absent hg).2⟩
    · exact .inr ⟨hg, hi.counted.present hg, hi.counted.refcount⟩

theorem inv_stop (hi : Inv s) : Inv s.stop := by
  obtain ⟨hg, hh, hj, hl, ho, hp⟩ := stop_gone hi
  have hr : s.stop.refcount = 0 := by rw [Home.refcount, hg]; rfl
  refine ⟨⟨by rw [hr, ho]; rfl, fun _ => ⟨ho, hh⟩, fun h => absurd hg h,
    by rw [hh, Home.theGroup, hg]; rfl⟩, ?_, ?_, ?_, ?_, ?_,
    fun _ => ⟨hj, hl, hg⟩⟩
  · rw [hl]
    exact List.nodup_nil
  · rw [hj]
    exact List.nodup_nil
  · rw [hj]
    exact nofun
  · intro h
    exact absurd (hp.symm.trans h) (by decide)
  · intro h
    exact absurd (hp.symm.trans h) (by decide)

/-! ### One step -/

/-- What a step can do. -/
theorem step_cases (h : s.step l = some s') :
    (∃ i url, l = .setup i url ∧ s.phase ≠ .stopped ∧ i ∉ s.loaded ∧ s' = s.setupEntry i url) ∨
    (∃ i, l = .unload i ∧ i ∈ s.loaded ∧ s' = s.unloadEntry i) ∨
    (∃ i url, l = .reload i url ∧ i ∈ s.loaded ∧ s' = (s.unloadEntry i).setupEntry i url) ∨
    (∃ urls, l = .started urls ∧ s.phase = .starting ∧ s' = s.start urls) ∨
    (l = .stop ∧ s' = s.stop) ∨ (l = .boot ∧ s' = .booting) := by
  cases l with
  | setup i url =>
    simp only [Home.step] at h
    split_ifs at h with hc
    exact .inl ⟨i, url, rfl, hc.1, hc.2, (Option.some.inj h).symm⟩
  | unload i =>
    simp only [Home.step] at h
    split_ifs at h with hc
    exact .inr (.inl ⟨i, rfl, hc, (Option.some.inj h).symm⟩)
  | reload i url =>
    simp only [Home.step] at h
    split_ifs at h with hc
    exact .inr (.inr (.inl ⟨i, url, rfl, hc, (Option.some.inj h).symm⟩))
  | started urls =>
    simp only [Home.step] at h
    split_ifs at h with hc
    exact .inr (.inr (.inr (.inl ⟨urls, rfl, hc, (Option.some.inj h).symm⟩)))
  | stop =>
    simp only [Home.step] at h
    split_ifs at h with hc
    exact .inr (.inr (.inr (.inr (.inl ⟨rfl, (Option.some.inj h).symm⟩))))
  | boot =>
    simp only [Home.step] at h
    split_ifs at h with hc
    exact .inr (.inr (.inr (.inr (.inr ⟨rfl, (Option.some.inj h).symm⟩))))

/-- An entry that is loaded is not after it has been unloaded. -/
theorem not_mem_unloadEntry (hi : Inv s) (i : ℕ) : i ∉ (s.unloadEntry i).loaded :=
  hi.loaded.not_mem_erase

theorem phase_ne_stopped (hi : Inv s) {i : ℕ} (h : i ∈ s.loaded) : s.phase ≠ .stopped := by
  intro hp
  rw [(hi.stopped hp).2.1] at h
  cases h

theorem step_inv (hi : Inv s) (h : s.step l = some s') : Inv s' := by
  obtain ⟨i, url, -, hp, hl, rfl⟩ | ⟨i, -, hl, rfl⟩ | ⟨i, url, -, hl, rfl⟩ | ⟨urls, -, hp, rfl⟩ |
    ⟨-, rfl⟩ | ⟨-, rfl⟩ := step_cases h
  · exact inv_setupEntry hi hp hl url
  · exact inv_unloadEntry hi i
  · have hp : s.phase ≠ .stopped := phase_ne_stopped hi hl
    exact inv_setupEntry (inv_unloadEntry hi i) hp (not_mem_unloadEntry hi i) url
  · exact inv_start hi hp urls
  · exact inv_stop hi
  · exact booting_inv

/-- The count decides. -/
theorem livesWithGroup_iff (hi : Inv s) : LivesWithGroup s ↔ s.refcount = s.joined.length := by
  refine ⟨fun h => h.refcount, fun h => ⟨h, fun hh => ?_⟩⟩
  have hg : s.group ≠ none := fun hg => absurd (hh.symm.trans (hi.counted.absent hg).2) (by decide)
  have hpos := List.length_pos_iff.mpr (hi.counted.present hg)
  have hcount := hi.counted.refcount
  omega

theorem refcount_setupEntry_running (h : s.phase = .running) (i : ℕ) (url : Bool) :
    (s.setupEntry i url).refcount = s.refcount + 1 := by
  rw [setupEntry_running h]
  exact refcount_registerWebhook { s with loaded := s.loaded ++ [i] } i url

theorem length_joined_setupEntry_running (h : s.phase = .running) {i : ℕ} (hi : i ∉ s.joined)
    (url : Bool) : (s.setupEntry i url).joined.length = s.joined.length + 1 := by
  rw [setupEntry_running h, Home.registerWebhook]
  dsimp only
  rw [if_pos (List.mem_append_right _ (List.mem_singleton_self i)), List.insert_of_not_mem hi,
    List.length_cons]

theorem lives_setupEntry (hi : Inv s) (hg : LivesWithGroup s) (hp : s.phase ≠ .stopped) {i : ℕ}
    (hl : i ∉ s.loaded) (url : Bool) : LivesWithGroup (s.setupEntry i url) := by
  rw [livesWithGroup_iff (inv_setupEntry hi hp hl url)]
  have hr := hg.refcount
  cases hph : s.phase with
  | stopped => exact absurd hph hp
  | starting =>
    rw [setupEntry_starting hph]
    exact hr
  | running =>
    rw [refcount_setupEntry_running hph,
      length_joined_setupEntry_running hph (fun hj => hl (hi.subset i hj)), hr]
    push_cast
    rfl

theorem lives_unloadEntry_iff (hi : Inv s) (hg : LivesWithGroup s) {i : ℕ} :
    LivesWithGroup (s.unloadEntry i) ↔ i ∉ s.joined := by
  rw [livesWithGroup_iff (inv_unloadEntry hi i)]
  have hr : (s.unloadEntry i).refcount = s.joined.length := hg.refcount
  have hj : (s.unloadEntry i).joined = s.joined.erase i := rfl
  rw [hr, hj]
  by_cases hm : i ∈ s.joined
  · refine iff_of_false (fun h => ?_) fun h => h hm
    have := length_erase_of_mem hm
    omega
  · rw [List.erase_of_not_mem hm]
    exact iff_of_true rfl hm

theorem lives_reload_iff (hi : Inv s) (hg : LivesWithGroup s) {i : ℕ} (hl : i ∈ s.loaded)
    (url : Bool) : LivesWithGroup ((s.unloadEntry i).setupEntry i url) ↔ i ∉ s.joined := by
  have hp := phase_ne_stopped hi hl
  have hu := inv_unloadEntry hi i
  by_cases hm : i ∈ s.joined
  · refine iff_of_false (fun h => ?_) fun h => h hm
    have hph : (s.unloadEntry i).phase = .running := by
      cases hph : s.phase with
      | running => exact hph
      | stopped => exact absurd hph hp
      | starting => rw [(hi.starting hph).2.1] at hm; cases hm
    -- the group has counted the entry once more
    have hr := h.refcount
    have hold : (s.unloadEntry i).refcount = s.joined.length := hg.refcount
    have hlen : (s.unloadEntry i).joined.length + 1 = s.joined.length := length_erase_of_mem hm
    rw [refcount_setupEntry_running hph,
      length_joined_setupEntry_running hph (fun hj => not_mem_unloadEntry hi i (hu.subset i hj)),
      hold] at hr
    omega
  · have hgu := (lives_unloadEntry_iff hi hg).mpr hm
    exact iff_of_true (lives_setupEntry hu hgu hp (not_mem_unloadEntry hi i) url) hm

theorem lives_start_iff (hi : Inv s) (hp : s.phase = .starting) (urls : List ℕ) :
    LivesWithGroup (s.start urls) ↔ s.onStarted.length = s.loaded.length := by
  obtain ⟨hg, hj, hw⟩ := hi.starting hp
  have hst := joined_start s urls
  have hr : (s.start urls).refcount = s.onStarted.length := by
    rw [hst.refcount]
    simp [Home.refcount, hg]
  -- all loaded entries have joined now
  have hperm : (s.start urls).joined.Perm s.loaded := by
    rw [List.perm_ext_iff_of_nodup (hst.nodup hi.joined) hi.loaded]
    intro i
    rw [hst.mem]
    constructor
    · rintro (h | ⟨-, h⟩)
      · exact hi.subset i h
      · exact h
    · exact fun h => .inr ⟨hw i h, h⟩
  rw [livesWithGroup_iff (inv_start hi hp urls), hr, hperm.length_eq]
  exact Int.ofNat_inj

/-- **A step keeps the webhook and its group together exactly if it is allowed.** -/
theorem step_lives_iff (hi : Inv s) (hg : LivesWithGroup s) (h : s.step l = some s') :
    LivesWithGroup s' ↔ Allowed s l := by
  obtain ⟨i, url, rfl, hp, hl, rfl⟩ | ⟨i, rfl, hl, rfl⟩ | ⟨i, url, rfl, hl, rfl⟩ |
    ⟨urls, rfl, hp, rfl⟩ | ⟨rfl, rfl⟩ | ⟨rfl, rfl⟩ := step_cases h
  · exact iff_of_true (lives_setupEntry hi hg hp hl url) trivial
  · exact lives_unloadEntry_iff hi hg
  · exact lives_reload_iff hi hg hl url
  · exact lives_start_iff hi hp urls
  · obtain ⟨hgone, -, hj, -⟩ := stop_gone hi
    refine iff_of_true ((livesWithGroup_iff (inv_stop hi)).mpr ?_) trivial
    rw [Home.refcount, hgone, hj]
    rfl
  · exact iff_of_true ⟨rfl, nofun⟩ trivial

/-! ### The registration -/

/-- A step that registers the id exactly if a handler finds a URL. -/
theorem registeredByFirst_of_hook (h : s'.hook = true ↔ s.hook = true ∨ FindsUrl s l) :
    RegisteredByFirst ⟨s, l, s'⟩ :=
  ⟨fun hfinds => h.mpr (.inr hfinds), h.mp, fun hhook _ => h.mpr (.inl hhook)⟩

/-- A step after which nothing is registered and nobody has joined. -/
theorem registeredByFirst_of_gone (hh : s'.hook = false) (hj : s'.joined = [])
    (hfinds : ¬ FindsUrl s l) : RegisteredByFirst ⟨s, l, s'⟩ where
  registered := fun h => absurd h hfinds
  byMember := fun h => absurd (h.symm.trans hh) (by decide)
  stays := by
    intro _ hpos
    rw [hj] at hpos
    cases hpos

theorem hook_setupEntry (hc : Counted s) (hp : s.phase ≠ .stopped) (i : ℕ) (url : Bool) :
    (s.setupEntry i url).hook = true ↔ s.hook = true ∨ s.phase = .running ∧ url = true := by
  cases hph : s.phase with
  | stopped => exact absurd hph hp
  | starting =>
    rw [setupEntry_starting hph]
    exact ⟨.inl, fun h => h.resolve_right fun hrunning => nomatch hrunning.1⟩
  | running =>
    have hloaded : Counted { s with loaded := s.loaded ++ [i] } :=
      ⟨hc.refcount, hc.absent, hc.present, hc.registered⟩
    rw [setupEntry_running hph, hook_registerWebhook hloaded, Bool.or_eq_true]
    exact or_congr_right ⟨fun h => ⟨rfl, h⟩, fun h => h.2⟩

/-- **In every step the id is registered by the first that finds a URL.** -/
theorem step_registeredByFirst (hi : Inv s) (h : s.step l = some s') :
    RegisteredByFirst ⟨s, l, s'⟩ := by
  obtain ⟨i, url, rfl, hp, -, rfl⟩ | ⟨i, rfl, -, rfl⟩ | ⟨i, url, rfl, hl, rfl⟩ | ⟨urls, rfl, -, rfl⟩ |
    ⟨rfl, rfl⟩ | ⟨rfl, rfl⟩ := step_cases h
  · exact registeredByFirst_of_hook (hook_setupEntry hi.counted hp i url)
  · exact registeredByFirst_of_hook ⟨.inl, fun h => h.resolve_right id⟩
  · have hp : s.phase ≠ .stopped := phase_ne_stopped hi hl
    exact registeredByFirst_of_hook (hook_setupEntry (inv_unloadEntry hi i).counted hp i url)
  · have hstarted : Counted { s with phase := .running, onStarted := [] } :=
      ⟨hi.counted.refcount, hi.counted.absent, hi.counted.present, hi.counted.registered⟩
    refine registeredByFirst_of_hook ?_
    rw [Home.start, hook_foldl hstarted, Bool.or_eq_true, List.any_eq_true]
    refine or_congr_right (exists_congr fun i => and_congr_right fun _ => ?_)
    exact List.contains_iff_mem
  · obtain ⟨-, hh, hj, -⟩ := stop_gone hi
    exact registeredByFirst_of_gone hh hj id
  · exact registeredByFirst_of_gone rfl rfl id

/-! ### Runs -/

/-- **When the shared webhook lives as long as its group.** In every state of a run the group counts
the loaded entries that have joined, and its id is registered only while there are any, by the first
that finds a URL, if and only if no entry that has joined is unloaded or reloaded, and whenever Home
Assistant has started, as many handlers wait for it as there are loaded entries. -/
theorem run_lives_iff {τ : List (Move Home HomeLabel)} (hr : Run Home.step .booting τ s) :
    (∀ m ∈ τ, LivesWithGroup m.dst ∧ RegisteredByFirst m) ↔ ∀ m ∈ τ, Allowed m.src m.label := by
  have hlives : (∀ m ∈ τ, LivesWithGroup m.dst) ↔ ∀ m ∈ τ, Allowed m.src m.label :=
    hr.good_iff Inv LivesWithGroup Allowed booting_inv ⟨rfl, nofun⟩
      (fun _ _ _ hi _ h => step_inv hi h) fun _ _ _ hi hg h => step_lives_iff hi hg h
  have hinv := (hr.invariant Inv booting_inv fun _ _ _ hi h => step_inv hi h).2
  refine ⟨fun h => hlives.mp fun m hm => (h m hm).1, fun h m hm => ⟨hlives.mpr h m hm, ?_⟩⟩
  exact step_registeredByFirst (hinv m hm).1 (hr.step_of_mem m hm)

instance (s : Home) : Decidable (LivesWithGroup s) :=
  decidable_of_iff (s.refcount = s.joined.length ∧ (s.hook = true → 0 < s.joined.length))
    ⟨fun h => ⟨h.1, h.2⟩, fun h => ⟨h.refcount, h.hook⟩⟩

instance (s : Home) : ∀ l, Decidable (Allowed s l)
  | .unload i => inferInstanceAs (Decidable (i ∉ s.joined))
  | .reload i _ => inferInstanceAs (Decidable (i ∉ s.joined))
  | .started _ => inferInstanceAs (Decidable (s.onStarted.length = s.loaded.length))
  | .setup _ _ => .isTrue trivial
  | .stop => .isTrue trivial
  | .boot => .isTrue trivial

/-- **An unload leaves the webhook behind**: it stays registered, and the group counts an entry. -/
theorem unload_left_behind :
    ¬ ∀ (τ : List (Move Home HomeLabel)) (s : Home), Run Home.step .booting τ s →
      ∀ m ∈ τ, LivesWithGroup m.dst ∧ RegisteredByFirst m := by
  intro h
  have hlives : ∀ m ∈ (play Home.step .booting [.started [], .setup 0 true, .unload 0]).1,
      LivesWithGroup m.dst := fun m hm => (h _ _ (run_play _ _) m hm).1
  revert hlives
  decide

/-- Two entries, set up on either side of the start, and the stop. -/
theorem setup_stop_lives :
    (play Home.step .booting [.setup 0 true, .started [0], .setup 1 true, .stop]).1.length = 4 ∧
      ∀ m ∈ (play Home.step .booting [.setup 0 true, .started [0], .setup 1 true, .stop]).1,
        LivesWithGroup m.dst ∧ RegisteredByFirst m :=
  ⟨by decide, (run_lives_iff (run_play _ _)).mpr (by decide)⟩

end TTLockConnect.Webhook.Lifetime
