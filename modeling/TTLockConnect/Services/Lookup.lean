import TTLockConnect.Services.Cleanup
import TTLockConnect.Setup.Balance
import Mathlib.Data.List.ReduceOption

/-! # The coordinator of an entity

`coordinator_for` walks the config entries in their order and reads the locks of each out of
`hass.data`, where they are only once the entry's setup has got so far. An entry without its locks
raises `KeyError`, so what a lookup comes to depends on the entries in front of the one it looks for.
In every reachable state the entries that are loaded have their locks (`run_allRecorded`); of the others
nothing is known.

The other services are modelled where all entries have their locks, and there with the coordinators in a
row; `Numbered.getCoordinators` says that their lookup is this one. -/

namespace TTLockConnect.Services.Lookup

open TTLockConnect.Text TTLockConnect.Setup.Entries TTLockConnect.Setup.Balance
open TTLockConnect.Async.Coroutine TTLockConnect.Async.Coroutine.Coro TTLockConnect.Async.Runs
open TTLockConnect.Models (LocalTime)
open TTLockConnect.Coordinator.State (LockUpdateCoordinator)

variable {O : Type}

abbrev EntityId := String

/-! ### The lookup -/

/-- A listener of a coordinator: a method of an entity, whose `entity_id` is `None` until it is
added, or a function of its own. -/
inductive Listener where
  | entity (entityId : Option EntityId)
  | closure
  deriving DecidableEq, Repr

/-- Home Assistant, with the entries of the integration in their order and the listeners of each
coordinator. -/
structure Home (O : Type) where
  hass : Hass O
  /-- `hass.config_entries.async_entries(DOMAIN)` -/
  asyncEntries : List EntryId
  /-- `coordinator._listeners` -/
  listeners : LockCoordinator → List Listener

/-- The entity a listener belongs to. -/
def Listener.owner : Listener → Option (Option EntityId)
  | .entity entityId => some entityId
  | .closure => none

namespace Home

/-- `LockUpdateCoordinator.entities`, by their ids. -/
def entities (x : Home O) (c : LockCoordinator) : List (Option EntityId) :=
  (x.listeners c).filterMap Listener.owner

/-- One of the entities of the coordinator has this id. -/
def owns (x : Home O) (entityId : EntityId) (c : LockCoordinator) : Bool :=
  (x.entities c).contains (some entityId)

/-- `hass.data[DOMAIN][entry.entry_id][TT_LOCKS]`. -/
def lockCoordinators (x : Home O) (id : EntryId) : Except PyError (List LockCoordinator) :=
  match (x.hass.data.entries.lookup id).bind EntryData.locks with
  | some locks => .ok locks
  | none => .error .keyError

/-- The loop of `coordinator_for`. -/
def coordinatorIn (x : Home O) (entityId : EntityId) :
    List EntryId → Except PyError (Option LockCoordinator)
  | [] => .ok none
  | id :: ids => do
    let locks ← x.lockCoordinators id
    match locks.find? (x.owns entityId) with
    | some c => .ok (some c)
    | none => x.coordinatorIn entityId ids

/-- `coordinator_for`. -/
def coordinatorFor (x : Home O) (entityId : EntityId) : Except PyError (Option LockCoordinator) :=
  x.coordinatorIn entityId x.asyncEntries

/-- `_get_coordinators`, for entity ids without repetition. -/
def coordinatorsOf (x : Home O) :
    List EntityId → Except PyError (List (EntityId × LockCoordinator))
  | [] => .ok []
  | entityId :: entityIds => do
    let c ← x.coordinatorFor entityId
    let cs ← x.coordinatorsOf entityIds
    .ok ((c.map (entityId, ·)).toList ++ cs)

/-- `_get_coordinators`: the keys of the dict are different. -/
def getCoordinators (x : Home O) (entityIds : List EntityId) :
    Except PyError (List (EntityId × LockCoordinator)) :=
  x.coordinatorsOf entityIds.eraseDups

/-! ### What a lookup is to find -/

instance (h : Hass O) (id : EntryId) : Decidable (h.IsLoaded id) :=
  inferInstanceAs (Decidable (_ ∨ _))

/-- The coordinators of the loaded entries. -/
def loadedLocks (x : Home O) (ids : List EntryId) : List LockCoordinator :=
  (ids.filter fun id => x.hass.IsLoaded id).flatMap x.hass.locksOf

/-- The coordinator that owns the entity, if it belongs to a loaded entry. -/
def owner (x : Home O) (entityId : EntityId) : Option LockCoordinator :=
  (x.loadedLocks x.asyncEntries).find? (x.owns entityId)

/-- **Services reach their locks**: each lookup finds the owner of its entity, and the call goes to
all of them. -/
def Reaches (x : Home O) (entityIds : List EntityId) : Prop :=
  (∀ entityId ∈ entityIds, x.coordinatorFor entityId = .ok (x.owner entityId)) ∧
    x.getCoordinators entityIds =
      .ok (entityIds.eraseDups.filterMap fun entityId => (x.owner entityId).map (entityId, ·))

end Home

/-- The entry has its locks. -/
def Recorded (h : Hass O) (id : EntryId) : Prop :=
  ∃ locks, (h.data.entries.lookup id).bind EntryData.locks = some locks

/-- Every entry that is loaded has its locks. -/
def AllRecorded (h : Hass O) : Prop := ∀ id, h.IsLoaded id → Recorded h id

/-- Loaded entries have their locks, and no entry that is not loaded has an entity. -/
structure Consistent (x : Home O) : Prop where
  recorded : AllRecorded x.hass
  entities : ∀ id, ¬ x.hass.IsLoaded id → ∀ c ∈ x.hass.locksOf id, x.entities c = []

/-- **No entry without its locks stands in the way**: all those in front of the entry that owns the
entity have them, or all entries where none does. -/
def NothingMissing (x : Home O) (entityId : EntityId) : Prop :=
  ∀ ids id ids', x.asyncEntries = ids ++ id :: ids' →
    (∀ c ∈ x.loadedLocks ids, x.owns entityId c = false) → Recorded x.hass id

variable {x : Home O} {entityId : EntityId} {id : EntryId}

theorem lockCoordinators_of_recorded (h : Recorded x.hass id) :
    x.lockCoordinators id = .ok (x.hass.locksOf id) := by
  obtain ⟨locks, hl⟩ := h
  simp [Home.lockCoordinators, Hass.locksOf, hl]

theorem lockCoordinators_of_not_recorded (h : ¬ Recorded x.hass id) :
    x.lockCoordinators id = .error .keyError := by
  have hnone : (x.hass.data.entries.lookup id).bind EntryData.locks = none := by
    rw [Option.eq_none_iff_forall_ne_some]
    intro locks hl
    exact h ⟨locks, hl⟩
  simp [Home.lockCoordinators, hnone]

/-- The locks that a lookup sees of an entry. -/
def visible (x : Home O) (id : EntryId) : List LockCoordinator :=
  if x.hass.IsLoaded id then x.hass.locksOf id else []

theorem loadedLocks_cons (ids : List EntryId) :
    x.loadedLocks (id :: ids) = visible x id ++ x.loadedLocks ids := by
  unfold Home.loadedLocks visible
  by_cases h : x.hass.IsLoaded id
  · simp [h]
  · simp [h]

/-- A coordinator without entities owns none. -/
theorem owns_eq_false {c : LockCoordinator} (h : x.entities c = []) :
    x.owns entityId c = false := by
  simp [Home.owns, h]

/-- The own locks of an entry, as far as a lookup sees them, are those of a loaded entry. -/
theorem find?_locksOf (hx : Consistent x) :
    (x.hass.locksOf id).find? (x.owns entityId) = (visible x id).find? (x.owns entityId) := by
  unfold visible
  split_ifs with h
  · rfl
  · rw [List.find?_nil, List.find?_eq_none]
    intro c hc
    simp [owns_eq_false (hx.entities id h c hc)]

/-- No entry without its locks stands in the way in the rest of the loop. -/
def Unobstructed (x : Home O) (entityId : EntityId) (entries : List EntryId) : Prop :=
  ∀ ids id ids', entries = ids ++ id :: ids' →
    (∀ c ∈ x.loadedLocks ids, x.owns entityId c = false) → Recorded x.hass id

/-- The first entry has its locks, and unless one of them is looked for, so has the rest. -/
theorem unobstructed_cons {ids : List EntryId} : Unobstructed x entityId (id :: ids) ↔
    Recorded x.hass id ∧
      ((∀ c ∈ visible x id, x.owns entityId c = false) → Unobstructed x entityId ids) := by
  constructor
  · refine fun h => ⟨h [] id ids rfl nofun, fun hnone is i is' heq hall => ?_⟩
    refine h (id :: is) i is' (by rw [heq]; rfl) fun c hc => ?_
    rw [loadedLocks_cons] at hc
    rcases List.mem_append.mp hc with hc | hc
    · exact hnone c hc
    · exact hall c hc
  · rintro ⟨hr, hrest⟩ is i is' heq hall
    cases is with
    | nil =>
      obtain ⟨rfl, -⟩ := List.cons.inj heq
      exact hr
    | cons j is =>
      obtain ⟨rfl, heq'⟩ := List.cons.inj heq
      rw [loadedLocks_cons] at hall
      exact hrest (fun c hc => hall c (List.mem_append_left _ hc)) is i is' heq'
        fun c hc => hall c (List.mem_append_right _ hc)

/-- The loop at an entry that has its locks. -/
theorem coordinatorIn_cons {ids : List EntryId} (hr : Recorded x.hass id) :
    x.coordinatorIn entityId (id :: ids) =
      match (x.hass.locksOf id).find? (x.owns entityId) with
      | some c => .ok (some c)
      | none => x.coordinatorIn entityId ids := by
  rw [Home.coordinatorIn, lockCoordinators_of_recorded hr]
  rfl

/-- The loop finds the owner exactly if it meets no entry without its locks. -/
theorem coordinatorIn_iff (hx : Consistent x) : ∀ ids : List EntryId,
    x.coordinatorIn entityId ids = .ok ((x.loadedLocks ids).find? (x.owns entityId)) ↔
      Unobstructed x entityId ids
  | [] => by
    refine iff_of_true rfl fun is i is' h => ?_
    simp at h
  | id :: ids => by
    rw [unobstructed_cons]
    by_cases hr : Recorded x.hass id
    · rw [coordinatorIn_cons hr, find?_locksOf hx, loadedLocks_cons, List.find?_append]
      cases hfind : (visible x id).find? (x.owns entityId) with
      | some c =>
        -- the loop is left
        refine iff_of_true rfl ⟨hr, fun hnone => ?_⟩
        have hc := List.find?_some hfind
        rw [hnone c (List.mem_of_find?_eq_some hfind)] at hc
        cases hc
      | none =>
        have hnone : ∀ c ∈ visible x id, x.owns entityId c = false := by
          intro c hc
          have hc' := List.find?_eq_none.mp hfind c hc
          rwa [Bool.not_eq_true] at hc'
        rw [Option.none_or]
        exact (coordinatorIn_iff hx ids).trans ⟨fun h => ⟨hr, fun _ => h⟩, fun h => h.2 hnone⟩
    · have hraise : x.coordinatorIn entityId (id :: ids) = .error .keyError := by
        rw [Home.coordinatorIn, lockCoordinators_of_not_recorded hr]
        rfl
      rw [hraise]
      exact iff_of_false nofun fun h => hr h.1

/-- **A lookup finds the owner of its entity** exactly if no entry stands in the way. -/
theorem coordinatorFor_iff (hx : Consistent x) :
    x.coordinatorFor entityId = .ok (x.owner entityId) ↔ NothingMissing x entityId :=
  coordinatorIn_iff hx x.asyncEntries

/-- Lookups that come to something make a call that reaches it. -/
theorem coordinatorsOf_eq {found : EntityId → Option LockCoordinator} :
    ∀ {entityIds : List EntityId},
      (∀ entityId ∈ entityIds, x.coordinatorFor entityId = .ok (found entityId)) →
        x.coordinatorsOf entityIds =
          .ok (entityIds.filterMap fun entityId => (found entityId).map (entityId, ·))
  | [], _ => rfl
  | entityId :: entityIds, h => by
    have hrest := coordinatorsOf_eq fun e he => h e (List.mem_cons_of_mem _ he)
    rw [Home.coordinatorsOf, h entityId (List.mem_cons_self ..), hrest]
    cases hown : found entityId with
    | none =>
      rw [List.filterMap_cons_none (by rw [hown]; rfl)]
      rfl
    | some c =>
      rw [List.filterMap_cons_some (by rw [hown]; rfl)]
      rfl

/-- **When services reach their locks**: exactly if no entry without its locks stands in the way of
one of their entities. -/
theorem reaches_iff (hx : Consistent x) (entityIds : List EntityId) :
    x.Reaches entityIds ↔ ∀ entityId ∈ entityIds, NothingMissing x entityId := by
  constructor
  · intro h entityId he
    exact (coordinatorFor_iff hx).mp (h.1 entityId he)
  · intro h
    have hall : ∀ entityId ∈ entityIds, x.coordinatorFor entityId = .ok (x.owner entityId) :=
      fun entityId he => (coordinatorFor_iff hx).mpr (h entityId he)
    exact ⟨hall, coordinatorsOf_eq fun entityId he => hall entityId (List.mem_eraseDups.mp he)⟩

/-! ### Where nothing is missing -/

/-- All entries have their locks, which are the coordinators `c` in a row, with the entities that `s`
says. -/
structure Numbered {n : ℕ} (x : Home O) (c : Fin n → LockCoordinator) (s : Cleanup.Hass n) :
    Prop where
  recorded : ∀ id ∈ x.asyncEntries, Recorded x.hass id
  locks : x.asyncEntries.flatMap x.hass.locksOf = (List.finRange n).map c
  entities : ∀ i entityId, entityId ∈ s.entities i ↔ some entityId ∈ x.entities (c i)

/-- Wherever all entries have their locks these can be numbered. -/
theorem numbered_of_recorded (hr : ∀ id ∈ x.asyncEntries, Recorded x.hass id) (now : LocalTime)
    (coordinators : Fin (x.asyncEntries.flatMap x.hass.locksOf).length → LockUpdateCoordinator) :
    Numbered x (x.asyncEntries.flatMap x.hass.locksOf).get
      ⟨now, coordinators, fun i =>
        (x.entities ((x.asyncEntries.flatMap x.hass.locksOf).get i)).reduceOption⟩ where
  recorded := hr
  locks := (List.map_get_finRange _).symm
  entities _ _ := List.reduceOption_mem_iff

section Numbered
variable {n : ℕ} {c : Fin n → LockCoordinator} {s : Cleanup.Hass n}

/-- The loop goes through the locks in a row. -/
theorem coordinatorIn_eq : ∀ {ids : List EntryId}, (∀ id ∈ ids, Recorded x.hass id) →
    x.coordinatorIn entityId ids = .ok ((ids.flatMap x.hass.locksOf).find? (x.owns entityId))
  | [], _ => rfl
  | id :: ids, h => by
    have hrest := coordinatorIn_eq fun i hi => h i (List.mem_cons_of_mem _ hi)
    rw [coordinatorIn_cons (h id List.mem_cons_self), List.flatMap_cons, List.find?_append, hrest]
    cases (x.hass.locksOf id).find? (x.owns entityId) <;> rfl

/-- **The lookup by number is the lookup.** -/
theorem Numbered.coordinatorFor (h : Numbered x c s) (entityId : EntityId) :
    x.coordinatorFor entityId = .ok ((s.coordinatorFor entityId).map c) := by
  have howns : x.owns entityId ∘ c = fun i => (s.entities i).contains entityId := by
    funext i
    rw [Function.comp_apply, Home.owns, Bool.eq_iff_iff, List.contains_iff_mem, List.contains_iff_mem,
      h.entities]
  rw [Home.coordinatorFor, coordinatorIn_eq h.recorded, h.locks, List.find?_map, howns]
  rfl

/-- **A call reaches the same coordinators.** -/
theorem Numbered.getCoordinators (h : Numbered x c s) (entityIds : List EntityId) :
    x.getCoordinators entityIds =
      .ok ((s.getCoordinators entityIds).map fun e => (e.1, c e.2)) := by
  rw [Home.getCoordinators, coordinatorsOf_eq fun entityId _ => h.coordinatorFor entityId,
    Cleanup.Hass.getCoordinators, List.map_filterMap]
  congr 2
  funext entityId
  cases s.coordinatorFor entityId <;> rfl

end Numbered

/-! ### Loaded entries have their locks -/

section Reachable
variable {h h' : Hass O} {w : Answers} {i : EntryId}

theorem Recorded.mem (hr : Recorded h id) : id ∈ h.data.entries := by
  obtain ⟨locks, hl⟩ := hr
  rw [← AList.lookup_isSome]
  cases hlook : h.data.entries.lookup id with
  | none =>
    rw [hlook] at hl
    cases hl
  | some record => rfl

theorem mem_of_mem_locksOf {c : LockCoordinator} (hc : c ∈ h.locksOf id) : id ∈ h.data.entries := by
  rw [← AList.lookup_isSome]
  unfold Hass.locksOf at hc
  cases hlook : h.data.entries.lookup id with
  | none =>
    rw [hlook] at hc
    cases hc
  | some record => rfl

theorem Recorded.congr (he : h'.data.entries.lookup id = h.data.entries.lookup id)
    (hr : Recorded h id) : Recorded h' id := by
  unfold Recorded at hr ⊢
  rwa [he]

theorem setUpLocks_recorded {locks : List LockCoordinator} (hm : id ∈ h.data.entries)
    (hrun : (setUpLocks id).run (answer w) h = (.ok locks, h')) : Recorded h' id := by
  unfold setUpLocks at hrun
  rw [run_bind, request, run_call, answer] at hrun
  cases hw : w .getLocks with
  | error e =>
    rw [hw] at hrun
    cases hrun
  | ok summaries =>
    rw [hw] at hrun
    dsimp only at hrun
    obtain ⟨made, h₁, hd, -, hnew⟩ := newCoordinators_run (w := w) id summaries h
    rcases hnew with ⟨-, hnew⟩ | ⟨-, e, hnew⟩
    · rw [run_bind, hnew] at hrun
      obtain ⟨record, hrec⟩ := Option.isSome_iff_exists.mp (AList.lookup_isSome.mpr hm)
      cases hrun
      refine ⟨locks, ?_⟩
      rw [lookup_changeRecord, hd, hrec]
      rfl
    · rw [run_bind, hnew] at hrun
      cases hrun

/-- What the rest of a setup does to the record keeps the locks in it. -/
theorem setUpRest_recorded (w : Answers) (locks : List LockCoordinator) (hr : Recorded h id) :
    Recorded ((setUpRest id locks).run (answer w) h).2 id := by
  have hframe : Frames (answer w) (fun h h' : Hass O => Recorded h id → Recorded h' id)
      (setUpRest id locks) := by
    have htrans : ∀ h₁ h₂ h₃ : Hass O, (Recorded h₁ id → Recorded h₂ id) →
        (Recorded h₂ id → Recorded h₃ id) → Recorded h₁ id → Recorded h₃ id :=
      fun _ _ _ h₁₂ h₂₃ hr => h₂₃ (h₁₂ hr)
    have hcall (q : Request) : Frames (answer w)
        (fun h h' : Hass O => Recorded h id → Recorded h' id) (request q) :=
      frames_call fun _ hr => hr
    unfold setUpRest
    refine frames_bind htrans (frames_modify fun h hr => ?_) fun _ => ?_
    · refine hr.congr ?_
      rw [(same_foldl_startBleTracking id locks h).entries]
    refine frames_bind htrans (hcall _) fun _ => frames_bind htrans (frames_modify fun h hr => ?_)
      fun _ => frames_bind htrans (hcall _) fun _ => hcall _
    obtain ⟨locks', hl⟩ := hr
    refine ⟨locks', ?_⟩
    rw [lookup_changeRecord]
    cases hlook : h.data.entries.lookup id with
    | none =>
      rw [hlook] at hl
      cases hl
    | some record =>
      rw [hlook] at hl
      exact hl
  exact hframe h hr

theorem asyncSetupEntry_recorded {b : Bool}
    (hrun : (asyncSetupEntry id).run (answer w) h = (.ok b, h')) : Recorded h' id := by
  unfold asyncSetupEntry at hrun
  rw [run_bind] at hrun
  obtain ⟨h₁, -, ⟨-, hprep⟩ | ⟨-, e, hprep⟩⟩ := prepare_run w id h
  · rw [hprep] at hrun
    dsimp only at hrun
    rw [run_bind, run_modify] at hrun
    dsimp only at hrun
    set h₂ : Hass O := h₁.putRecord id ⟨(h₁.entries id).options, none, false⟩
    have hin : id ∈ h₂.data.entries := (AList.mem_insert _).mpr (.inl rfl)
    rw [run_bind] at hrun
    cases hlocks : (setUpLocks id).run (answer w) h₂ with
    | mk r h₃ =>
      rw [hlocks] at hrun
      cases r with
      | error e => cases hrun
      | ok locks =>
        dsimp only at hrun
        have hr := setUpRest_recorded w locks (setUpLocks_recorded hin hlocks)
        rw [run_bind] at hrun
        cases hrest : (setUpRest id locks).run (answer w) h₃ with
        | mk r h₄ =>
          rw [hrest] at hrun hr
          cases r with
          | error e => cases hrun
          | ok u =>
            cases hrun
            exact hr
  · rw [hprep] at hrun
    cases hrun

/-- What does not touch the records of the loaded entries. -/
theorem AllRecorded.of_made {locks : List LockCoordinator} (ha : AllRecorded h)
    (hm : Made id h h' locks) (hn : ¬ h.IsLoaded id) : AllRecorded h' := by
  intro i hi
  have hl := (hm.loaded i).mp hi
  exact (ha i hl).congr (hm.others i (ne_of_isLoaded hn hl))

theorem AllRecorded.of_same (ha : AllRecorded h) (hs : Same h h') : AllRecorded h' := by
  intro i hi
  refine (ha i ((hs.loaded i).mp hi)).congr ?_
  rw [hs.entries]

theorem asyncSetup_allRecorded (cleans : PyError → Bool) (w : Answers) (hn : ¬ h.IsLoaded id)
    (ha : AllRecorded h) : AllRecorded (asyncSetup cleans w id h) := by
  have hset := asyncSetupEntry_run w id h
  unfold asyncSetup
  cases hrun : (asyncSetupEntry id).run (answer w) h with
  | mk r h₁ =>
    rw [hrun] at hset
    cases hset with
    | @refused e _ hp hs =>
      have hfailed := same_setupFailed cleans e (mt (hs.loaded id).mp hn)
      exact ha.of_same (hs.trans hfailed)
    | @broken e _ _ hp hc hm hin =>
      have hfailed := same_setupFailed cleans e (mt (hm.loaded id).mp hn)
      exact (ha.of_made hm hn).of_same hfailed
    | done hc hm hin hl =>
      intro i hi
      by_cases hne : i = id
      · subst hne
        exact (asyncSetupEntry_recorded hrun).congr rfl
      · rw [isLoaded_setState, if_neg hne, hm.loaded] at hi
        exact (ha i hi).congr (hm.others i hne)

theorem asyncUnload_allRecorded (w : Answers) (id : EntryId) (ha : AllRecorded h) :
    AllRecorded (asyncUnload w id h).2 ∧
      ((asyncUnload w id h).1 = true → ¬ (asyncUnload w id h).2.IsLoaded id) := by
  have hu := asyncUnload_unloads w fun hl => (ha id hl).mem
  refine ⟨?_, hu.not_loaded⟩
  generalize asyncUnload w id h = out at hu
  cases hu with
  | kept _ hs _ => exact ha.of_same hs
  | unloaded _ _ _ _ he hl =>
    intro i hi
    obtain ⟨hne, hi⟩ := (hl i).mp hi
    refine (ha i hi).congr ?_
    rw [he, AList.lookup_erase_ne hne]

theorem asyncReload_allRecorded (cleans : PyError → Bool) (w : Answers) (id : EntryId)
    (ha : AllRecorded h) : AllRecorded (asyncReload cleans w id h) := by
  obtain ⟨ha₁, hn₁⟩ := asyncUnload_allRecorded w id ha
  unfold asyncReload
  generalize asyncUnload w id h = out at ha₁ hn₁
  obtain ⟨again, h₁⟩ := out
  cases again with
  | false => exact ha₁
  | true => exact asyncSetup_allRecorded cleans w (hn₁ rfl) ha₁

theorem step_allRecorded [DecidableEq O] {cleans : PyError → Bool} {e : EntryEvent O}
    (ha : AllRecorded h) (hs : step cleans h e = some h') : AllRecorded h' := by
  cases e with
  | setup id w =>
    simp only [step] at hs
    split_ifs at hs with hstate
    obtain rfl := Option.some.inj hs
    have hn : ¬ h.IsLoaded id := by
      unfold Hass.IsLoaded
      rcases hstate with hstate | hstate
      · simp [hstate]
      · simp [hstate]
    exact asyncSetup_allRecorded cleans w hn ha
  | unload id w =>
    obtain rfl := Option.some.inj hs
    exact (asyncUnload_allRecorded w id ha).1
  | reload id w =>
    obtain rfl := Option.some.inj hs
    exact asyncReload_allRecorded cleans w id ha
  | updated id options w =>
    obtain rfl := Option.some.inj hs
    have ha₁ := ha.of_same (same_updateEntry h id (fun e => { e with options := options }) fun _ => rfl)
    unfold asyncUpdateEntry
    dsimp only
    split_ifs
    · exact asyncReload_allRecorded cleans w id ha₁
    · exact ha₁

/-- **In every reachable state the loaded entries have their locks.** -/
theorem run_allRecorded [DecidableEq O] {cleans : PyError → Bool} {options : EntryId → O}
    {bluetooth : Bool} {τ : List (Move (Hass O) (EntryEvent O))}
    (hr : Run (step cleans) (booted options bluetooth) τ h) : AllRecorded h := by
  have hbooted : AllRecorded (booted options bluetooth) := by
    intro id hl
    simp [Hass.IsLoaded, booted] at hl
  exact (hr.invariant AllRecorded hbooted fun _ _ _ ha hs => step_allRecorded ha hs).1

end Reachable

/-! ### Two accounts -/

/-- The setup of the first account fails at its locks, the second is loaded. -/
def firstFails : List (EntryEvent Unit) :=
  [.setup "a" fun q => if q matches .getLocks then .error .requestFailed else succeeding [] q,
    .setup "b" (succeeding [frontDoor])]

/-- What Home Assistant has come to. -/
def firstFailed : Hass Unit := (play (step fun _ => true) (booted (fun _ => ()) false) firstFails).2

/-- The entries stand in this order. -/
def twoEntries (order : List EntryId) : Home Unit where
  hass := firstFailed
  asyncEntries := order
  listeners c := if c.entryId = "b" then [.closure, .entity (some "lock.front_door")] else []

theorem twoEntries_consistent (order : List EntryId) : Consistent (twoEntries order) where
  recorded := run_allRecorded (run_play _ firstFails)
  entities := by
    intro id hn c hc
    have hc : c ∈ firstFailed.locksOf id := hc
    have hid : id ∈ firstFailed.data.entries.keys := AList.mem_keys.mp (mem_of_mem_locksOf hc)
    have hkeys : firstFailed.data.entries.keys = ["b", "a"] := by decide +kernel
    rw [hkeys] at hid
    rcases List.mem_cons.mp hid with rfl | hid
    · have hloaded : firstFailed.IsLoaded "b" := by decide +kernel
      exact absurd hloaded hn
    · have hnone : firstFailed.locksOf "a" = [] := by decide +kernel
      rw [List.mem_singleton.mp hid, hnone] at hc
      cases hc

/-- **The failed account takes the lock of the other away.** -/
theorem coordinatorFor_raises :
    ¬ ∀ (x : Home Unit) (entityIds : List EntityId), Consistent x → x.Reaches entityIds := by
  intro hall
  have hfound := (hall _ ["lock.front_door"] (twoEntries_consistent ["a", "b"])).1 _
    (List.mem_singleton.mpr rfl)
  revert hfound
  decide +kernel

/-- Behind the other account it does no harm. -/
theorem reaches_otherOrder : (twoEntries ["b", "a"]).Reaches ["lock.front_door"] := by
  refine (reaches_iff (twoEntries_consistent _) _).mpr ?_
  intro entityId he ids id ids' heq hnone
  rw [List.mem_singleton.mp he] at hnone
  have hloaded : firstFailed.IsLoaded "b" := by decide +kernel
  cases ids with
  | nil =>
    obtain ⟨rfl, -⟩ := List.cons.inj heq
    exact (twoEntries_consistent ["b", "a"]).recorded "b" hloaded
  | cons j ids =>
    -- the lock of the account in front is the one that is looked for
    obtain ⟨rfl, -⟩ := List.cons.inj heq
    have hown : ∃ c ∈ firstFailed.locksOf "b",
        (twoEntries ["b", "a"]).owns "lock.front_door" c = true := by decide +kernel
    obtain ⟨c, hc, howns⟩ := hown
    have hin : c ∈ (twoEntries ["b", "a"]).loadedLocks ("b" :: ids) := by
      have hvisible : visible (twoEntries ["b", "a"]) "b" = firstFailed.locksOf "b" := if_pos hloaded
      rw [loadedLocks_cons, hvisible]
      exact List.mem_append_left _ hc
    have hnot := hnone c hin
    rw [howns] at hnot
    cases hnot

end TTLockConnect.Services.Lookup
