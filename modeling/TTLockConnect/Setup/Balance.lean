import TTLockConnect.Setup.Entries
import TTLockConnect.Async.Runs
import Mathlib.Tactic.SplitIfs

/-! # What setups and unloads leave behind

A setup that fails leaves nothing if it fails before the record of its entry is stored, and the record
and the subscribed coordinators if it fails later; an unload takes out the record, but no coordinator
ever leaves the dispatcher. So the subscribers are the coordinators of the loaded entries as long as
no setup fails behind its record and no entry with locks is unloaded. -/

namespace TTLockConnect.Setup.Balance

open TTLockConnect.Text TTLockConnect.Models TTLockConnect.Setup.Entries
open TTLockConnect.Async.Coroutine TTLockConnect.Async.Coroutine.Coro TTLockConnect.Async.Runs

variable {O : Type}

/-- **Loading and leaving are balanced.** -/
structure Balanced (h : Hass O) : Prop where
  subscribers : ∀ c, c ∈ h.subscribers ↔ ∃ id, h.IsLoaded id ∧ c ∈ h.locksOf id
  records : ∀ id, id ∈ h.data.entries ↔ h.IsLoaded id
  processing : ∀ event, ∀ c ∈ h.processing event, ∃ id, h.IsLoaded id ∧ c ∈ h.locksOf id

/-! ### Conditions -/

/-- A setup gets as far as the record of the entry. -/
def Prepared (w : Answers) (h : Hass O) : Prop :=
  (w .implementation).toBool = true ∧ (h.data.counter = true ∨ (w .counterLoad).toBool = true)

/-- The calls behind the record succeed, and the features of every lock can be read. -/
structure Completes (w : Answers) : Prop where
  locks : ∃ summaries, w .getLocks = .ok summaries ∧ ∀ s ∈ summaries, s.features.toBool = true
  gateways : (w .gatewaysFirstRefresh).toBool = true
  webhook : (w .webhookSetup).toBool = true
  platforms : (w .forwardEntrySetups).toBool = true

/-- No setup fails behind the record of its entry. -/
def SetupAllowed (w : Answers) (h : Hass O) : Prop := Prepared w h → Completes w

/-- No entry with locks is unloaded. -/
def UnloadAllowed (w : Answers) (h : Hass O) (id : EntryId) : Prop :=
  (h.entries id).state = .loaded → w .unloadPlatforms = .ok true → h.locksOf id = []

/-- Both, where the unload lets the setup begin. -/
def ReloadAllowed (w : Answers) (h : Hass O) (id : EntryId) : Prop :=
  UnloadAllowed w h id ∧
    ((asyncUnload w id h).1 = true → SetupAllowed w (asyncUnload w id h).2)

/-- **What a step has to meet.** -/
def Allowed [DecidableEq O] (h : Hass O) : EntryEvent O → Prop
  | .setup _ w => SetupAllowed w h
  | .unload id w => UnloadAllowed w h id
  | .reload id w => ReloadAllowed w h id
  | .updated id options w =>
    let h := h.updateEntry id fun e => { e with options := options }
    optionsChanged h id = true → ReloadAllowed w h id

/-! ### What does not touch the records and the subscribers -/

/-- As before, but for what `Balanced` does not ask for. -/
structure Same (h h' : Hass O) : Prop where
  entries : h'.data.entries = h.data.entries
  subscribers : h'.subscribers = h.subscribers
  nextRef : h'.nextRef = h.nextRef
  loaded : ∀ id, h'.IsLoaded id ↔ h.IsLoaded id

theorem Same.refl (h : Hass O) : Same h h := ⟨rfl, rfl, rfl, fun _ => Iff.rfl⟩

variable {h h' h₁ h₂ h₃ : Hass O} {id i : EntryId} {w : Answers}

theorem Same.trans (h₁₂ : Same h₁ h₂) (h₂₃ : Same h₂ h₃) : Same h₁ h₃ :=
  ⟨h₂₃.entries.trans h₁₂.entries, h₂₃.subscribers.trans h₁₂.subscribers,
    h₂₃.nextRef.trans h₁₂.nextRef, fun id => (h₂₃.loaded id).trans (h₁₂.loaded id)⟩

theorem Same.locksOf (hs : Same h h') (id : EntryId) : h'.locksOf id = h.locksOf id := by
  unfold Hass.locksOf
  rw [hs.entries]

/-- Events are processed by subscribers. -/
theorem balanced_of (hsubscribers : ∀ c, c ∈ h.subscribers ↔ ∃ id, h.IsLoaded id ∧ c ∈ h.locksOf id)
    (hrecords : ∀ id, id ∈ h.data.entries ↔ h.IsLoaded id) : Balanced h :=
  ⟨hsubscribers, hrecords, fun _ c hc => (hsubscribers c).mp (List.mem_of_mem_filter hc)⟩

theorem Same.balanced (hs : Same h h') (hb : Balanced h) : Balanced h' := by
  refine balanced_of (fun c => ?_) fun id => ?_
  · rw [hs.subscribers, hb.subscribers]
    refine exists_congr fun id => ?_
    rw [hs.loaded, hs.locksOf]
  · rw [hs.entries, hs.loaded]
    exact hb.records id

/-- An entry is changed, but not its state. -/
theorem same_updateEntry (h : Hass O) (id : EntryId) (f : ConfigEntry O → ConfigEntry O)
    (hf : ∀ e, (f e).state = e.state) : Same h (h.updateEntry id f) := by
  refine ⟨rfl, rfl, rfl, fun i => ?_⟩
  unfold Hass.IsLoaded Hass.updateEntry
  dsimp only
  by_cases hi : i = id
  · rw [hi, Function.update_self, hf]
  · rw [Function.update_of_ne hi]

theorem same_asyncOnUnload (h : Hass O) (id : EntryId) (u : OnUnload) :
    Same h (h.asyncOnUnload id u) := same_updateEntry h id _ fun _ => rfl

theorem same_addUpdateListener (h : Hass O) (id : EntryId) : Same h (h.addUpdateListener id) := by
  have hadded : Same h (h.updateEntry id fun e => { e with
      updateListeners := e.updateListeners + 1 }) := same_updateEntry h id _ fun _ => rfl
  exact hadded.trans (same_asyncOnUnload _ id _)

theorem same_startBleTracking (id : EntryId) (c : LockCoordinator) (h : Hass O) :
    Same h (startBleTracking id c h) := by
  unfold startBleTracking
  split_ifs
  · have htracked : Same h { h with tracked := h.tracked ++ [c] } := ⟨rfl, rfl, rfl, fun _ => Iff.rfl⟩
    exact htracked.trans (same_asyncOnUnload _ id _)
  · exact same_asyncOnUnload h id _

theorem same_foldl_startBleTracking (id : EntryId) (locks : List LockCoordinator) (h : Hass O) :
    Same h (locks.foldl (fun h c => startBleTracking id c h) h) := by
  induction locks generalizing h with
  | nil => exact .refl h
  | cons c locks ih => exact (same_startBleTracking id c h).trans (ih _)

theorem same_undo (id : EntryId) (u : OnUnload) (h : Hass O) : Same h (h.undo id u) := by
  cases u with
  | removeUpdateListener =>
    exact same_updateEntry h id (fun e => { e with updateListeners := e.updateListeners - 1 })
      fun _ => rfl
  | stopTracking c => exact ⟨rfl, rfl, rfl, fun _ => Iff.rfl⟩
  | nothing => exact .refl h

theorem same_processOnUnload (h : Hass O) (id : EntryId) : Same h (h.processOnUnload id) := by
  have hundo : ∀ us : List OnUnload, Same h (us.foldr (Hass.undo id) h) := by
    intro us
    induction us with
    | nil => exact .refl h
    | cons u us ih => exact ih.trans (same_undo id u _)
  exact (hundo _).trans (same_updateEntry _ id _ fun _ => rfl)

/-! ### A setup -/

/-- What a setup has made so far: `locks`, which are new, and nothing of the other entries. -/
structure Made (id : EntryId) (h h' : Hass O) (locks : List LockCoordinator) : Prop where
  subscribers : h'.subscribers = h.subscribers ++ locks
  own : ∀ c ∈ locks, c.entryId = id ∧ h.nextRef ≤ c.ref ∧ c.ref < h'.nextRef
  nextRef : h.nextRef ≤ h'.nextRef
  others : ∀ i, i ≠ id → h'.data.entries.lookup i = h.data.entries.lookup i
  kept : id ∈ h.data.entries → id ∈ h'.data.entries
  loaded : ∀ i, h'.IsLoaded i ↔ h.IsLoaded i

theorem Same.made (hs : Same h h') : Made id h h' [] where
  subscribers := by rw [hs.subscribers, List.append_nil]
  own := nofun
  nextRef := Nat.le_of_eq hs.nextRef.symm
  others := fun i _ => by rw [hs.entries]
  kept := fun hm => by rwa [hs.entries]
  loaded := hs.loaded

theorem Made.trans {locks₁ locks₂ : List LockCoordinator} (h₁₂ : Made id h₁ h₂ locks₁)
    (h₂₃ : Made id h₂ h₃ locks₂) : Made id h₁ h₃ (locks₁ ++ locks₂) where
  subscribers := by rw [h₂₃.subscribers, h₁₂.subscribers, List.append_assoc]
  own := by
    intro c hc
    rcases List.mem_append.mp hc with hc | hc
    · obtain ⟨hid, hle, hlt⟩ := h₁₂.own c hc
      exact ⟨hid, hle, Nat.lt_of_lt_of_le hlt h₂₃.nextRef⟩
    · obtain ⟨hid, hle, hlt⟩ := h₂₃.own c hc
      exact ⟨hid, Nat.le_trans h₁₂.nextRef hle, hlt⟩
  nextRef := Nat.le_trans h₁₂.nextRef h₂₃.nextRef
  others := fun i hi => (h₂₃.others i hi).trans (h₁₂.others i hi)
  kept := fun hm => h₂₃.kept (h₁₂.kept hm)
  loaded := fun i => (h₂₃.loaded i).trans (h₁₂.loaded i)

theorem made_putRecord (h : Hass O) (id : EntryId) (record : EntryData O) :
    Made id h (h.putRecord id record) [] where
  subscribers := (List.append_nil _).symm
  own := nofun
  nextRef := le_rfl
  others := fun _ hi => AList.lookup_insert_ne hi
  kept := fun _ => (AList.mem_insert _).mpr (.inl rfl)
  loaded := fun _ => Iff.rfl

theorem made_changeRecord (h : Hass O) (id : EntryId) (f : EntryData O → EntryData O) :
    Made id h (h.changeRecord id f) [] := by
  unfold Hass.changeRecord
  split
  · exact made_putRecord h id _
  · exact (Same.refl h).made

theorem lookup_putRecord (h : Hass O) (id : EntryId) (record : EntryData O) :
    (h.putRecord id record).data.entries.lookup id = some record := AList.lookup_insert _

theorem lookup_changeRecord (h : Hass O) (id : EntryId) (f : EntryData O → EntryData O) :
    (h.changeRecord id f).data.entries.lookup id = (h.data.entries.lookup id).map f := by
  unfold Hass.changeRecord
  cases hr : h.data.entries.lookup id with
  | some record => exact lookup_putRecord h id _
  | none => exact hr

theorem connectable_of_features {s : LockSummary} (h : s.features.toBool = true) :
    ∃ b f, s.connectable = .ok b ∧ s.features = .ok f := by
  unfold LockSummary.connectable
  cases hf : s.features with
  | error e =>
    rw [hf] at h
    cases h
  | ok f =>
    split_ifs
    · exact ⟨_, f, rfl, rfl⟩
    · exact ⟨_, f, rfl, rfl⟩

/-- A coordinator is made if its features can be read. -/
theorem newCoordinator_run (id : EntryId) (s : LockSummary) (h : Hass O) :
    (∃ c h', s.features.toBool = true ∧ h'.data = h.data ∧ Made id h h' [c] ∧
      (newCoordinator id s).run (answer w) h = (.ok c, h')) ∨
    ∃ e, s.features.toBool = false ∧ (newCoordinator id s).run (answer w) h = (.error e, h) := by
  unfold newCoordinator
  by_cases hf : s.features.toBool = true
  · obtain ⟨b, f, hb, hf'⟩ := connectable_of_features hf
    rw [hb, hf']
    refine .inl ⟨_, _, rfl, ?_, ?_, rfl⟩
    · rfl
    · exact ⟨rfl, by simp, Nat.le_succ _, fun _ _ => rfl, fun hm => hm, fun _ => Iff.rfl⟩
  · refine .inr ?_
    rw [Bool.not_eq_true] at hf
    cases hc : s.connectable with
    | error e => exact ⟨e, hf, rfl⟩
    | ok b =>
      cases hs : s.features with
      | error e => exact ⟨e, rfl, rfl⟩
      | ok f =>
        rw [hs] at hf
        cases hf

/-- The features of every lock can be read. -/
abbrev AllRead (summaries : List LockSummary) : Prop :=
  ∀ s ∈ summaries, s.features.toBool = true

/-- Coordinators are made up to the first lock whose features cannot be read. -/
theorem newCoordinators_run (id : EntryId) : ∀ (summaries : List LockSummary) (h : Hass O),
    ∃ locks h', h'.data = h.data ∧ Made id h h' locks ∧
      (AllRead summaries ∧ (newCoordinators id summaries).run (answer w) h = (.ok locks, h') ∨
        ¬ AllRead summaries ∧
          ∃ e, (newCoordinators id summaries).run (answer w) h = (.error e, h'))
  | [], h => ⟨[], h, rfl, (Same.refl h).made, .inl ⟨nofun, rfl⟩⟩
  | s :: summaries, h => by
    rw [newCoordinators, run_bind]
    rcases newCoordinator_run (w := w) id s h with ⟨c, h₁, hf, hd₁, hm₁, hrun⟩ | ⟨e, hf, hrun⟩
    · rw [hrun]
      dsimp only
      obtain ⟨locks, h₂, hd₂, hm₂, hall⟩ := newCoordinators_run id summaries h₁
      rw [run_bind]
      refine ⟨c :: locks, h₂, hd₂.trans hd₁, hm₁.trans hm₂, ?_⟩
      rcases hall with ⟨hall, hrun₂⟩ | ⟨hnot, e, hrun₂⟩
      · rw [hrun₂]
        exact .inl ⟨List.forall_mem_cons.mpr ⟨hf, hall⟩, rfl⟩
      · rw [hrun₂]
        exact .inr ⟨fun hall => hnot (List.forall_mem_cons.mp hall).2, e, rfl⟩
    · rw [hrun]
      refine ⟨[], h, rfl, (Same.refl h).made, .inr ⟨fun hall => ?_, e, rfl⟩⟩
      have hs := (List.forall_mem_cons.mp hall).1
      cases hf.symm.trans hs

theorem loadCounter_run (w : Answers) (h : Hass O) : ∃ h', Same h h' ∧
    ((h.data.counter = true ∨ (w .counterLoad).toBool = true) ∧
      loadCounter.run (answer w) h = (.ok (), h') ∨
    ¬ (h.data.counter = true ∨ (w .counterLoad).toBool = true) ∧
      ∃ e, loadCounter.run (answer w) h = (.error e, h')) := by
  unfold loadCounter
  rw [run_bind, run_get]
  dsimp only
  by_cases hc : h.data.counter = true
  · rw [if_pos hc]
    exact ⟨h, .refl h, .inl ⟨.inl hc, rfl⟩⟩
  · rw [if_neg hc, run_bind, request, run_call, answer]
    cases hw : w .counterLoad with
    | error e => exact ⟨h, .refl h, .inr ⟨by simp [hc, Except.toBool], e, rfl⟩⟩
    | ok u =>
      refine ⟨{ h with data := { h.data with counter := true } }, ?_, .inl ⟨.inr rfl, rfl⟩⟩
      exact ⟨rfl, rfl, rfl, fun _ => Iff.rfl⟩

/-- Up to the record of the entry, nothing is left behind. -/
theorem prepare_run (w : Answers) (id : EntryId) (h : Hass O) : ∃ h', Same h h' ∧
    (Prepared w h ∧ (prepare id).run (answer w) h = (.ok (), h') ∨
      ¬ Prepared w h ∧ ∃ e, (prepare id).run (answer w) h = (.error e, h')) := by
  unfold Prepared
  cases hw : w .implementation with
  | error e =>
    refine ⟨h, .refl h, .inr ⟨fun hp => Bool.false_ne_true hp.1, e, ?_⟩⟩
    rw [prepare, run_bind, request, run_call, answer, hw]
  | ok u =>
    let h₁ : Hass O := h.addUpdateListener id
    let h₂ : Hass O := { h₁ with data := { h₁.data with capture := true, store := true } }
    have hrun : (prepare id).run (answer w) h = loadCounter.run (answer w) h₂ := by
      rw [prepare, run_bind, request, run_call, answer, hw]
      rfl
    have hs : Same h h₂ :=
      (same_addUpdateListener h id).trans ⟨rfl, rfl, rfl, fun _ => Iff.rfl⟩
    obtain ⟨h', hs', hcases⟩ := loadCounter_run w h₂
    rw [hrun]
    refine ⟨h', hs.trans hs', ?_⟩
    rcases hcases with ⟨hc, hok⟩ | ⟨hc, herr⟩
    · exact .inl ⟨⟨rfl, hc⟩, hok⟩
    · exact .inr ⟨fun hp => hc hp.2, herr⟩

/-- The locks of an entry, behind its record. -/
theorem setUpLocks_run (w : Answers) (id : EntryId) {h : Hass O} (hm : id ∈ h.data.entries) :
    ∃ locks h', Made id h h' locks ∧
      ((∃ summaries, w .getLocks = .ok summaries ∧ AllRead summaries) ∧ h'.locksOf id = locks ∧
        (setUpLocks id).run (answer w) h = (.ok locks, h') ∨
      ¬ (∃ summaries, w .getLocks = .ok summaries ∧ AllRead summaries) ∧
        ∃ e, (setUpLocks id).run (answer w) h = (.error e, h')) := by
  unfold setUpLocks
  rw [run_bind, request, run_call, answer]
  cases hw : w .getLocks with
  | error e => exact ⟨[], h, (Same.refl h).made, .inr ⟨nofun, e, rfl⟩⟩
  | ok summaries =>
    dsimp only
    obtain ⟨locks, h₁, hd, hmade, hall⟩ := newCoordinators_run (w := w) id summaries h
    rw [run_bind]
    rcases hall with ⟨hall, hrun⟩ | ⟨hnot, e, hrun⟩
    · rw [hrun]
      let f : EntryData O → EntryData O := fun record => { record with locks := some locks }
      have hlocks := hmade.trans (made_changeRecord h₁ id f)
      rw [List.append_nil] at hlocks
      refine ⟨locks, h₁.changeRecord id f, hlocks, .inl ⟨⟨summaries, rfl, hall⟩, ?_, rfl⟩⟩
      obtain ⟨record, hr⟩ := Option.isSome_iff_exists.mp (AList.lookup_isSome.mpr hm)
      rw [Hass.locksOf, lookup_changeRecord, hd, hr]
      rfl
    · rw [hrun]
      refine ⟨locks, h₁, hmade, .inr ⟨?_, e, rfl⟩⟩
      rintro ⟨summaries', hs, hall⟩
      cases hs
      exact hnot hall

/-- The calls behind the locks. -/
def RestSucceeds (w : Answers) : Prop :=
  (w .gatewaysFirstRefresh).toBool = true ∧ (w .webhookSetup).toBool = true ∧
    (w .forwardEntrySetups).toBool = true

theorem locksOf_changeRecord (h : Hass O) (id i : EntryId) {f : EntryData O → EntryData O}
    (hf : ∀ record, (f record).locks = record.locks) :
    (h.changeRecord id f).locksOf i = h.locksOf i := by
  unfold Hass.locksOf
  by_cases hi : i = id
  · subst hi
    rw [lookup_changeRecord]
    cases h.data.entries.lookup i with
    | none => rfl
    | some record => exact congrArg (Option.getD · []) (hf record)
  · rw [(made_changeRecord h id f).others i hi]

theorem setUpRest_run (w : Answers) (id : EntryId) (locks : List LockCoordinator) (h : Hass O) :
    ∃ h', Made id h h' [] ∧ (∀ i, h'.locksOf i = h.locksOf i) ∧
      (RestSucceeds w ∧ (setUpRest id locks).run (answer w) h = (.ok (), h') ∨
        ¬ RestSucceeds w ∧ ∃ e, (setUpRest id locks).run (answer w) h = (.error e, h')) := by
  let h₁ : Hass O := locks.foldl (fun h c => startBleTracking id c h) h
  let f : EntryData O → EntryData O := fun record => { record with gateways := true }
  let h₂ : Hass O := h₁.changeRecord id f
  have hs₁ : Same h h₁ := same_foldl_startBleTracking id locks h
  have hm₂ : Made id h h₂ [] := hs₁.made.trans (made_changeRecord h₁ id _)
  have hl₂ : ∀ i, h₂.locksOf i = h.locksOf i := fun i =>
    (locksOf_changeRecord (f := f) h₁ id i fun _ => rfl).trans (hs₁.locksOf i)
  unfold setUpRest RestSucceeds
  rw [run_bind, run_modify]
  dsimp only
  rw [run_bind, request, run_call, answer]
  cases w .gatewaysFirstRefresh with
  | error e => exact ⟨h₁, hs₁.made, hs₁.locksOf, .inr ⟨fun hr => Bool.false_ne_true hr.1, e, rfl⟩⟩
  | ok u =>
    dsimp only
    rw [run_bind, run_modify]
    dsimp only
    rw [run_bind, request, run_call, answer]
    cases w .webhookSetup with
    | error e => exact ⟨h₂, hm₂, hl₂, .inr ⟨fun hr => Bool.false_ne_true hr.2.1, e, rfl⟩⟩
    | ok u =>
      dsimp only
      rw [request, run_call, answer]
      cases w .forwardEntrySetups with
      | error e => exact ⟨h₂, hm₂, hl₂, .inr ⟨fun hr => Bool.false_ne_true hr.2.2, e, rfl⟩⟩
      | ok u => exact ⟨h₂, hm₂, hl₂, .inl ⟨⟨rfl, rfl, rfl⟩, rfl⟩⟩

theorem completes_iff : Completes w ↔
    (∃ summaries, w .getLocks = .ok summaries ∧ AllRead summaries) ∧ RestSucceeds w :=
  ⟨fun h => ⟨h.locks, h.gateways, h.webhook, h.platforms⟩, fun h => ⟨h.1, h.2.1, h.2.2.1, h.2.2.2⟩⟩

/-- **What a setup can come to.** -/
inductive SetUp (w : Answers) (id : EntryId) (h : Hass O) : Except PyError Bool × Hass O → Prop
  | refused {e : PyError} {h' : Hass O} : ¬ Prepared w h → Same h h' → SetUp w id h (.error e, h')
  | broken {e : PyError} {h' : Hass O} {locks : List LockCoordinator} : Prepared w h →
      ¬ Completes w → Made id h h' locks → id ∈ h'.data.entries → SetUp w id h (.error e, h')
  | done {h' : Hass O} {locks : List LockCoordinator} : Completes w → Made id h h' locks →
      id ∈ h'.data.entries → h'.locksOf id = locks → SetUp w id h (.ok true, h')

theorem asyncSetupEntry_run (w : Answers) (id : EntryId) (h : Hass O) :
    SetUp w id h ((asyncSetupEntry id).run (answer w) h) := by
  unfold asyncSetupEntry
  rw [run_bind]
  obtain ⟨h₁, hs₁, ⟨hp, hrun⟩ | ⟨hp, e, hrun⟩⟩ := prepare_run w id h
  · rw [hrun]
    dsimp only
    rw [run_bind, run_modify]
    dsimp only
    let h₂ : Hass O := h₁.putRecord id ⟨(h₁.entries id).options, none, false⟩
    have hm₂ : Made id h h₂ [] := hs₁.made.trans (made_putRecord h₁ id _)
    have hin : id ∈ h₂.data.entries := (AList.mem_insert _).mpr (.inl rfl)
    obtain ⟨locks, h₃, hm₃, hcases⟩ := setUpLocks_run w id hin
    have hmade : Made id h h₃ locks := hm₂.trans hm₃
    rw [run_bind]
    rcases hcases with ⟨hread, hlocks, hrun₃⟩ | ⟨hread, e, hrun₃⟩
    · rw [hrun₃]
      dsimp only
      rw [run_bind]
      obtain ⟨h₄, hm₄, hl₄, ⟨hrest, hrun₄⟩ | ⟨hrest, e, hrun₄⟩⟩ := setUpRest_run w id locks h₃
      · have hall := hmade.trans hm₄
        rw [List.append_nil] at hall
        rw [hrun₄]
        exact .done (completes_iff.mpr ⟨hread, hrest⟩) hall (hm₄.kept (hm₃.kept hin))
          ((hl₄ id).trans hlocks)
      · rw [hrun₄]
        exact .broken hp (fun hc => hrest (completes_iff.mp hc).2) (hmade.trans hm₄)
          (hm₄.kept (hm₃.kept hin))
    · rw [hrun₃]
      exact .broken hp (fun hc => hread (completes_iff.mp hc).1) hmade (hm₃.kept hin)
  · rw [hrun]
    exact .refused hp hs₁

/-! ### One step -/

/-- Whose the coordinators are, and that none has the reference of a later one. -/
structure Owned (h : Hass O) : Prop where
  owner : ∀ id, h.IsLoaded id → ∀ c ∈ h.locksOf id, c.entryId = id
  old : ∀ c ∈ h.subscribers, c.ref < h.nextRef

theorem isLoaded_setState (h : Hass O) (id i : EntryId) (state : EntryState) :
    (h.setState id state).IsLoaded i ↔
      if i = id then state = .loaded ∨ state = .failedUnload else h.IsLoaded i := by
  unfold Hass.IsLoaded Hass.setState Hass.updateEntry
  dsimp only
  split_ifs with hi
  · rw [hi, Function.update_self]
  · rw [Function.update_of_ne hi]

/-- An entry gets a state that is as much loaded as it is. -/
theorem same_setState {state : EntryState}
    (hstate : (state = .loaded ∨ state = .failedUnload) ↔ h.IsLoaded id) :
    Same h (h.setState id state) := by
  refine ⟨rfl, rfl, rfl, fun i => ?_⟩
  rw [isLoaded_setState]
  split_ifs with hi
  · rw [hi]
    exact hstate
  · rfl

theorem Same.owned (hs : Same h h') (ho : Owned h) : Owned h' := by
  refine ⟨fun id hl c hc => ?_, fun c hc => ?_⟩
  · rw [hs.locksOf] at hc
    exact ho.owner id ((hs.loaded id).mp hl) c hc
  · rw [hs.subscribers] at hc
    rw [hs.nextRef]
    exact ho.old c hc

/-- **What Home Assistant makes of a setup.** -/
inductive Loads (w : Answers) (id : EntryId) (h h' : Hass O) : Prop
  | refused : ¬ Prepared w h → Same h h' → Loads w id h h'
  | broken {locks : List LockCoordinator} : Prepared w h → ¬ Completes w →
      Made id h h' locks → id ∈ h'.data.entries → Loads w id h h'
  | done {h₁ : Hass O} : Completes w → Made id h h₁ (h₁.locksOf id) → id ∈ h₁.data.entries →
      h' = h₁.setState id .loaded → Loads w id h h'

/-- A setup that fails leaves what it has made. -/
theorem same_setupFailed (cleans : PyError → Bool) (e : PyError) (hn : ¬ h.IsLoaded id) :
    Same h ((if cleans e then h.processOnUnload id else h).setState id .setupFailed) := by
  have hs : Same h (if cleans e then h.processOnUnload id else h) := by
    split_ifs
    · exact same_processOnUnload h id
    · exact .refl h
  refine hs.trans (same_setState ?_)
  rw [hs.loaded]
  exact iff_of_false (by simp) hn

theorem asyncSetup_loads (cleans : PyError → Bool) (w : Answers) (hn : ¬ h.IsLoaded id) :
    Loads w id h (asyncSetup cleans w id h) := by
  have hrun := asyncSetupEntry_run w id h
  unfold asyncSetup
  generalize (asyncSetupEntry id).run (answer w) h = out at hrun
  cases hrun with
  | @refused e _ hp hs =>
    exact .refused hp (hs.trans (same_setupFailed cleans e (mt (hs.loaded id).mp hn)))
  | @broken e _ _ hp hc hm hin =>
    have hs := same_setupFailed cleans e (mt (hm.loaded id).mp hn)
    have hmade := hm.trans hs.made
    refine .broken hp hc hmade ?_
    dsimp only
    rw [hs.entries]
    exact hin
  | done hc hm hin hl => exact .done hc (hl ▸ hm) hin rfl

section Step
variable {c : LockCoordinator} {locks : List LockCoordinator} {r : Bool × Hass O}

theorem Made.locksOf (hm : Made id h h' locks) (hi : i ≠ id) : h'.locksOf i = h.locksOf i := by
  unfold Hass.locksOf
  rw [hm.others i hi]

theorem Made.mem (hm : Made id h h' locks) (hi : i ≠ id) :
    i ∈ h'.data.entries ↔ i ∈ h.data.entries := by
  rw [← AList.lookup_isSome, ← AList.lookup_isSome, hm.others i hi]

theorem ne_of_isLoaded (hn : ¬ h.IsLoaded id) (hl : h.IsLoaded i) : i ≠ id := by
  rintro rfl
  exact hn hl

/-- **A setup leaves things balanced if it is allowed.** -/
theorem balanced_setup_iff (hb : Balanced h) (hn : ¬ h.IsLoaded id) (hl : Loads w id h h') :
    Balanced h' ↔ SetupAllowed w h := by
  cases hl with
  | refused hp hs => exact iff_of_true (hs.balanced hb) fun hp' => absurd hp' hp
  | broken hp hc hm hin =>
    refine iff_of_false (fun hb' => hn ?_) fun hall => hc (hall hp)
    rw [← hm.loaded]
    exact (hb'.records id).mp hin
  | @done h₁ hc hm hin heq =>
    subst heq
    refine iff_of_true (balanced_of (fun c => ?_) fun i => ?_) fun _ => hc
    · change c ∈ h₁.subscribers ↔ ∃ i, _ ∧ c ∈ h₁.locksOf i
      rw [hm.subscribers, List.mem_append, hb.subscribers]
      constructor
      · rintro (⟨i, hi, hci⟩ | hcid)
        · have hne := ne_of_isLoaded hn hi
          refine ⟨i, ?_, by rwa [hm.locksOf hne]⟩
          rw [isLoaded_setState, if_neg hne, hm.loaded]
          exact hi
        · refine ⟨id, ?_, hcid⟩
          rw [isLoaded_setState, if_pos rfl]
          exact .inl rfl
      · rintro ⟨i, hi, hci⟩
        by_cases hne : i = id
        · exact .inr (hne ▸ hci)
        · rw [isLoaded_setState, if_neg hne, hm.loaded] at hi
          exact .inl ⟨i, hi, by rwa [← hm.locksOf hne]⟩
    · change i ∈ h₁.data.entries ↔ _
      rw [isLoaded_setState]
      split_ifs with hi
      · rw [hi]
        exact iff_of_true hin (.inl rfl)
      · rw [hm.mem hi, hm.loaded]
        exact hb.records i

theorem Loads.owned (ho : Owned h) (hn : ¬ h.IsLoaded id) (hl : Loads w id h h') : Owned h' := by
  have hold {h₁ : Hass O} {locks : List LockCoordinator} (hm : Made id h h₁ locks) :
      ∀ c ∈ h₁.subscribers, c.ref < h₁.nextRef := by
    intro c hc
    rw [hm.subscribers] at hc
    rcases List.mem_append.mp hc with hc | hc
    · exact Nat.lt_of_lt_of_le (ho.old c hc) hm.nextRef
    · exact (hm.own c hc).2.2
  cases hl with
  | refused hp hs => exact hs.owned ho
  | broken hp hc hm hin =>
    refine ⟨fun i hi c hci => ?_, hold hm⟩
    rw [hm.loaded] at hi
    rw [hm.locksOf (ne_of_isLoaded hn hi)] at hci
    exact ho.owner i hi c hci
  | @done h₁ hc hm hin heq =>
    subst heq
    have hrefs := hold hm
    refine ⟨fun i hi c hci => ?_, hrefs⟩
    change c ∈ h₁.locksOf i at hci
    by_cases hne : i = id
    · subst hne
      exact (hm.own c hci).1
    · rw [isLoaded_setState, if_neg hne, hm.loaded] at hi
      rw [hm.locksOf hne] at hci
      exact ho.owner i hi c hci

/-- A subscriber that an entry has left behind stays with the next setup of the entry. -/
theorem not_balanced_of_left (ho : Owned h) (hn : ¬ h.IsLoaded id) (hc : c ∈ h.subscribers)
    (hid : c.entryId = id) (hl : Loads w id h h') : ¬ Balanced h' := by
  intro hb'
  have hleft {h₁ : Hass O} {locks : List LockCoordinator} {i : EntryId}
      (hm : Made id h h₁ locks) (hi : h.IsLoaded i) (hci : c ∈ h₁.locksOf i) : False := by
    have hne := ne_of_isLoaded hn hi
    rw [hm.locksOf hne] at hci
    exact hne ((ho.owner i hi c hci).symm.trans hid)
  cases hl with
  | refused hp hs =>
    rw [← hs.subscribers] at hc
    obtain ⟨i, hi, hci⟩ := (hb'.subscribers c).mp hc
    exact hleft hs.made ((hs.loaded i).mp hi) hci
  | broken hp hnot hm hin =>
    have hc' : c ∈ h'.subscribers := by
      rw [hm.subscribers]
      exact List.mem_append_left _ hc
    obtain ⟨i, hi, hci⟩ := (hb'.subscribers c).mp hc'
    exact hleft hm ((hm.loaded i).mp hi) hci
  | @done h₁ hcomp hm hin heq =>
    subst heq
    have hc' : c ∈ h₁.subscribers := by
      rw [hm.subscribers]
      exact List.mem_append_left _ hc
    obtain ⟨i, hi, hci⟩ := (hb'.subscribers c).mp hc'
    change c ∈ h₁.locksOf i at hci
    by_cases hne : i = id
    · -- the coordinators of the setup are new
      subst hne
      exact absurd (ho.old c hc) (Nat.not_lt.mpr (hm.own c hci).2.1)
    · rw [isLoaded_setState, if_neg hne, hm.loaded] at hi
      exact hleft hm hi hci

/-- **What Home Assistant makes of an unload.** -/
inductive Unloads (w : Answers) (id : EntryId) (h : Hass O) : Bool × Hass O → Prop
  | kept {b : Bool} {h' : Hass O} :
      ((h.entries id).state = .loaded → w .unloadPlatforms ≠ .ok true) → Same h h' →
      (b = true → ¬ h.IsLoaded id) → Unloads w id h (b, h')
  | unloaded {h' : Hass O} : (h.entries id).state = .loaded → w .unloadPlatforms = .ok true →
      h'.subscribers = h.subscribers → h'.nextRef = h.nextRef →
      h'.data.entries = h.data.entries.erase id →
      (∀ i, h'.IsLoaded i ↔ i ≠ id ∧ h.IsLoaded i) → Unloads w id h (true, h')

theorem asyncUnload_unloads (w : Answers) (hin : h.IsLoaded id → id ∈ h.data.entries) :
    Unloads w id h (asyncUnload w id h) := by
  unfold asyncUnload
  cases hstate : (h.entries id).state with
  | notLoaded =>
    have hn : ¬ h.IsLoaded id := by simp [Hass.IsLoaded, hstate]
    refine .kept (fun hl => ?_) (same_setState (iff_of_false (by simp) hn)) fun _ => hn
    cases hstate.symm.trans hl
  | setupFailed =>
    have hn : ¬ h.IsLoaded id := by simp [Hass.IsLoaded, hstate]
    refine .kept (fun hl => ?_) (same_setState (iff_of_false (by simp) hn)) fun _ => hn
    cases hstate.symm.trans hl
  | failedUnload =>
    refine .kept (fun hl => ?_) (.refl h) nofun
    cases hstate.symm.trans hl
  | loaded =>
    have hl : h.IsLoaded id := .inl hstate
    have hfailed : Same h (h.setState id .failedUnload) :=
      same_setState (iff_of_true (.inr rfl) hl)
    dsimp only
    rw [asyncUnloadEntry, run_bind, request, run_call, answer]
    cases hw : w .unloadPlatforms with
    | error e => exact .kept (fun _ h => by rw [hw] at h; cases h) hfailed nofun
    | ok unloadOk =>
      cases unloadOk with
      | false => exact .kept (fun _ h => by rw [hw] at h; cases h) hfailed nofun
      | true =>
        dsimp only
        rw [run_bind, run_get]
        dsimp only
        rw [if_pos rfl, if_pos (hin hl)]
        have hs := same_processOnUnload (dropRecord h id) id
        refine .unloaded hstate hw hs.subscribers hs.nextRef hs.entries fun i => ?_
        rw [isLoaded_setState]
        split_ifs with hi
        · exact iff_of_false (by simp) fun h => h.1 hi
        · rw [hs.loaded]
          exact (and_iff_right hi).symm

section Unload
variable {r : Bool × Hass O}

theorem locksOf_erase (he : h'.data.entries = h.data.entries.erase id) (hi : i ≠ id) :
    h'.locksOf i = h.locksOf i := by
  unfold Hass.locksOf
  rw [he, AList.lookup_erase_ne hi]

theorem Unloads.owned (ho : Owned h) (hu : Unloads w id h r) : Owned r.2 := by
  cases hu with
  | kept _ hs _ => exact hs.owned ho
  | unloaded _ _ hsub href he hl =>
    refine ⟨fun i hi c hc => ?_, fun c hc => ?_⟩
    · obtain ⟨hne, hi⟩ := (hl i).mp hi
      rw [locksOf_erase he hne] at hc
      exact ho.owner i hi c hc
    · dsimp only at hc ⊢
      rw [hsub] at hc
      rw [href]
      exact ho.old c hc

/-- **An unload leaves things balanced if it is allowed**; otherwise it leaves a subscriber behind. -/
theorem balanced_unload (ho : Owned h) (hb : Balanced h) (hu : Unloads w id h r) :
    UnloadAllowed w h id ∧ Balanced r.2 ∨
      ¬ UnloadAllowed w h id ∧ r.1 = true ∧ ∃ c ∈ r.2.subscribers, c.entryId = id := by
  cases hu with
  | kept hw hs _ => exact .inl ⟨fun hstate hok => absurd hok (hw hstate), hs.balanced hb⟩
  | @unloaded h' hstate hw hsub href he hl =>
    have hload : h.IsLoaded id := .inl hstate
    by_cases hlocks : h.locksOf id = []
    · refine .inl ⟨fun _ _ => hlocks, balanced_of (fun c => ?_) fun i => ?_⟩
      · dsimp only
        rw [hsub, hb.subscribers]
        refine exists_congr fun i => ?_
        rw [hl]
        by_cases hi : i = id
        · subst hi
          rw [hlocks]
          simp
        · rw [locksOf_erase he hi]
          simp [hi]
      · dsimp only
        rw [he, AList.mem_erase, hl, hb.records]
    · obtain ⟨c, hc⟩ := List.exists_mem_of_ne_nil _ hlocks
      refine .inr ⟨fun hall => hlocks (hall hstate hw), rfl, c, ?_, ho.owner id hload c hc⟩
      dsimp only
      rw [hsub]
      exact (hb.subscribers c).mpr ⟨id, hload, hc⟩

theorem Unloads.not_loaded (hu : Unloads w id h r) (hr : r.1 = true) : ¬ r.2.IsLoaded id := by
  cases hu with
  | kept _ hs hn =>
    rw [hs.loaded]
    exact hn hr
  | unloaded _ _ _ _ _ hl => exact fun h => ((hl id).mp h).1 rfl

end Unload

end Step

theorem asyncReload_spec (cleans : PyError → Bool) (w : Answers) (id : EntryId) (ho : Owned h)
    (hb : Balanced h) : Owned (asyncReload cleans w id h) ∧
      (Balanced (asyncReload cleans w id h) ↔ ReloadAllowed w h id) := by
  have hu := asyncUnload_unloads w (hb.records id).mpr
  have ho₁ := hu.owned ho
  have hcases := balanced_unload ho hb hu
  have hnot := hu.not_loaded
  unfold asyncReload ReloadAllowed
  generalize asyncUnload w id h = out at ho₁ hcases hnot
  obtain ⟨again, h₁⟩ := out
  cases again with
  | false =>
    refine ⟨ho₁, ?_⟩
    rcases hcases with ⟨hall, hb₁⟩ | ⟨-, hagain, -⟩
    · exact iff_of_true hb₁ ⟨hall, nofun⟩
    · cases hagain
  | true =>
    have hn₁ := hnot rfl
    have hl := asyncSetup_loads cleans w hn₁
    refine ⟨hl.owned ho₁ hn₁, ?_⟩
    rcases hcases with ⟨hall, hb₁⟩ | ⟨hall, -, c, hc, hid⟩
    · refine (balanced_setup_iff hb₁ hn₁ hl).trans ?_
      exact ⟨fun hs => ⟨hall, fun _ => hs⟩, fun h => h.2 rfl⟩
    · exact iff_of_false (not_balanced_of_left ho₁ hn₁ hc hid hl) fun h => hall h.1

theorem balanced_booted (options : EntryId → O) (bluetooth : Bool) :
    Balanced (booted options bluetooth) := by
  have hn : ∀ id, ¬ (booted options bluetooth).IsLoaded id := by simp [Hass.IsLoaded, booted]
  refine balanced_of (fun c => iff_of_false List.not_mem_nil ?_) fun id => ?_
  · rintro ⟨id, hl, -⟩
    exact hn id hl
  · exact iff_of_false (AList.notMem_empty id) (hn id)

theorem owned_booted (options : EntryId → O) (bluetooth : Bool) : Owned (booted options bluetooth) :=
  ⟨fun id hl => by simp [Hass.IsLoaded, booted] at hl, nofun⟩

section Run
variable [DecidableEq O] {cleans : PyError → Bool} {e : EntryEvent O}

/-- **What a step does.** -/
theorem step_spec (ho : Owned h) (hb : Balanced h) (hs : step cleans h e = some h') :
    Owned h' ∧ (Balanced h' ↔ Allowed h e) := by
  cases e with
  | setup id w =>
    simp only [step] at hs
    split_ifs at hs with hstate
    obtain rfl := Option.some.inj hs
    have hn : ¬ h.IsLoaded id := by
      unfold Hass.IsLoaded
      rcases hstate with hstate | hstate
      · simp [hstate]
      · simp [hstate]
    have hl := asyncSetup_loads cleans w hn
    exact ⟨hl.owned ho hn, balanced_setup_iff hb hn hl⟩
  | unload id w =>
    obtain rfl := Option.some.inj hs
    have hu := asyncUnload_unloads w (hb.records id).mpr
    refine ⟨hu.owned ho, ?_⟩
    rcases balanced_unload ho hb hu with ⟨hall, hb'⟩ | ⟨hall, hagain, c, hc, hid⟩
    · exact iff_of_true hb' hall
    · refine iff_of_false (fun hb' => ?_) hall
      obtain ⟨i, hi, hci⟩ := (hb'.subscribers c).mp hc
      have howner := (hu.owned ho).owner i hi c hci
      exact hu.not_loaded hagain (hid.symm.trans howner ▸ hi)
  | reload id w =>
    obtain rfl := Option.some.inj hs
    exact asyncReload_spec cleans w id ho hb
  | updated id options w =>
    obtain rfl := Option.some.inj hs
    let h₁ : Hass O := h.updateEntry id fun e => { e with options := options }
    have hsame : Same h h₁ := same_updateEntry h id _ fun _ => rfl
    have hspec := asyncReload_spec cleans w id (hsame.owned ho) (hsame.balanced hb)
    change Owned (if optionsChanged h₁ id then asyncReload cleans w id h₁ else h₁) ∧
      (Balanced (if optionsChanged h₁ id then asyncReload cleans w id h₁ else h₁) ↔
        (optionsChanged h₁ id = true → ReloadAllowed w h₁ id))
    split_ifs with hchanged
    · exact ⟨hspec.1, hspec.2.trans ⟨fun h _ => h, fun h => h hchanged⟩⟩
    · exact ⟨hsame.owned ho, iff_of_true (hsame.balanced hb) fun h => absurd h hchanged⟩

/-- **Loading and leaving are balanced after every step of a run exactly if every step is allowed.** -/
theorem run_balanced_iff {options : EntryId → O} {bluetooth : Bool}
    {τ : List (Move (Hass O) (EntryEvent O))}
    (hr : Run (step cleans) (booted options bluetooth) τ h) :
    (∀ m ∈ τ, Balanced m.dst) ↔ ∀ m ∈ τ, Allowed m.src m.label :=
  hr.good_iff Owned Balanced Allowed (owned_booted options bluetooth)
    (balanced_booted options bluetooth) (fun _ _ _ ho hb hs => (step_spec ho hb hs).1)
    fun _ _ _ ho hb hs => (step_spec ho hb hs).2

end Run

/-! ### Sample runs -/

/-- Every call succeeds, for an account with these locks. -/
def succeeding (summaries : List LockSummary) : Answers
  | .getLocks => .ok summaries
  | .unloadPlatforms => .ok true
  | .implementation | .counterLoad | .gatewaysFirstRefresh | .webhookSetup
  | .forwardEntrySetups => .ok ()

def frontDoor : LockSummary := ⟨1, "C0:FF:EE:00:00:01", some "0", 1⟩

theorem completes_succeeding {summaries : List LockSummary} (hall : AllRead summaries) :
    Completes (succeeding summaries) := ⟨⟨summaries, rfl, hall⟩, rfl, rfl, rfl⟩

abbrev movesOf (events : List (EntryEvent Unit)) : List (Move (Hass Unit) (EntryEvent Unit)) :=
  (play (step fun _ => true) (booted (fun _ => ()) false) events).1

/-- An account with one lock, set up and unloaded. -/
def unloaded : List (EntryEvent Unit) :=
  [.setup "a" (succeeding [frontDoor]), .unload "a" (succeeding [])]

/-- **A coordinator stays subscribed when its entry is unloaded.** -/
theorem unloaded_notBalanced : ¬ ∀ (cleans : PyError → Bool) (bluetooth : Bool) (h : Hass Unit)
    (τ : List (Move (Hass Unit) (EntryEvent Unit))),
      Run (step cleans) (booted (fun _ => ()) bluetooth) τ h → ∀ m ∈ τ, Balanced m.dst := by
  intro hall
  have hleft : ∃ m ∈ movesOf unloaded, m.dst.subscribers ≠ [] ∧ m.dst.data.entries.keys = [] := by
    decide +kernel
  obtain ⟨m, hm, hsub, hkeys⟩ := hleft
  obtain ⟨c, hc⟩ := List.exists_mem_of_ne_nil _ hsub
  have hb := hall (fun _ => true) false _ _ (run_play _ unloaded) m hm
  obtain ⟨id, hl, -⟩ := (hb.subscribers c).mp hc
  have hin := (hb.records id).mpr hl
  rw [AList.mem_keys, hkeys] at hin
  cases hin

/-- Two accounts, the second after a setup that is refused. -/
def twoAccounts : List (EntryEvent Unit) :=
  [.setup "a" (succeeding [frontDoor]), .setup "b" fun _ => .error .valueError,
    .setup "b" (succeeding [frontDoor])]

/-- Both coordinators are subscribed. -/
theorem run_balanced_twoAccounts :
    ((movesOf twoAccounts).map fun m => m.dst.subscribers.length) = [1, 1, 2] ∧
      ∀ m ∈ movesOf twoAccounts, Balanced m.dst := by
  refine ⟨by decide +kernel, (run_balanced_iff (run_play _ twoAccounts)).mpr fun m hm => ?_⟩
  have hmem := label_of_mem_play hm
  have hread : AllRead [frontDoor] := by decide +kernel
  simp only [twoAccounts, List.mem_cons, List.not_mem_nil, or_false] at hmem
  rcases hmem with hl | hl | hl
  · rw [hl]
    exact fun _ => completes_succeeding hread
  · rw [hl]
    exact fun hp => absurd hp.1 Bool.false_ne_true
  · rw [hl]
    exact fun _ => completes_succeeding hread

end TTLockConnect.Setup.Balance
