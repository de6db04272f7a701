import TTLockConnect.Async.Matching
import TTLockConnect.Setup.Reload

/-! # One entry among all entries

`async_setup_entry` and `async_unload_entry` are modelled twice: `Entries` has all entries with what
they leave in Home Assistant, and `Reload` one entry with what its listener looks at. The entry is a
view of Home Assistant, and the coroutines do the same to both: they await the same, and go on alike
wherever the two are alike. So each step of `Entries` is, to an entry, a job of `Reload` that runs
alone. -/

namespace TTLockConnect.Setup.Views

open TTLockConnect.Text TTLockConnect.Models TTLockConnect.Setup.Entries TTLockConnect.Setup.Reload
open TTLockConnect.Async.Coroutine TTLockConnect.Async.Coroutine.Coro TTLockConnect.Async.Runs
open TTLockConnect.Async.Mutex TTLockConnect.Async.Matching
open TTLockConnect.Async.TwoRuns (Agree agree_eq)

variable {O : Type}

/-! ### The view -/

/-- What the entry itself shows; each listener has its callback. -/
structure ShowsEntry (c : ConfigEntry O) (e : Entry O) : Prop where
  state : e.state = c.state
  options : e.options = c.options
  updateListeners : e.updateListeners = c.updateListeners
  callbacks : c.onUnload.count .removeUpdateListener = c.updateListeners

/-- What `hass.data[DOMAIN]` shows of the entry. -/
structure ShowsData (id : EntryId) (d : DomainData O) (e : Entry O) : Prop where
  counter : e.counter = d.counter
  others : e.others = true ↔ ∃ i ≠ id, i ∈ d.entries
  snapshot : e.optionsSnapshot = (d.entries.lookup id).map EntryData.options
  built : ∀ record ∈ d.entries.lookup id, e.built.isSome = record.locks.isSome

/-- **The entry as a view of Home Assistant.** -/
structure Shows (id : EntryId) (h : Hass O) (e : Entry O) : Prop where
  entry : ShowsEntry (h.entries id) e
  data : ShowsData id h.data e

variable {id : EntryId} {h : Hass O} {e : Entry O} {t : Guarded (Entry O)}

/-- What else the entry knows does not matter. -/
theorem ShowsEntry.congr {c : ConfigEntry O} {e' : Entry O} (h : ShowsEntry c e)
    (hstate : e'.state = e.state) (hoptions : e'.options = e.options)
    (hlisteners : e'.updateListeners = e.updateListeners) : ShowsEntry c e' where
  state := hstate.trans h.state
  options := hoptions.trans h.options
  updateListeners := hlisteners.trans h.updateListeners
  callbacks := h.callbacks

theorem entries_updateEntry (h : Hass O) (id : EntryId) (f : ConfigEntry O → ConfigEntry O) :
    (h.updateEntry id f).entries id = f (h.entries id) := Function.update_self _ _ _

theorem Shows.addUpdateListener (hs : Shows id h e) :
    Shows id (h.addUpdateListener id) { e with updateListeners := e.updateListeners + 1 } := by
  refine ⟨?_, hs.data.counter, hs.data.others, hs.data.snapshot, hs.data.built⟩
  unfold Hass.addUpdateListener Hass.asyncOnUnload
  rw [entries_updateEntry, entries_updateEntry]
  refine ⟨hs.entry.state, hs.entry.options, congrArg (· + 1) hs.entry.updateListeners, ?_⟩
  dsimp only
  rw [List.count_append, hs.entry.callbacks]
  rfl

theorem Shows.asyncOnUnload (hs : Shows id h e) {u : OnUnload} (hu : u ≠ .removeUpdateListener) :
    Shows id (h.asyncOnUnload id u) e := by
  refine ⟨?_, hs.data⟩
  unfold Hass.asyncOnUnload
  rw [entries_updateEntry]
  refine ⟨hs.entry.state, hs.entry.options, hs.entry.updateListeners, ?_⟩
  dsimp only
  rw [List.count_append, hs.entry.callbacks, List.count_singleton, if_neg (by simpa using hu)]
  rfl

theorem Shows.startBleTracking (hs : Shows id h e) (c : LockCoordinator) :
    Shows id (startBleTracking id c h) e := by
  unfold Entries.startBleTracking
  split_ifs
  · have htracked : Shows id { h with tracked := h.tracked ++ [c] } e := ⟨hs.entry, hs.data⟩
    exact htracked.asyncOnUnload nofun
  · exact hs.asyncOnUnload nofun

theorem Shows.track (hs : Shows id h e) (locks : List LockCoordinator) :
    Shows id (locks.foldl (fun h c => Entries.startBleTracking id c h) h) e := by
  induction locks generalizing h with
  | nil => exact hs
  | cons c locks ih => exact ih (hs.startBleTracking c)

theorem Shows.putRecord (hs : Shows id h e) (record : EntryData O) {built : Option O}
    (hbuilt : built.isSome = record.locks.isSome) :
    Shows id (h.putRecord id record)
      { e with optionsSnapshot := some record.options, built := built } := by
  have hlookup : (h.putRecord id record).data.entries.lookup id = some record :=
    AList.lookup_insert h.data.entries
  refine ⟨hs.entry.congr rfl rfl rfl, hs.data.counter, ?_, ?_, ?_⟩
  · refine hs.data.others.trans (exists_congr fun i => and_congr_right fun hi => ?_)
    exact ((AList.mem_insert h.data.entries).trans (or_iff_right hi)).symm
  · rw [hlookup]
    rfl
  · rw [hlookup]
    rintro record' ⟨⟩
    exact hbuilt

theorem Shows.changeRecord (hs : Shows id h e) {f : EntryData O → EntryData O} {built : Option O}
    (hoptions : ∀ record, (f record).options = record.options)
    (hbuilt : ∀ record ∈ h.data.entries.lookup id, built.isSome = (f record).locks.isSome) :
    Shows id (h.changeRecord id f) { e with built := built } := by
  unfold Hass.changeRecord
  have hsnapshot := hs.data.snapshot
  cases hrecord : h.data.entries.lookup id with
  | none =>
    refine ⟨hs.entry.congr rfl rfl rfl, hs.data.counter, hs.data.others, hs.data.snapshot,
      fun record hmem => ?_⟩
    rw [hrecord] at hmem
    cases hmem
  | some record =>
    have h' := hs.putRecord (f record) (hbuilt record hrecord)
    rw [hrecord, Option.map_some] at hsnapshot
    rw [hoptions, ← hsnapshot] at h'
    exact h'

theorem Shows.counterLoaded (hs : Shows id h e) :
    Shows id { h with data := { h.data with counter := true } } { e with counter := true } :=
  ⟨hs.entry.congr rfl rfl rfl, rfl, hs.data.others, hs.data.snapshot, hs.data.built⟩

/-- The shared objects the entry does not look at. -/
theorem Shows.shared (hs : Shows id h e) (capture store : Bool) :
    Shows id { h with data := { h.data with capture := capture, store := store } } e :=
  ⟨hs.entry, hs.data.counter, hs.data.others, hs.data.snapshot, hs.data.built⟩

/-- Others have a record exactly if some are left without that of the entry. -/
theorem othersLeft_iff (d : DomainData O) (id : EntryId) :
    (!(d.entries.erase id).keys.isEmpty) = true ↔ ∃ i ≠ id, i ∈ d.entries := by
  rw [Bool.not_eq_true', List.isEmpty_eq_false_iff]
  constructor
  · intro hne
    obtain ⟨i, hi⟩ := List.exists_mem_of_ne_nil _ hne
    exact ⟨i, AList.mem_erase.mp (AList.mem_keys.mpr hi)⟩
  · rintro ⟨i, hi, hmem⟩
    exact List.ne_nil_of_mem (AList.mem_keys.mp (AList.mem_erase.mpr ⟨hi, hmem⟩))

theorem Shows.dropRecord (hs : Shows id h e) :
    Shows id (dropRecord h id)
      { e with optionsSnapshot := none, built := none, counter := e.counter && e.others } := by
  have hlookup : (Entries.dropRecord h id).data.entries.lookup id = none :=
    AList.lookup_erase id h.data.entries
  refine ⟨hs.entry.congr rfl rfl rfl, ?_, ?_, ?_, ?_⟩
  · refine congrArg₂ (· && ·) hs.data.counter (Bool.eq_iff_iff.mpr ?_)
    exact hs.data.others.trans (othersLeft_iff h.data id).symm
  · refine hs.data.others.trans (exists_congr fun i => and_congr_right fun hi => ?_)
    exact (AList.mem_erase.trans (and_iff_right hi)).symm
  · rw [hlookup]
    rfl
  · rw [hlookup]
    exact nofun

/-- The entry has a record exactly if it has a snapshot. -/
theorem snapshot_isSome_iff (hs : Shows id h e) :
    id ∈ h.data.entries ↔ e.optionsSnapshot.isSome = true := by
  rw [hs.data.snapshot, Option.isSome_map, AList.lookup_isSome]

/-! ### The coroutines -/

/-- Two models of a coroutine of the entry. -/
abbrev ViewMatches (id : EntryId) {α β : Type} (V : α → β → Prop) (p : Entries.Method O α)
    (p' : Reload.Method O β) (h : Hass O) (t : Guarded (Entry O)) : Prop :=
  Matches (Shows id) V p p' h t

theorem prepare_matches (hs : Shows id h t.data) :
    ViewMatches id Eq (Entries.prepare id) Reload.prepare h t := by
  refine Matches.bind (matches_call Request.implementation hs) fun _ _ h t _ hs => ?_
  refine matches_modify_bind (matches_modify_bind_left ?_)
  have hshared := hs.addUpdateListener.shared true true
  refine matches_get_bind_left (matches_get_bind_right (matches_ite ?_ (fun _ => ?_) fun _ => ?_))
  · exact Bool.eq_iff_iff.mp hshared.data.counter.symm
  · exact matches_pure rfl hshared
  · refine Matches.bind (matches_call Request.counterLoad hshared) fun _ _ h t _ hs => ?_
    exact matches_modify rfl hs.counterLoaded

/-- The constructors of the coordinators, one after the other. -/
theorem construct_cons (summary : LockSummary) (summaries : List LockSummary) :
    construct (summary :: summaries) = (do
      let _ ← summary.connectable
      let _ ← summary.features
      construct summaries) := by
  unfold construct
  rw [List.forM]
  cases summary.connectable with
  | error err => rfl
  | ok connectable =>
    cases summary.features with
    | error err => rfl
    | ok features => rfl

theorem newCoordinators_matches (summaries : List LockSummary) (hs : Shows id h t.data) :
    ViewMatches id (fun _ _ => True) (newCoordinators id summaries)
      (fromExcept (construct summaries)) h t := by
  induction summaries generalizing h t with
  | nil => exact matches_pure trivial hs
  | cons summary summaries ih =>
    rw [construct_cons]
    unfold newCoordinators newCoordinator
    cases summary.connectable with
    | error err => exact matches_throw err hs
    | ok connectable =>
      cases summary.features with
      | error err => exact matches_throw err hs
      | ok features =>
        have hmade : Shows id { h with
            nextRef := h.nextRef + 1
            subscribers := h.subscribers ++
              [⟨h.nextRef, id, summary.id, summary.mac, connectable⟩] } t.data := ⟨hs.entry, hs.data⟩
        exact .getLeft (.setLeft ((ih hmade).map_left fun _ _ _ => trivial))

theorem setUpLocks_matches (hs : Shows id h t.data) :
    ViewMatches id (fun _ _ => True) (setUpLocks id) buildCoordinators h t := by
  refine Matches.bind (matches_call Request.getLocks hs) fun summaries _ h t hv hs => ?_
  subst hv
  refine Matches.bind (newCoordinators_matches summaries hs) fun locks _ h t _ hs => ?_
  refine Matches.getLeft (.setLeft (.getRight (.setRight (.ret trivial ?_))))
  exact hs.changeRecord (fun _ => rfl) fun _ _ => rfl

theorem setUpRest_matches (locks : List LockCoordinator) (hs : Shows id h t.data) :
    ViewMatches id Eq (Entries.setUpRest id locks) Reload.setUpRest h t := by
  refine matches_modify_bind_left ?_
  refine Matches.bind (matches_call Request.gatewaysFirstRefresh (hs.track locks)) fun _ _ h t _ hs => ?_
  refine matches_modify_bind_left ?_
  have hgateways : Shows id (h.changeRecord id fun record => { record with gateways := true }) t.data :=
    hs.changeRecord (fun _ => rfl) hs.data.built
  refine Matches.bind (matches_call Request.webhookSetup hgateways) fun _ _ h t _ hs => ?_
  exact matches_call Request.forwardEntrySetups hs

/-- **`async_setup_entry` of the two models.** -/
theorem asyncSetupEntry_matches (hs : Shows id h t.data) :
    ViewMatches id (fun b _ => b = true) (Entries.asyncSetupEntry id) Reload.asyncSetupEntry h t := by
  refine Matches.bind (prepare_matches hs) fun _ _ h t _ hs => matches_modify_bind ?_
  have hrecord : Shows id (h.putRecord id ⟨(h.entries id).options, none, false⟩)
      { t.data with optionsSnapshot := some t.data.options, built := none } := by
    rw [hs.entry.options]
    exact hs.putRecord ⟨(h.entries id).options, none, false⟩ rfl
  refine Matches.bind (setUpLocks_matches hrecord) fun locks _ h t _ hs => ?_
  exact (setUpRest_matches locks hs).map_left fun _ _ _ => rfl

/-- **`async_unload_entry` of the two models.** -/
theorem asyncUnloadEntry_matches (hs : Shows id h t.data) :
    ViewMatches id Eq (Entries.asyncUnloadEntry id) Reload.asyncUnloadEntry h t := by
  refine Matches.bind (matches_call Request.unloadPlatforms hs) fun unloadOk _ h t hv hs => ?_
  subst hv
  refine matches_get_bind_left (matches_get_bind_right (matches_ite Iff.rfl (fun _ => ?_) fun _ => ?_))
  · refine matches_ite (snapshot_isSome_iff hs) (fun _ => ?_) fun _ => matches_throw _ hs
    exact matches_set_bind_left (matches_modifyData_bind_right (matches_pure rfl hs.dropRecord))
  · exact matches_pure rfl hs

/-! ### Steps -/

/-- The replies to a job that runs alone: the lock is free for it. -/
def answerAlone (w : Answers) :
    (q : Demand Request) → Guarded (Entry O) → Except PyError (Grant Reply q) × Guarded (Entry O)
  | .acquire, t => (.ok (), ⟨true, t.data⟩)
  | .ask q, t => (w q, t)

theorem answers_agree (w : Answers) (q : Request) (h : Hass O) (t : Guarded (Entry O))
    (hs : Shows id h t.data) : (answer w q h).1 = (answerAlone w (.ask q) t).1 ∧
      Shows id (answer w q h).2 (answerAlone w (.ask q) t).2.data := ⟨rfl, hs⟩

theorem Shows.setState (hs : Shows id h e) (state : EntryState) :
    Shows id (h.setState id state) { e with state := state } := by
  refine ⟨?_, hs.data.counter, hs.data.others, hs.data.snapshot, hs.data.built⟩
  unfold Hass.setState
  rw [entries_updateEntry]
  exact ⟨rfl, hs.entry.options, hs.entry.updateListeners, hs.entry.callbacks⟩

/-- What the callbacks leave: each listener removed by its own. -/
theorem undo_foldr (id : EntryId) (us : List OnUnload) (h : Hass O) :
    (us.foldr (Hass.undo id) h).data = h.data ∧
      (us.foldr (Hass.undo id) h).entries id = { h.entries id with
        updateListeners := (h.entries id).updateListeners - us.count .removeUpdateListener } := by
  induction us with
  | nil => exact ⟨rfl, rfl⟩
  | cons u us ih =>
    obtain ⟨hdata, hentry⟩ := ih
    rw [List.foldr_cons, List.count_cons]
    cases u with
    | removeUpdateListener =>
      have hundo := entries_updateEntry (us.foldr (Hass.undo id) h) id fun c =>
        { c with updateListeners := c.updateListeners - 1 }
      refine ⟨hdata, Eq.trans hundo ?_⟩
      rw [hentry]
      simp only [beq_self_eq_true, if_true, Nat.sub_sub]
    | stopTracking c => exact ⟨hdata, hentry⟩
    | nothing => exact ⟨hdata, hentry⟩

theorem Shows.processOnUnload (hs : Shows id h e) :
    Shows id (h.processOnUnload id) { e with updateListeners := 0 } := by
  obtain ⟨hdata, hentry⟩ := undo_foldr id (h.entries id).onUnload h
  refine ⟨?_, ?_⟩
  · unfold Hass.processOnUnload
    rw [entries_updateEntry, hentry, hs.entry.callbacks, Nat.sub_self]
    exact ⟨hs.entry.state, hs.entry.options, rfl, rfl⟩
  · have hsame : (h.processOnUnload id).data = h.data := hdata
    rw [hsame]
    exact ⟨hs.data.counter, hs.data.others, hs.data.snapshot, hs.data.built⟩

theorem asyncSetup_shows (cleans : PyError → Bool) (w : Answers) (hs : Shows id h t.data) :
    Shows id (Entries.asyncSetup cleans w id h)
      ((Reload.asyncSetup cleans).run (answerAlone w) t).2.data := by
  obtain ⟨hagree, hend⟩ := (asyncSetupEntry_matches hs).run (answers_agree w)
  unfold Entries.asyncSetup Reload.asyncSetup
  rw [run_tryCatch, run_bind]
  revert hagree hend
  rcases (Entries.asyncSetupEntry id).run (answer w) h with ⟨err | b, h'⟩ <;>
    rcases Reload.asyncSetupEntry.run (answerAlone w) t with ⟨err' | u, t'⟩ <;>
    intro hagree hend
  · obtain rfl : err = err' := hagree
    cases hc : cleans err with
    | true =>
      have hfailed := hend.processOnUnload.setState .setupFailed
      simpa only [hc, run_modify, modifyData, if_true] using hfailed
    | false =>
      have hfailed := hend.setState .setupFailed
      simpa only [hc, run_modify, modifyData, Bool.false_eq_true, if_false] using hfailed
  · exact hagree.elim
  · exact hagree.elim
  · obtain rfl : b = true := hagree
    exact hend.setState .loaded

theorem asyncUnload_shows (w : Answers) (hs : Shows id h t.data) :
    (Reload.asyncUnload.run (answerAlone w) t).1 = .ok (Entries.asyncUnload w id h).1 ∧
      Shows id (Entries.asyncUnload w id h).2 (Reload.asyncUnload.run (answerAlone w) t).2.data := by
  obtain ⟨hagree, hend⟩ := (asyncUnloadEntry_matches hs).run (answers_agree w)
  unfold Entries.asyncUnload Reload.asyncUnload
  rw [run_bind, run_get]
  dsimp only
  rw [hs.entry.state]
  cases (h.entries id).state with
  | loaded =>
    dsimp only
    rw [run_bind, run_tryCatch]
    revert hagree hend
    rcases (Entries.asyncUnloadEntry id).run (answer w) h with ⟨err | b, h'⟩ <;>
      rcases Reload.asyncUnloadEntry.run (answerAlone w) t with ⟨err' | b', t'⟩ <;>
      intro hagree hend
    · exact ⟨rfl, hend.setState .failedUnload⟩
    · exact hagree.elim
    · exact hagree.elim
    · obtain rfl : b = b' := hagree
      cases b with
      | true => exact ⟨rfl, hend.processOnUnload.setState .notLoaded⟩
      | false => exact ⟨rfl, hend.setState .failedUnload⟩
  | failedUnload => exact ⟨rfl, hs⟩
  | notLoaded => exact ⟨rfl, hs.setState .notLoaded⟩
  | setupFailed => exact ⟨rfl, hs.setState .notLoaded⟩

/-- A body alone with the lock. -/
theorem run_withLock {α : Type} (w : Answers) (body : Reload.Method O α) (t : Guarded (Entry O)) :
    (withLock body).run (answerAlone w) t = ((body.run (answerAlone w) ⟨true, t.data⟩).1,
      ⟨false, (body.run (answerAlone w) ⟨true, t.data⟩).2.data⟩) := by
  unfold withLock
  rw [run_bind, run_call]
  simp only [answerAlone]
  rw [run_bind, run_tryCatch]
  rcases body.run (answerAlone w) ⟨true, t.data⟩ with ⟨err | a, t'⟩
  · rfl
  · rfl

theorem asyncReload_shows (cleans : PyError → Bool) (w : Answers) (hs : Shows id h t.data) :
    Shows id (Entries.asyncReload cleans w id h)
      ((Reload.asyncReload cleans).run (answerAlone w) t).2.data := by
  have hs : Shows id h (⟨true, t.data⟩ : Guarded (Entry O)).data := hs
  obtain ⟨hresult, hunloaded⟩ := asyncUnload_shows w hs
  unfold Entries.asyncReload Reload.asyncReload
  rw [run_withLock, run_bind]
  revert hresult hunloaded
  rcases Entries.asyncUnload w id h with ⟨b, h'⟩
  rcases Reload.asyncUnload.run (answerAlone w) ⟨true, t.data⟩ with ⟨r, t'⟩
  rintro rfl hunloaded
  cases b with
  | true => exact asyncSetup_shows cleans w hunloaded
  | false => exact hunloaded

/-! ### What others do -/

/-- The entry and its record are as before. -/
structure Beside (id : EntryId) (h h' : Hass O) : Prop where
  entry : h'.entries id = h.entries id
  record : h'.data.entries.lookup id = h.data.entries.lookup id

theorem Beside.refl (h : Hass O) : Beside id h h := ⟨rfl, rfl⟩

theorem Beside.trans (h₁ h₂ h₃ : Hass O) (h₁₂ : Beside id h₁ h₂) (h₂₃ : Beside id h₂ h₃) :
    Beside id h₁ h₃ := ⟨h₂₃.entry.trans h₁₂.entry, h₂₃.record.trans h₁₂.record⟩

variable {h' : Hass O} {i : EntryId}

theorem beside_newCoordinators (w : Answers) (summaries : List LockSummary) :
    Frames (answer w) (Beside id) (newCoordinators i summaries : Entries.Method O _) := by
  induction summaries with
  | nil => exact frames_pure .refl _
  | cons summary summaries ih =>
    refine frames_bind Beside.trans (fun h => ?_) fun c =>
      frames_bind Beside.trans ih fun locks => frames_pure .refl _
    unfold newCoordinator
    cases summary.connectable with
    | error err => exact .refl h
    | ok connectable =>
      cases summary.features with
      | error err => exact .refl h
      | ok features => exact ⟨rfl, rfl⟩

theorem beside_loadCounter (w : Answers) :
    Frames (answer w) (Beside id) (loadCounter : Entries.Method O Unit) := by
  intro h
  unfold loadCounter
  rw [run_bind, run_get]
  dsimp only
  split_ifs
  · exact .refl h
  · refine frames_bind Beside.trans (frames_call fun h => .refl h) (fun _ => ?_) h
    exact frames_modify fun h => ⟨rfl, rfl⟩

section Others
variable (hi : i ≠ id)
include hi

theorem beside_updateEntry (h : Hass O) (f : ConfigEntry O → ConfigEntry O) :
    Beside id h (h.updateEntry i f) := ⟨Function.update_of_ne hi.symm _ _, rfl⟩

theorem beside_addUpdateListener (h : Hass O) : Beside id h (h.addUpdateListener i) := by
  unfold Hass.addUpdateListener Hass.asyncOnUnload
  exact Beside.trans _ _ _ (beside_updateEntry hi h _) (beside_updateEntry hi _ _)

theorem beside_putRecord (h : Hass O) (record : EntryData O) :
    Beside id h (h.putRecord i record) := ⟨rfl, AList.lookup_insert_ne hi.symm⟩

theorem beside_changeRecord (h : Hass O) (f : EntryData O → EntryData O) :
    Beside id h (h.changeRecord i f) := by
  unfold Hass.changeRecord
  cases h.data.entries.lookup i with
  | none => exact .refl h
  | some record => exact beside_putRecord hi h _

theorem beside_startBleTracking (c : LockCoordinator) (h : Hass O) :
    Beside id h (startBleTracking i c h) := by
  unfold startBleTracking
  split_ifs
  · exact ⟨(beside_updateEntry hi _ _).entry, rfl⟩
  · exact beside_updateEntry hi h _

theorem beside_track (locks : List LockCoordinator) (h : Hass O) :
    Beside id h (locks.foldl (fun h c => startBleTracking i c h) h) := by
  induction locks generalizing h with
  | nil => exact .refl h
  | cons c locks ih => exact Beside.trans _ _ _ (beside_startBleTracking hi c h) (ih _)

theorem beside_asyncSetupEntry (w : Answers) :
    Frames (answer w) (Beside id) (Entries.asyncSetupEntry i : Entries.Method O Bool) := by
  have hask (q : Request) : Frames (answer w) (Beside id) (call q : Entries.Method O (Reply q)) :=
    frames_call fun h => .refl h
  have hmodify {f : Hass O → Hass O} (hf : ∀ h, Beside id h (f h)) :
      Frames (answer w) (Beside id) (modify f : Entries.Method O PUnit) := frames_modify hf
  refine frames_bind Beside.trans ?_ fun _ => frames_bind Beside.trans ?_ fun _ =>
    frames_bind Beside.trans ?_ fun locks => frames_bind Beside.trans ?_ fun _ => frames_pure .refl _
  · exact frames_bind Beside.trans (hask .implementation) fun _ => frames_bind Beside.trans
      (hmodify fun h => beside_addUpdateListener hi h) fun _ => frames_bind Beside.trans
        (hmodify fun h => ⟨rfl, rfl⟩) fun _ => beside_loadCounter w
  · exact hmodify fun h => beside_putRecord hi h _
  · refine frames_bind Beside.trans (hask .getLocks) fun summaries => frames_bind Beside.trans
      (beside_newCoordinators w summaries) fun locks => ?_
    exact frames_bind Beside.trans (hmodify fun h => beside_changeRecord hi h _) fun _ =>
      frames_pure .refl _
  · refine frames_bind Beside.trans (hmodify fun h => beside_track hi locks h) fun _ =>
      frames_bind Beside.trans (hask .gatewaysFirstRefresh) fun _ => frames_bind Beside.trans
        (hmodify fun h => beside_changeRecord hi h _) fun _ => ?_
    exact frames_bind Beside.trans (hask .webhookSetup) fun _ => hask .forwardEntrySetups

theorem beside_asyncUnloadEntry (w : Answers) :
    Frames (answer w) (Beside id) (Entries.asyncUnloadEntry i : Entries.Method O Bool) := by
  refine frames_bind Beside.trans (frames_call fun h => .refl h) fun unloadOk h => ?_
  rw [run_bind, run_get]
  dsimp only
  split_ifs
  · exact ⟨rfl, AList.lookup_erase_ne hi.symm⟩
  · exact .refl h
  · exact .refl h

theorem beside_setState (h : Hass O) (state : EntryState) : Beside id h (h.setState i state) :=
  beside_updateEntry hi h _

theorem beside_processOnUnload (h : Hass O) : Beside id h (h.processOnUnload i) := by
  have hundo : ∀ us : List OnUnload, Beside id h (us.foldr (Hass.undo i) h) := by
    intro us
    induction us with
    | nil => exact .refl h
    | cons u us ih =>
      refine Beside.trans _ _ _ ih ?_
      cases u with
      | removeUpdateListener =>
        exact beside_updateEntry hi (us.foldr (Hass.undo i) h) fun c =>
          { c with updateListeners := c.updateListeners - 1 }
      | stopTracking c => exact ⟨rfl, rfl⟩
      | nothing => exact .refl _
  exact Beside.trans _ _ _ (hundo _) (beside_updateEntry hi _ _)

theorem beside_asyncSetup (cleans : PyError → Bool) (w : Answers) (h : Hass O) :
    Beside id h (Entries.asyncSetup cleans w i h) := by
  have hsetup := beside_asyncSetupEntry hi w h
  unfold Entries.asyncSetup
  revert hsetup
  rcases (Entries.asyncSetupEntry i).run (answer w) h with ⟨err | b, h'⟩
  · intro hsetup
    dsimp only
    cases cleans err with
    | true =>
      exact Beside.trans _ _ _ (Beside.trans _ _ _ hsetup (beside_processOnUnload hi h'))
        (beside_setState hi _ _)
    | false => exact Beside.trans _ _ _ hsetup (beside_setState hi _ _)
  · intro hsetup
    cases b with
    | true => exact Beside.trans _ _ _ hsetup (beside_setState hi _ _)
    | false => exact Beside.trans _ _ _ hsetup (beside_setState hi _ _)

theorem beside_asyncUnload (w : Answers) (h : Hass O) :
    Beside id h (Entries.asyncUnload w i h).2 := by
  have hunload := beside_asyncUnloadEntry hi w h
  unfold Entries.asyncUnload
  cases (h.entries i).state with
  | loaded =>
    revert hunload
    dsimp only
    rcases (Entries.asyncUnloadEntry i).run (answer w) h with ⟨err | b, h'⟩
    · exact fun hunload => Beside.trans _ _ _ hunload (beside_setState hi _ _)
    · cases b with
      | true =>
        exact fun hunload => Beside.trans _ _ _ (Beside.trans _ _ _ hunload
          (beside_processOnUnload hi h')) (beside_setState hi _ _)
      | false => exact fun hunload => Beside.trans _ _ _ hunload (beside_setState hi _ _)
  | failedUnload => exact .refl h
  | notLoaded => exact beside_setState hi h _
  | setupFailed => exact beside_setState hi h _

theorem beside_asyncReload (cleans : PyError → Bool) (w : Answers) (h : Hass O) :
    Beside id h (Entries.asyncReload cleans w i h) := by
  have hunload := beside_asyncUnload hi w h
  unfold Entries.asyncReload
  revert hunload
  rcases Entries.asyncUnload w i h with ⟨b, h'⟩
  cases b with
  | true => exact fun hunload => Beside.trans _ _ _ hunload (beside_asyncSetup hi cleans w h')
  | false => exact fun hunload => hunload

end Others

/-- What others do is no more to the entry than whether they are there, and the counter. -/
theorem Beside.shows (hb : Beside id h h') (hs : Shows id h e) :
    Shows id h' { e with
      others := !(h'.data.entries.erase id).keys.isEmpty, counter := h'.data.counter } := by
  refine ⟨?_, rfl, othersLeft_iff h'.data id, ?_, ?_⟩
  · rw [hb.entry]
    exact hs.entry.congr rfl rfl rfl
  · rw [hb.record]
    exact hs.data.snapshot
  · rw [hb.record]
    exact hs.data.built

/-! ### Runs -/

/-- The entry that a step is about. -/
def entryOf : EntryEvent O → EntryId
  | .setup id _ | .unload id _ | .reload id _ | .updated id _ _ => id

/-- How the calls of a step come out. -/
def answersOf : EntryEvent O → Answers
  | .setup _ w | .unload _ w | .reload _ w | .updated _ _ w => w

/-- What a step is to the entry it is about. -/
def jobOf : EntryEvent O → Job O
  | .setup _ _ => .setup
  | .unload _ _ => .unload
  | .reload _ _ => .reload
  | .updated _ options _ => .updateOptions options

variable [DecidableEq O] {cleans : PyError → Bool} {event : EntryEvent O}

/-- A job that runs alone. -/
def alone (cleans : PyError → Bool) (w : Answers) (job : Job O) (e : Entry O) : Entry O :=
  ((prog cleans job).run (answerAlone w) ⟨false, e⟩).2.data

theorem setup_shows (w : Answers) (hs : Shows id h e)
    (hstep : Entries.step cleans h (.setup id w) = some h') :
    Shows id h' (alone cleans w .setup e) := by
  simp only [Entries.step] at hstep
  split_ifs at hstep with hstate
  obtain rfl := Option.some.inj hstep
  unfold alone prog
  rw [run_withLock, run_bind, run_get]
  dsimp only
  rw [← hs.entry.state] at hstate
  rw [if_pos hstate]
  exact asyncSetup_shows (t := ⟨true, e⟩) cleans w hs

theorem unload_shows (w : Answers) (hs : Shows id h e) :
    Shows id (Entries.asyncUnload w id h).2 (alone cleans w .unload e) := by
  obtain ⟨hresult, hunloaded⟩ := asyncUnload_shows (t := ⟨true, e⟩) w hs
  unfold alone prog
  rw [run_withLock, run_bind]
  revert hresult hunloaded
  rcases Reload.asyncUnload.run (answerAlone w) (⟨true, e⟩ : Guarded (Entry O)) with ⟨r, t'⟩
  rintro rfl hunloaded
  exact hunloaded

/-- The listener finds the options changed in both models, or in neither. -/
theorem optionsChanged_iff (hs : Shows id h e) : optionsChanged h id = true ↔
    0 < e.updateListeners ∧ ¬ (e.optionsSnapshot = none ∨ e.optionsSnapshot = some e.options) := by
  unfold optionsChanged
  rw [hs.entry.updateListeners, hs.entry.options, hs.data.snapshot, Bool.and_eq_true, decide_eq_true_iff]
  refine and_congr_right fun _ => ?_
  cases h.data.entries.lookup id with
  | none => simp
  | some record => simp

theorem updated_shows (options : O) (w : Answers) (hs : Shows id h e) :
    Shows id (asyncUpdateEntry cleans w id options h) (alone cleans w (.updateOptions options) e) := by
  have hwritten : Shows id (h.updateEntry id fun c => { c with options := options })
      { e with options := options } := by
    refine ⟨?_, hs.data.counter, hs.data.others, hs.data.snapshot, hs.data.built⟩
    rw [entries_updateEntry]
    exact ⟨hs.entry.state, rfl, hs.entry.updateListeners, hs.entry.callbacks⟩
  have hchanged := optionsChanged_iff hwritten
  have hreload := asyncReload_shows (t := ⟨false, { e with options := options }⟩) cleans w hwritten
  have hfires : alone cleans w (.updateOptions options) e = ((fireListener cleans).run
      (answerAlone w) ⟨false, { e with options := options }⟩).2.data := rfl
  unfold asyncUpdateEntry
  rw [hfires]
  unfold fireListener reloadOnOptionsUpdate
  rw [run_bind, run_get]
  dsimp only
  by_cases hc : optionsChanged (h.updateEntry id fun c => { c with options := options }) id = true
  · obtain ⟨hlistens, hnew⟩ := hchanged.mp hc
    rw [if_pos hc, if_pos hlistens, run_bind, run_get]
    dsimp only
    rw [if_neg hnew]
    exact hreload
  · rw [if_neg hc]
    by_cases hlistens : 0 < e.updateListeners
    · have hold := not_not.mp fun hnew => hc (hchanged.mpr ⟨hlistens, hnew⟩)
      rw [if_pos hlistens, run_bind, run_get]
      dsimp only
      rw [if_pos hold]
      exact hwritten
    · rw [if_neg hlistens]
      exact hwritten

/-- **A step of the entry's own** is a job of it. -/
theorem step_shows_own (hs : Shows (entryOf event) h e)
    (hstep : Entries.step cleans h event = some h') :
    Shows (entryOf event) h' (alone cleans (answersOf event) (jobOf event) e) := by
  cases event with
  | setup id w => exact setup_shows w hs hstep
  | unload id w =>
    cases hstep
    exact unload_shows w hs
  | reload id w =>
    cases hstep
    exact asyncReload_shows (t := ⟨false, e⟩) cleans w hs
  | updated id options w =>
    cases hstep
    exact updated_shows options w hs

theorem beside_step (hi : entryOf event ≠ id) (hstep : Entries.step cleans h event = some h') :
    Beside id h h' := by
  cases event with
  | setup i w =>
    simp only [Entries.step] at hstep
    split_ifs at hstep
    cases hstep
    exact beside_asyncSetup hi cleans w h
  | unload i w =>
    cases hstep
    exact beside_asyncUnload hi w h
  | reload i w =>
    cases hstep
    exact beside_asyncReload hi cleans w h
  | updated i options w =>
    cases hstep
    have hwritten : Beside id h (h.updateEntry i fun c => { c with options := options }) :=
      beside_updateEntry hi h _
    unfold asyncUpdateEntry
    dsimp only
    split_ifs
    · exact Beside.trans _ _ _ hwritten (beside_asyncReload hi cleans w _)
    · exact hwritten

/-- **Each step is a job of the entry that runs alone**, whose ever it is. -/
theorem step_shows (hs : Shows id h e) (hstep : Entries.step cleans h event = some h') :
    ∃ job, Shows id h' (alone cleans (answersOf event) job e) := by
  by_cases hi : entryOf event = id
  · subst hi
    exact ⟨jobOf event, step_shows_own hs hstep⟩
  · exact ⟨.others _ _, (beside_step hi hstep).shows hs⟩

/-- **In every run the entry is what jobs of it make of it**, one after the other. -/
theorem run_shows {options : EntryId → O} {bluetooth : Bool}
    {τ : List (Move (Hass O) (EntryEvent O))}
    (hr : Run (Entries.step cleans) (Entries.booted options bluetooth) τ h) (id : EntryId) :
    ∃ jobs : List (Job O × Answers), Shows id h
      (jobs.foldl (fun e j => alone cleans j.2 j.1 e) (Reload.booted (options id)).shared.data) := by
  induction hr with
  | nil =>
    refine ⟨[], ⟨rfl, rfl, rfl, rfl⟩, rfl, ?_, rfl, nofun⟩
    exact iff_of_false Bool.false_ne_true fun ⟨i, _, hi⟩ => absurd hi (AList.notMem_empty i)
  | @snoc _ _ _ event _ hstep ih =>
    obtain ⟨jobs, hs⟩ := ih
    obtain ⟨job, hs'⟩ := step_shows hs hstep
    refine ⟨jobs ++ [(job, answersOf event)], ?_⟩
    rw [List.foldl_append]
    exact hs'

end TTLockConnect.Setup.Views
