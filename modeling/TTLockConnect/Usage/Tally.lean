import TTLockConnect.Setup.Entries
import TTLockConnect.Usage.Counter
import TTLockConnect.Async.Runs
import Mathlib.Tactic.SplitIfs

/-! # The tally over unloads and reloads

The first setup of an entry creates an `ApiCallCounter` from what its store has written, and the
unload of the last entry drops it, with the save it may still have to make. So the tally of a counter
created by a later setup is complete as long as that setup comes after this save. -/

namespace TTLockConnect.Usage.Tally

open TTLockConnect.Setup.Entries TTLockConnect.Usage.Counter TTLockConnect.Async.Runs

variable {O : Type}

/-! ### Counters and their steps -/

/-- Home Assistant, the counters of the integration and what is on disk. -/
structure Install (O : Type) where
  hass : Hass O
  /-- All counters, by the order of their creation; clients keep the one they were created with. -/
  counters : List ApiCallCounter
  disk : Option Days
  /-- How many calls were recorded today. -/
  recorded : ℕ

/-- What happens next. -/
inductive TallyEvent where
  /-- A request is sent by a client that has the counter at index `i`. -/
  | record (i : ℕ) (endpoint : String)
  /-- The delay of the save of a counter is over. -/
  | save (i : ℕ)
  | setup (id : EntryId) (w : Answers)
  | unload (id : EntryId) (w : Answers)

namespace Install

/-- `hass.data[DOMAIN][_COUNTER_KEY]`: a setup creates a counter only if there is none. -/
def live (s : Install O) : Option ApiCallCounter :=
  if s.hass.data.counter then s.counters.getLast? else none

/-- The counter that a setup creates, if it does. -/
def created (s : Install O) (hass : Hass O) : List ApiCallCounter :=
  if s.hass.data.counter = false ∧ hass.data.counter = true then [.load s.disk] else []

/-- One step; the setups and unloads are those of Home Assistant. -/
def step [DecidableEq O] (cleans : Text.PyError → Bool) (today : Date) (s : Install O) :
    TallyEvent → Option (Install O)
  | .record i endpoint =>
    if i < s.counters.length then
      some { s with
        counters := s.counters.modify i (·.record today endpoint)
        recorded := s.recorded + 1 }
    else none
  | .save i =>
    match s.counters[i]? with
    | none => none
    | some c =>
      if c.pending then
        some { s with
          counters := s.counters.set i { c with pending := false }
          disk := some c.days }
      else none
  | .setup id w =>
    (Setup.Entries.step cleans s.hass (.setup id w)).map fun hass =>
      { s with hass := hass, counters := s.counters ++ s.created hass }
  | .unload id w =>
    (Setup.Entries.step cleans s.hass (.unload id w)).map fun hass => { s with hass := hass }

/-- Home Assistant with nothing set up; of today's calls there are those on disk. -/
def start (today : Date) (options : EntryId → O) (bluetoothAvailable : Bool) (disk : Option Days) :
    Install O :=
  ⟨booted options bluetoothAvailable, [], disk, todayCount today (disk.getD ∅)⟩

end Install

/-- **The live counter has counted every call.** -/
def Complete (today : Date) (s : Install O) : Prop :=
  ∀ c ∈ s.live, todayCount today c.days = s.recorded

/-- **What a step has to meet**: a setup that creates a counter comes after all saves, and a client
whose counter has been replaced sends no more requests. -/
def Allowed [DecidableEq O] (cleans : Text.PyError → Bool) (s : Install O) : TallyEvent → Prop
  | .record i _ => i + 1 = s.counters.length
  | .setup id w =>
    (∃ hass ∈ Setup.Entries.step cleans s.hass (.setup id w), s.created hass ≠ []) →
      ∀ c ∈ s.counters, c.pending = false
  | .save _ | .unload _ _ => True

/-! ### The invariant -/

/-- What allowed steps keep: only the newest counter may have a save to make, it has counted every
call, and so has the disk once there is no save left. -/
structure Inv (today : Date) (s : Install O) : Prop where
  older : ∀ c ∈ s.counters.dropLast, c.pending = false
  newest : ∀ c ∈ s.counters.getLast?, todayCount today c.days = s.recorded
  disk : (∀ c ∈ s.counters, c.pending = false) → todayCount today (s.disk.getD ∅) = s.recorded

variable {today : Date} {s s' : Install O}

theorem start_inv (today : Date) (options : EntryId → O) (bluetoothAvailable : Bool)
    (disk : Option Days) : Inv today (Install.start today options bluetoothAvailable disk) :=
  ⟨nofun, nofun, fun _ => rfl⟩

theorem Inv.complete (hi : Inv today s) : Complete today s := by
  intro c hc
  unfold Install.live at hc
  split_ifs at hc with hlive
  · exact hi.newest c hc
  · cases hc

/-- The invariant of an install with a newest counter. -/
theorem inv_concat_iff {hass : Hass O} {older : List ApiCallCounter} {c : ApiCallCounter}
    {disk : Option Days} {recorded : ℕ} : Inv today ⟨hass, older ++ [c], disk, recorded⟩ ↔
      (∀ c' ∈ older, c'.pending = false) ∧ todayCount today c.days = recorded ∧
        (c.pending = false → todayCount today (disk.getD ∅) = recorded) := by
  constructor
  · intro hi
    have holder : ∀ c' ∈ older, c'.pending = false := by
      intro c' hc'
      exact hi.older c' (by simpa using hc')
    refine ⟨holder, hi.newest c (by simp), fun hc => hi.disk fun c' hc' => ?_⟩
    rcases List.mem_append.mp hc' with hc' | hc'
    · exact holder c' hc'
    · rw [List.mem_singleton.mp hc']
      exact hc
  · rintro ⟨holder, hnewest, hdisk⟩
    refine ⟨fun c' hc' => holder c' (by simpa using hc'), fun c' hc' => ?_, fun hall => ?_⟩
    · have hcc : c = c' := by simpa using hc'
      rw [← hcc]
      exact hnewest
    · exact hdisk (hall c (List.mem_append_right _ (List.mem_singleton_self c)))

/-- A call is recorded by the newest counter. -/
theorem inv_record (hi : Inv today s) {i : ℕ} (hlast : i + 1 = s.counters.length)
    (endpoint : String) : Inv today { s with
      counters := s.counters.modify i (·.record today endpoint)
      recorded := s.recorded + 1 } := by
  obtain ⟨hass, counters, disk, recorded⟩ := s
  rcases counters.eq_nil_or_concat' with rfl | ⟨older, c, rfl⟩
  · cases hlast
  have hlen : i = older.length := by simpa using hlast
  have hmodify : (older ++ [c]).modify i (·.record today endpoint) =
      older ++ [c.record today endpoint] := by
    rw [hlen, List.modify_eq_take_cons_drop (by simp)]
    simp
  obtain ⟨holder, hnewest, -⟩ := inv_concat_iff.mp hi
  have hcount : todayCount today (c.record today endpoint).days = recorded + 1 := by
    rw [← hnewest]
    exact todayCount_recordDay today endpoint c.days
  dsimp only
  rw [hmodify]
  exact inv_concat_iff.mpr ⟨holder, hcount, nofun⟩

/-- A save is one of the newest counter. -/
theorem inv_save (hi : Inv today s) {i : ℕ} {c : ApiCallCounter} (hc : s.counters[i]? = some c)
    (hpending : c.pending = true) : Inv today { s with
      counters := s.counters.set i { c with pending := false }
      disk := some c.days } := by
  obtain ⟨hass, counters, disk, recorded⟩ := s
  rcases counters.eq_nil_or_concat' with rfl | ⟨older, c', rfl⟩
  · cases hc
  obtain ⟨holder, hnewest, -⟩ := inv_concat_iff.mp hi
  have hlt : i < older.length + 1 := by
    obtain ⟨hlt, -⟩ := List.getElem?_eq_some_iff.mp hc
    simpa using hlt
  have hlen : i = older.length := by
    by_contra hne
    have hfront : older[i]? = some c := by
      rw [← hc]
      exact (List.getElem?_append_left (by omega)).symm
    rw [holder c (List.mem_of_getElem? hfront)] at hpending
    cases hpending
  subst hlen
  have hcc : c' = c := by simpa using hc
  subst hcc
  have hset : (older ++ [c']).set older.length { c' with pending := false } =
      older ++ [{ c' with pending := false }] := by simp
  dsimp only
  rw [hset]
  exact inv_concat_iff.mpr ⟨holder, hnewest, fun _ => hnewest⟩

/-- A setup that creates a counter finds every call on disk. -/
theorem inv_setup (hi : Inv today s) (hass : Hass O)
    (hsaved : s.created hass ≠ [] → ∀ c ∈ s.counters, c.pending = false) :
    Inv today { s with hass := hass, counters := s.counters ++ s.created hass } := by
  by_cases hnone : s.created hass = []
  · rw [hnone, List.append_nil]
    exact ⟨hi.older, hi.newest, hi.disk⟩
  have hall := hsaved hnone
  have hnew : s.created hass = [.load s.disk] := by
    unfold Install.created at hnone ⊢
    split_ifs at hnone ⊢
    · rfl
    · exact absurd rfl hnone
  rw [hnew]
  exact inv_concat_iff.mpr ⟨hall, hi.disk hall, fun _ => hi.disk hall⟩

section Run
variable [DecidableEq O] {cleans : Text.PyError → Bool} {l : TallyEvent}

/-- **An allowed step keeps the invariant.** -/
theorem step_inv (hi : Inv today s) (ha : Allowed cleans s l)
    (h : s.step cleans today l = some s') : Inv today s' := by
  cases l with
  | record i endpoint =>
    simp only [Install.step] at h
    split_ifs at h
    obtain rfl := Option.some.inj h
    exact inv_record hi ha endpoint
  | save i =>
    simp only [Install.step] at h
    cases hc : s.counters[i]? with
    | none =>
      rw [hc] at h
      cases h
    | some c =>
      rw [hc] at h
      dsimp only at h
      split_ifs at h with hpending
      obtain rfl := Option.some.inj h
      exact inv_save hi hc hpending
  | setup id w =>
    obtain ⟨hass, hs, rfl⟩ := Option.map_eq_some_iff.mp h
    exact inv_setup hi hass fun hnew => ha ⟨hass, hs, hnew⟩
  | unload id w =>
    obtain rfl := Option.some.inj h
    exact ⟨hi.older, hi.newest, hi.disk⟩

/-- **The tally survives unloads and reloads** in every run whose steps are all allowed: in each of
its states the live counter has counted every call of the day. -/
theorem run_complete {options : EntryId → O} {bluetoothAvailable : Bool} {disk : Option Days}
    {τ : List (Move (Install O) TallyEvent)}
    (hr : Run (Install.step cleans today) (.start today options bluetoothAvailable disk) τ s)
    (hok : ∀ m ∈ τ, Allowed cleans m.src m.label) :
    Complete today s ∧ ∀ m ∈ τ, Complete today m.dst := by
  obtain ⟨hs, hτ⟩ := hr.invariant_of (Inv today) (Allowed cleans)
    (start_inv today options bluetoothAvailable disk) (fun _ _ _ hi ha h => step_inv hi ha h) hok
  exact ⟨hs.complete, fun m hm => (hτ m hm).2.complete⟩

end Run

/-! ### Sample runs -/

/-- An account without locks. -/
def answers : Answers
  | .getLocks => .ok []
  | .unloadPlatforms => .ok true
  | .implementation | .counterLoad | .gatewaysFirstRefresh | .webhookSetup
  | .forwardEntrySetups => .ok ()

abbrev movesOf (events : List TallyEvent) : List (Move (Install Unit) TallyEvent) :=
  (play (Install.step (fun _ => true) 0) (.start 0 (fun _ => ()) false none) events).1

/-- What the live counter shows after each move. -/
def shown (events : List TallyEvent) : List (Option ℕ) :=
  (movesOf events).map fun m => m.dst.live.map fun c => todayCount 0 c.days

/-- The only entry is reloaded within the delay of the save. -/
def reloaded : List TallyEvent :=
  [.setup "a" answers, .record 0 "gateway/list", .unload "a" answers, .setup "a" answers]

/-- **A reload loses the calls that have not been saved.** -/
theorem reloaded_notComplete : ¬ ∀ (cleans : Text.PyError → Bool) (today : Date) (disk : Option Days)
    (s : Install Unit) (τ : List (Move (Install Unit) TallyEvent)),
      Run (Install.step cleans today) (.start today (fun _ => ()) false disk) τ s →
        ∀ m ∈ τ, Complete today m.dst := by
  intro hall
  have hlost : ∃ m ∈ movesOf reloaded, ∃ c ∈ m.dst.live,
      todayCount 0 c.days ≠ m.dst.recorded := by decide +kernel
  obtain ⟨m, hm, c, hc, hne⟩ := hlost
  exact hne (hall (fun _ => true) 0 none _ _ (run_play _ reloaded) m hm c hc)

/-- A step of the newest counter, or one with no save left to make. -/
def settled (s : Install O) : TallyEvent → Bool
  | .record i _ => i + 1 == s.counters.length
  | .setup _ _ => s.counters.all fun c => !c.pending
  | .save _ | .unload _ _ => true

theorem allowed_of_settled [DecidableEq O] {cleans : Text.PyError → Bool} {l : TallyEvent}
    (h : settled s l = true) : Allowed cleans s l := by
  cases l with
  | record i endpoint => simpa [settled, Allowed] using h
  | save i => trivial
  | setup id w =>
    intro _ c hc
    have hall : ∀ c ∈ s.counters, c.pending = false := by simpa [settled] using h
    exact hall c hc
  | unload id w => trivial

/-- The same, after the save. -/
def reloadedLater : List TallyEvent :=
  [.setup "a" answers, .record 0 "gateway/list", .save 0, .unload "a" answers, .setup "a" answers,
    .record 1 "lock/list"]

/-- Every call is counted. -/
theorem run_complete_reloadedLater :
    shown reloadedLater = [some 0, some 1, some 1, none, some 1, some 2] ∧
      ∀ m ∈ movesOf reloadedLater, Complete 0 m.dst := by
  have hok : ∀ m ∈ movesOf reloadedLater, settled m.src m.label = true := by decide +kernel
  refine ⟨by decide +kernel, (run_complete (run_play _ reloadedLater) fun m hm => ?_).2⟩
  exact allowed_of_settled (hok m hm)

end TTLockConnect.Usage.Tally
