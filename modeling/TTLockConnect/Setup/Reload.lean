import TTLockConnect.Async.Phases
import TTLockConnect.Setup.Entries
import Mathlib.Data.Multiset.Count

/-! # Reloads of an entry

`_reload_on_options_update` among everything else that happens to its entry. A setup, an unload and a
reload of one entry take turns (`entry.setup_lock`), but they suspend, and the entry may be updated
wherever they do: by the user, who changes the options, or by the webhook, which writes entry data
while the setup runs. The listener tells the two apart by the snapshot of the options that the setup
takes before it builds the coordinators.

No change of the options is missed, and while no options are written but those the entry began with,
no write of it reloads. A write of entry data that comes between a change of the options and the
reload it calls for finds the old snapshot, and reloads as well.

`asyncSetup`, `asyncUnload`, `asyncReload` and `fireListener` are Home Assistant's own, as far as an
entry can tell: they follow its documentation, not code of this repository. -/

namespace TTLockConnect.Setup.Reload

open TTLockConnect.Text TTLockConnect.Models TTLockConnect.Setup.Entries
open TTLockConnect.Async.Coroutine TTLockConnect.Async.Coroutine.Coro TTLockConnect.Async.Runs
open TTLockConnect.Async.EventLoop TTLockConnect.Async.Mutex TTLockConnect.Async.Phases

/-! ### The entry -/

/-- What Home Assistant and the integration keep of the entry. -/
structure Entry (O : Type) where
  state : EntryState
  options : O
  /-- Each has a callback that removes it when the entry is unloaded. -/
  updateListeners : ℕ
  /-- `_COUNTER_KEY in domain_data` -/
  counter : Bool
  /-- Another entry has a record. -/
  others : Bool
  /-- `_OPTIONS_KEY` of the record of the entry, if it has one. -/
  optionsSnapshot : Option O
  /-- The options that the coordinators of the record were built with, once they are there. -/
  built : Option O
  deriving DecidableEq

abbrev Method (O α : Type) := Locking (Entry O) Request Reply PyError α

section Coroutines
variable {O : Type}

/-- The part of `async_setup_entry` before the record of the entry. -/
def prepare : Method O Unit := do
  ask Request.implementation
  modifyData fun e => { e with updateListeners := e.updateListeners + 1 }
  let s ← get
  if s.data.counter then return ()
  else do
    ask Request.counterLoad
    modifyData fun e => { e with counter := true }

/-- What the constructors of the coordinators raise. -/
def construct (summaries : List LockSummary) : Except PyError Unit :=
  summaries.forM fun summary => do
    let _ ← summary.connectable
    let _ ← summary.features
    return ()

/-- The part of `async_setup_entry` that builds the coordinators. -/
def buildCoordinators : Method O Unit := do
  let summaries ← ask Request.getLocks
  fromExcept (construct summaries)
  modifyData fun e => { e with built := some e.options }

/-- The part of `async_setup_entry` after the coordinators. -/
def setUpRest : Method O Unit := do
  ask Request.gatewaysFirstRefresh
  ask Request.webhookSetup
  ask Request.forwardEntrySetups

/-- `async_setup_entry`. -/
def asyncSetupEntry : Method O Unit := do
  prepare
  modifyData fun e => { e with optionsSnapshot := some e.options, built := none }
  buildCoordinators
  setUpRest

/-- `async_unload_entry`. -/
def asyncUnloadEntry : Method O Bool := do
  let unloadOk ← ask Request.unloadPlatforms
  let s ← get
  if unloadOk then
    if s.data.optionsSnapshot.isSome then do
      modifyData fun e =>
        { e with optionsSnapshot := none, built := none, counter := e.counter && e.others }
      return true
    else throw .keyError
  else return false

/-- Home Assistant's `ConfigEntry.async_setup`. The listeners of an entry whose setup fails are
removed only after the errors in `cleans`. -/
def asyncSetup (cleans : PyError → Bool) : Method O Unit := do
  tryCatch
    (do
      asyncSetupEntry
      modifyData fun e => { e with state := .loaded })
    fun err => modifyData fun e => { e with
      state := .setupFailed
      updateListeners := if cleans err then 0 else e.updateListeners }

/-- Home Assistant's `ConfigEntry.async_unload`: whether the entry may be set up again. -/
def asyncUnload : Method O Bool := do
  let s ← get
  match s.data.state with
  | .loaded => do
    let unloadOk ← tryCatch asyncUnloadEntry fun _ => return false
    if unloadOk then do
      modifyData fun e => { e with state := .notLoaded, updateListeners := 0 }
      return true
    else do
      modifyData fun e => { e with state := .failedUnload }
      return false
  | .failedUnload => return false
  | _ => do
    modifyData fun e => { e with state := .notLoaded }
    return true

/-- Home Assistant's `ConfigEntries.async_reload`. -/
def asyncReload (cleans : PyError → Bool) : Method O Unit :=
  withLock do
    let unloaded ← asyncUnload
    if unloaded then asyncSetup cleans else return ()

/-- `_reload_on_options_update`. -/
def reloadOnOptionsUpdate [DecidableEq O] (cleans : PyError → Bool) : Method O Unit := do
  let s ← get
  if s.data.optionsSnapshot = none ∨ s.data.optionsSnapshot = some s.data.options then return ()
  else asyncReload cleans

/-- What Home Assistant does when the entry has been written: the listener of the entry runs, if there
is one. -/
def fireListener [DecidableEq O] (cleans : PyError → Bool) : Method O Unit := do
  let s ← get
  if 0 < s.data.updateListeners then reloadOnOptionsUpdate cleans else return ()

/-- What happens to the entry. -/
inductive Job (O : Type) where
  | setup
  | unload
  | reload
  /-- Its options are written, and the listener fires. -/
  | updateOptions (options : O)
  /-- Other data of it are written, and the listener fires. -/
  | updateData
  /-- Other entries come and go, and with them the counter. -/
  | others (there counter : Bool)
  deriving DecidableEq

variable [DecidableEq O] (cleans : PyError → Bool)

/-- A job. -/
def prog : Job O → Method O Unit
  | .setup => withLock do
    let s ← get
    if s.data.state = .notLoaded ∨ s.data.state = .setupFailed then asyncSetup cleans
    else return ()
  | .unload => withLock do
    let _ ← asyncUnload
    return ()
  | .reload => asyncReload cleans
  | .updateOptions options => do
    modifyData fun e => { e with options := options }
    fireListener cleans
  | .updateData => fireListener cleans
  | .others there counter => modifyData fun e => { e with others := there, counter := counter }

end Coroutines

/-- The event loop of the entry. -/
abbrev Loop (O : Type) := Pool (Guarded (Entry O)) (Demand Request) (Grant Reply) PyError (Job O)

abbrev EntryLabel (O : Type) := @Label (Demand Request) (Grant Reply) PyError (Job O)

/-- A move of it. -/
def step {O : Type} [DecidableEq O] (cleans : PyError → Bool) (P : Loop O) (l : EntryLabel O) :
    Option (Loop O) := Async.Mutex.step (prog cleans) P l

/-- The entry when Home Assistant has started. -/
def booted {O : Type} (options : O) : Loop O :=
  ⟨⟨false, ⟨.notLoaded, options, 0, false, false, none, none⟩⟩, []⟩

/-! ### What holds of the entry and its tasks -/

variable {O : Type}

/-- Where a task in flight is. -/
inductive Phase where
  /-- It waits for the lock, to reload or not. -/
  | waiting (reload : Bool)
  /-- It unloads the platforms. -/
  | unloading
  /-- It sets up and listens to no updates yet. -/
  | preparing
  /-- It sets up, listens, and has taken no snapshot yet. -/
  | listening
  /-- It sets up, has taken the snapshot, and has no coordinators yet. -/
  | recorded
  /-- It sets up and has its coordinators. -/
  | constructed
  deriving DecidableEq

/-- The task has the lock. -/
def Phase.holds : Phase → Bool
  | .waiting _ => false
  | _ => true

/-- How many tasks have the lock. -/
def holders (f : Multiset Phase) : ℕ := f.countP fun x => x.holds = true

/-- The snapshot is the options, unless a reload waits. -/
def Noted (f : Multiset Phase) (e : Entry O) : Prop :=
  0 < e.updateListeners ∧ (.waiting true ∈ f ∨ e.optionsSnapshot = some e.options)

/-- The snapshot and the options of the coordinators are the options, unless a reload waits. -/
def InForce (f : Multiset Phase) (e : Entry O) : Prop :=
  0 < e.updateListeners ∧
    (.waiting true ∈ f ∨ e.optionsSnapshot = some e.options ∧ e.built = some e.options)

/-- What a task that has the lock relies on. -/
def Fits (f : Multiset Phase) (e : Entry O) : Phase → Prop
  | .waiting _ | .unloading => True
  | .preparing => e.state ≠ .loaded
  | .listening => e.state ≠ .loaded ∧ 0 < e.updateListeners
  | .recorded => e.state ≠ .loaded ∧ Noted f e
  | .constructed => e.state ≠ .loaded ∧ InForce f e

/-- **What holds of the entry and the tasks in flight**: at most one has the lock, and while none has,
the options of an entry that is loaded are in force. -/
inductive Consistent : Multiset Phase → Guarded (Entry O) → Prop where
  | free {f : Multiset Phase} {e : Entry O} :
      holders f = 0 → (e.state = .loaded → InForce f e) → Consistent f ⟨false, e⟩
  | held {f : Multiset Phase} {e : Entry O} {x : Phase} :
      x.holds = true → holders f = 0 → Fits f e x → Consistent (x ::ₘ f) ⟨true, e⟩

variable {f g : Multiset Phase} {e e' : Entry O} {s : Guarded (Entry O)} {x : Phase}

theorem holders_cons (x : Phase) (f : Multiset Phase) :
    holders (x ::ₘ f) = holders f + x.holds.toNat := by
  unfold holders
  rw [Multiset.countP_cons]
  cases x.holds <;> rfl

/-- The task with the lock is the only one. -/
theorem Consistent.of_held (hx : x.holds = true) (h : Consistent (x ::ₘ f) s) :
    s.locked = true ∧ holders f = 0 ∧ Fits f s.data x := by
  generalize hg : x ::ₘ f = g at h
  cases h with
  | free hzero _ =>
    rw [← hg, holders_cons, hx, Bool.toNat_true] at hzero
    omega
  | @held f' e y hy hzero hfits =>
    rcases Multiset.cons_eq_cons.mp hg with ⟨rfl, rfl⟩ | ⟨-, f₁, -, rfl⟩
    · exact ⟨rfl, hzero, hfits⟩
    · rw [holders_cons, hx, Bool.toNat_true] at hzero
      omega

/-- The lock is free. -/
theorem Consistent.of_free (h : Consistent f ⟨false, e⟩) :
    holders f = 0 ∧ (e.state = .loaded → InForce f e) := by
  cases h with
  | free hzero hloaded => exact ⟨hzero, hloaded⟩

theorem Consistent.unlocked_of_zero (h : Consistent 0 s) : s = ⟨false, s.data⟩ := by
  generalize hg : (0 : Multiset Phase) = g at h
  cases h with
  | free _ _ => rfl
  | held _ _ _ => exact absurd hg (Multiset.zero_ne_cons)

/-! #### Changes -/

/-- More tasks wait. -/
theorem InForce.mono (h : InForce f e) (hfg : f ≤ g) : InForce g e :=
  ⟨h.1, h.2.imp_left (Multiset.mem_of_le hfg)⟩

theorem Fits.mono (h : Fits f e x) (hfg : f ≤ g) : Fits g e x := by
  cases x with
  | waiting | unloading => exact trivial
  | preparing | listening => exact h
  | recorded => exact ⟨h.1, h.2.1, h.2.2.imp_left (Multiset.mem_of_le hfg)⟩
  | constructed => exact ⟨h.1, h.2.mono hfg⟩

/-- One more waits. -/
theorem Consistent.wait (h : Consistent f s) (reload : Bool) :
    Consistent (.waiting reload ::ₘ f) s := by
  cases h with
  | free hzero hloaded =>
    refine .free ?_ fun hstate => (hloaded hstate).mono (Multiset.le_cons_self f _)
    rw [holders_cons, hzero]
    rfl
  | @held f e x hx hzero hfits =>
    rw [Multiset.cons_swap]
    refine .held hx ?_ (hfits.mono (Multiset.le_cons_self f _))
    rw [holders_cons, hzero]
    rfl

/-- A task that does not reload no longer waits. -/
theorem Consistent.unwait (h : Consistent (.waiting false ::ₘ f) ⟨false, e⟩) :
    Consistent f ⟨false, e⟩ := by
  obtain ⟨hzero, hloaded⟩ := h.of_free
  rw [holders_cons] at hzero
  refine .free hzero fun hstate => ?_
  obtain ⟨hlisteners, hwait | hsame⟩ := hloaded hstate
  · rcases Multiset.mem_cons.mp hwait with heq | hwait
    · cases heq
    · exact ⟨hlisteners, .inl hwait⟩
  · exact ⟨hlisteners, .inr hsame⟩

/-- The options change while a reload waits. -/
theorem Consistent.changeWaiting (h : Consistent f s) (options : O) :
    Consistent (.waiting true ::ₘ f) ⟨s.locked, { s.data with options := options }⟩ := by
  have hmem : Phase.waiting true ∈ Phase.waiting true ::ₘ f := Multiset.mem_cons_self _ f
  cases h with
  | free hzero hloaded =>
    refine .free ?_ fun hstate => ⟨(hloaded hstate).1, .inl hmem⟩
    rw [holders_cons, hzero]
    rfl
  | @held f e x hx hzero hfits =>
    have hmem' : Phase.waiting true ∈ Phase.waiting true ::ₘ f := Multiset.mem_cons_self _ f
    rw [Multiset.cons_swap]
    refine .held hx ?_ ?_
    · rw [holders_cons, hzero]
      rfl
    · cases x with
      | waiting | unloading => exact trivial
      | preparing | listening => exact hfits
      | recorded | constructed => exact ⟨hfits.1, hfits.2.1, .inl hmem'⟩

/-- The options change and the listener finds nothing new. -/
theorem Consistent.changeNothing (h : Consistent f s) {options : O}
    (hquiet : 0 < s.data.updateListeners →
      s.data.optionsSnapshot = none ∨ s.data.optionsSnapshot = some options) :
    Consistent f ⟨s.locked, { s.data with options := options }⟩ := by
  have hinForce : ∀ {f : Multiset Phase}, InForce f s.data →
      InForce f { s.data with options := options } := by
    rintro f ⟨hlisteners, hwait | ⟨hsame, hbuilt⟩⟩
    · exact ⟨hlisteners, .inl hwait⟩
    · have heq : some s.data.options = some options := by
        rw [← hsame]
        exact (hquiet hlisteners).resolve_left (by rw [hsame]; exact nofun)
      exact ⟨hlisteners, .inr ⟨hsame.trans heq, hbuilt.trans heq⟩⟩
  cases h with
  | free hzero hloaded => exact .free hzero fun hstate => hinForce (hloaded hstate)
  | @held f e x hx hzero hfits =>
    refine .held hx hzero ?_
    cases x with
    | waiting | unloading => exact trivial
    | preparing | listening => exact hfits
    | constructed => exact ⟨hfits.1, hinForce hfits.2⟩
    | recorded =>
      obtain ⟨hstate, hlisteners, hwait | hsame⟩ := hfits
      · exact ⟨hstate, hlisteners, .inl hwait⟩
      · refine ⟨hstate, hlisteners, .inr ?_⟩
        exact (hquiet hlisteners).resolve_left (by rw [hsame]; exact nofun)

/-- Other entries are nothing to it. -/
theorem Consistent.others (h : Consistent f s) (there counter : Bool) :
    Consistent f ⟨s.locked, { s.data with others := there, counter := counter }⟩ := by
  cases h with
  | free hzero hloaded => exact .free hzero hloaded
  | @held f e x hx hzero hfits =>
    refine .held hx hzero ?_
    cases x <;> exact hfits

/-! ### The specification of a job -/

/-- Nobody who waits for the lock is cancelled. -/
def Granted : (q : Demand Request) → Except PyError (Grant Reply q) → Prop
  | .acquire, a => a = .ok ()
  | .ask _, _ => True

/-- The job may reload. -/
def Job.reloads : Job O → Bool
  | .reload | .updateOptions _ | .updateData => true
  | .setup | .unload | .others _ _ => false

/-- Only a job that reloads waits to reload. -/
def own (w : Job O) (x : Phase) : Prop := x = .waiting true → w.reloads = true

/-- A part of the job `w` among the others. -/
def Meets (w : Job O) {α : Type}
    (Q : Multiset Phase → Guarded (Entry O) → Except PyError α → Prop) (p : Method O α)
    (f : Multiset Phase) (s : Guarded (Entry O)) : Prop :=
  Sat Granted Consistent (own w) Q p f s

/-- The task that has the lock is in the phase `x`. -/
structure Holding (x : Phase) (f : Multiset Phase) (s : Guarded (Entry O)) : Prop where
  locked : s.locked = true
  alone : holders f = 0
  fits : Fits f s.data x

/-- The task that has the lock gets as far as `x`, or fails. -/
def Reaches (x : Phase) {α : Type} :
    Multiset Phase → Guarded (Entry O) → Except PyError α → Prop
  | f, s, .ok _ => Holding x f s
  | f, s, .error _ => Holding .unloading f s

/-- What is known once the entry has been set up, or not. -/
def SetUp : Multiset Phase → Guarded (Entry O) → Except PyError Unit → Prop
  | f, s, .ok _ => Consistent f ⟨false, s.data⟩
  | f, s, .error _ => Holding .unloading f s

/-- What is left once the lock is given back. -/
def Unlocked {α : Type} (f : Multiset Phase) (s : Guarded (Entry O)) (_ : Except PyError α) : Prop :=
  Consistent f ⟨false, s.data⟩

variable {w : Job O} {α : Type} {cleans : PyError → Bool}
  {Q : Multiset Phase → Guarded (Entry O) → Except PyError α → Prop}

theorem Holding.consistent (h : Holding x f s) (hx : x.holds = true) : Consistent (x ::ₘ f) s := by
  obtain ⟨locked, e⟩ := s
  obtain rfl : locked = true := h.locked
  exact .held hx h.alone h.fits

/-- Whatever it was to rely on, the task may fail. -/
theorem Holding.failing (h : Holding x f s) : Holding .unloading f s := ⟨h.locked, h.alone, trivial⟩

theorem Holding.unlocked (h : Holding .preparing f s) : Consistent f ⟨false, s.data⟩ :=
  .free h.alone fun hstate => absurd hstate h.fits

/-- The task that has the lock awaits something. -/
theorem meets_ask {q : Request}
    {Q : Multiset Phase → Guarded (Entry O) → Except PyError (Reply q) → Prop}
    (hx : x.holds = true) (h : Holding x f s) (hQ : ∀ f s a, Holding x f s → Q f s a) :
    Meets w Q (ask q) f s := by
  refine sat_ask (fun hw => ?_) (h.consistent hx) fun a f₁ s₁ _ h₁ => ?_
  · subst hw
    cases hx
  · obtain ⟨hlocked, hzero, hfits⟩ := h₁.of_held hx
    exact hQ f₁ s₁ a ⟨hlocked, hzero, hfits⟩

theorem meets_ask_bind {q : Request} {p : Reply q → Method O α} (hx : x.holds = true)
    (h : Holding x f s) (hok : ∀ f s a, Holding x f s → Meets w Q (p a) f s)
    (herr : ∀ f s err, Holding .unloading f s → Q f s (.error err)) :
    Meets w Q (ask q >>= p) f s :=
  Sat.bind (Q := fun f s _ => Holding x f s) (meets_ask hx h fun _ _ _ h => h)
    (fun f s a h => hok f s a h) fun f s err h => herr f s err h.failing

theorem meets_get_bind {p : Guarded (Entry O) → Method O α} (h : Meets w Q (p s) f s) :
    Meets w Q (get >>= p) f s := h

/-! #### Setup -/

theorem meets_prepare (h : Holding .preparing f s) : Meets w (Reaches .listening) prepare f s := by
  refine meets_ask_bind rfl h (fun f s _ h => ?_) fun _ _ _ h => h
  refine sat_modifyData_bind (meets_get_bind ?_)
  have hlistening : Holding .listening f
      ⟨s.locked, { s.data with updateListeners := s.data.updateListeners + 1 }⟩ :=
    ⟨h.locked, h.alone, h.fits, Nat.succ_pos _⟩
  split_ifs
  · exact hlistening
  · refine meets_ask_bind rfl hlistening (fun f s _ h => ?_) fun _ _ _ h => h
    exact ⟨h.locked, h.alone, h.fits⟩

theorem meets_buildCoordinators (h : Holding .recorded f s) :
    Meets w (Reaches .constructed) buildCoordinators f s := by
  refine meets_ask_bind rfl h (fun f s summaries h => ?_) fun _ _ _ h => h
  cases construct summaries with
  | error err => exact h.failing
  | ok _ =>
    obtain ⟨hstate, hlisteners, hnoted⟩ := h.fits
    exact ⟨h.locked, h.alone, hstate, hlisteners, hnoted.imp_right fun hsame => ⟨hsame, rfl⟩⟩

theorem meets_setUpRest (h : Holding .constructed f s) :
    Meets w (Reaches .constructed) setUpRest f s := by
  refine meets_ask_bind rfl h (fun f s _ h => ?_) fun _ _ _ h => h
  refine meets_ask_bind rfl h (fun f s _ h => ?_) fun _ _ _ h => h
  refine meets_ask rfl h fun f s a h => ?_
  cases a with
  | ok _ => exact h
  | error err => exact h.failing

theorem meets_asyncSetupEntry (h : Holding .preparing f s) :
    Meets w (Reaches .constructed) asyncSetupEntry f s := by
  refine Sat.bind (meets_prepare h) (fun f s _ h => ?_) fun _ _ _ h => h
  have hrecorded : Holding .recorded f
      ⟨s.locked, { s.data with optionsSnapshot := some s.data.options, built := none }⟩ :=
    ⟨h.locked, h.alone, h.fits.1, h.fits.2, .inr rfl⟩
  refine sat_modifyData_bind ?_
  refine Sat.bind (meets_buildCoordinators hrecorded) (fun f s _ h => ?_) fun _ _ _ h => h
  exact meets_setUpRest h

theorem meets_asyncSetup (h : Holding .preparing f s) :
    Meets w Unlocked (asyncSetup cleans) f s := by
  have hbody : Meets w SetUp (do
        asyncSetupEntry
        modifyData fun e => { e with state := .loaded } : Method O Unit) f s := by
    refine Sat.bind (meets_asyncSetupEntry h) (fun f s _ h => ?_) fun _ _ _ h => h
    exact .free h.alone fun _ => h.fits.2
  refine Sat.tryCatch hbody (fun _ _ _ h => h) fun f s err h => ?_
  exact .free h.alone nofun

/-! #### Unload, and the jobs -/

theorem meets_asyncUnloadEntry (h : Holding .unloading f s) :
    Meets w (fun f s _ => Holding .unloading f s) asyncUnloadEntry f s := by
  refine meets_ask_bind rfl h (fun f s unloadOk h => meets_get_bind ?_) fun _ _ _ h => h
  split_ifs
  · exact Holding.mk h.locked h.alone trivial
  · exact h
  · exact h

/-- Whatever becomes of it, the entry is not loaded. -/
theorem meets_asyncUnload (h : Holding .unloading f s) :
    Meets w (fun f s _ => Holding .preparing f s) asyncUnload f s := by
  refine meets_get_bind ?_
  cases hstate : s.data.state with
  | notLoaded | setupFailed => exact ⟨h.locked, h.alone, nofun⟩
  | failedUnload =>
    refine ⟨h.locked, h.alone, fun hloaded => ?_⟩
    rw [hstate] at hloaded
    cases hloaded
  | loaded =>
    have htried : Meets w (fun f s (r : Except PyError Bool) => Holding .unloading f s ∧
        ∃ unloadOk, r = .ok unloadOk) (tryCatch asyncUnloadEntry fun _ => return false) f s :=
      Sat.tryCatch (meets_asyncUnloadEntry h) (fun _ _ _ h => ⟨h, _, rfl⟩) fun _ _ _ h => ⟨h, _, rfl⟩
    refine Sat.bind htried ?_ fun _ _ _ h => by obtain ⟨-, _, herr⟩ := h; cases herr
    rintro f s unloadOk ⟨h, -⟩
    split_ifs <;> exact ⟨h.locked, h.alone, nofun⟩

/-- A task waits for the lock, and gets it. -/
theorem meets_withLock {body : Method O Unit} (reload : Bool)
    (hw : reload = true → w.reloads = true) (h : Consistent (.waiting reload ::ₘ f) s)
    (hbody : ∀ f e, Consistent (.waiting reload ::ₘ f) ⟨false, e⟩ → holders f = 0 →
      Meets w Unlocked body f ⟨true, e⟩) : Meets w (Keeps Consistent) (withLock body) f s := by
  refine sat_withLock (fun hx => hw (Phase.waiting.inj hx)) h (fun f₁ s₁ h₁ hfree => ?_)
    fun err _ _ ha _ => by cases ha
  obtain ⟨locked, e⟩ := s₁
  dsimp only at hfree
  subst hfree
  have hzero := h₁.of_free.1
  rw [holders_cons] at hzero
  exact hbody f₁ e h₁ hzero

theorem meets_asyncReload (hw : w.reloads = true) (h : Consistent (.waiting true ::ₘ f) s) :
    Meets w (Keeps Consistent) (asyncReload cleans) f s := by
  refine meets_withLock true (fun _ => hw) h fun f e _ hzero => ?_
  refine Sat.bind (meets_asyncUnload ⟨rfl, hzero, trivial⟩) (fun f s unloaded h => ?_)
    fun _ _ _ h => h.unlocked
  split_ifs
  · exact meets_asyncSetup h
  · exact h.unlocked

/-- The listener reloads, or there is nothing new. -/
theorem meets_fireListener [DecidableEq O] (hw : w.reloads = true)
    (hquiet : (0 < s.data.updateListeners →
      s.data.optionsSnapshot = none ∨ s.data.optionsSnapshot = some s.data.options) → Consistent f s)
    (hwait : Consistent (.waiting true ::ₘ f) s) :
    Meets w (Keeps Consistent) (fireListener cleans) f s := by
  refine meets_get_bind ?_
  split_ifs with hlistens
  · refine meets_get_bind ?_
    split_ifs with hsame
    · exact hquiet fun _ => hsame
    · exact meets_asyncReload hw hwait
  · exact hquiet fun h => absurd h hlistens

/-- **A job among the others.** -/
theorem meets_prog [DecidableEq O] (w : Job O) (h : Consistent f s) :
    Meets w (Keeps Consistent) (prog cleans w) f s := by
  cases w with
  | setup =>
    refine meets_withLock false nofun (h.wait false) fun f e h hzero => meets_get_bind ?_
    split_ifs with hstate
    · refine meets_asyncSetup ⟨rfl, hzero, fun hloaded => ?_⟩
      rw [show e.state = .loaded from hloaded] at hstate
      rcases hstate with hstate | hstate <;> cases hstate
    · exact h.unwait
  | unload =>
    refine meets_withLock false nofun (h.wait false) fun f e _ hzero => ?_
    exact Sat.bind (meets_asyncUnload ⟨rfl, hzero, trivial⟩) (fun _ _ _ h => h.unlocked)
      fun _ _ _ h => h.unlocked
  | reload => exact meets_asyncReload rfl (h.wait true)
  | updateOptions options =>
    exact sat_modifyData_bind (meets_fireListener rfl h.changeNothing (h.changeWaiting options))
  | updateData => exact meets_fireListener rfl (fun _ => h) (h.wait true)
  | others there counter => exact h.others there counter

/-! ### Jobs that change no options -/

/-- The job writes the entry, and the listener fires. -/
def Job.fires : Job O → Bool
  | .updateOptions _ | .updateData => true
  | .setup | .unload | .reload | .others _ _ => false

/-- The options are those the entry began with, and the snapshot shows no others. -/
def Unchanged (options : O) (_ : Multiset Unit) (s : Guarded (Entry O)) : Prop :=
  s.data.options = options ∧
    (s.data.optionsSnapshot = none ∨ s.data.optionsSnapshot = some options)

/-- A part of the job `w` among jobs that change no options. The listener never suspends. -/
def Calm (options : O) (w : Job O) {α : Type} (p : Method O α) (f : Multiset Unit)
    (s : Guarded (Entry O)) : Prop :=
  Sat (fun _ _ => True) (Unchanged options) (fun _ => w.fires = false) (Keeps (Unchanged options))
    p f s

section Calm
variable {options : O} {u : Multiset Unit}

theorem calm_get_bind {p : Guarded (Entry O) → Method O α} (h : Calm options w (p s) u s) :
    Calm options w (get >>= p) u s := h

variable (hw : w.fires = false)
include hw

theorem calm_ask {q : Request} (h : Unchanged options u s) : Calm options w (ask q) u s :=
  sat_ask (x := ()) hw h fun _ _ _ _ h => h

theorem calm_ask_bind {q : Request} {g : Reply q → Method O α} (h : Unchanged options u s)
    (hg : ∀ v s a, Unchanged options v s → Calm options w (g a) v s) :
    Calm options w (ask q >>= g) u s :=
  Sat.bind (calm_ask hw h) (fun v s a h => hg v s a h) fun _ _ _ h => h

theorem calm_prepare (h : Unchanged options u s) : Calm options w prepare u s := by
  refine calm_ask_bind hw h fun u s _ h => sat_modifyData_bind (calm_get_bind ?_)
  split_ifs
  · exact h
  · exact calm_ask_bind hw h fun _ _ _ h => h

theorem calm_asyncSetup (h : Unchanged options u s) : Calm options w (asyncSetup cleans) u s := by
  have hbuild : ∀ u s, Unchanged options u s → Calm options w buildCoordinators u s := by
    refine fun u s h => calm_ask_bind hw h fun u s summaries h => ?_
    cases construct summaries <;> exact h
  have hrest : ∀ u s, Unchanged options u s → Calm options w setUpRest u s := fun u s h =>
    calm_ask_bind hw h fun u s _ h => calm_ask_bind hw h fun u s _ h => calm_ask hw h
  have hentry : Calm options w asyncSetupEntry u s := by
    refine Sat.bind (calm_prepare hw h) (fun u s _ h => ?_) fun _ _ _ h => h
    have hsnapshot : Unchanged options u
        ⟨s.locked, { s.data with optionsSnapshot := some s.data.options, built := none }⟩ :=
      ⟨h.1, .inr (congrArg some h.1)⟩
    refine sat_modifyData_bind ?_
    exact Sat.bind (hbuild u _ hsnapshot) (fun u s _ h => hrest u s h) fun _ _ _ h => h
  refine Sat.tryCatch ?_ (fun _ _ _ h => h) fun _ _ _ h => h
  exact Sat.bind hentry (fun _ _ _ h => h) fun _ _ _ h => h

theorem calm_asyncUnload (h : Unchanged options u s) : Calm options w asyncUnload u s := by
  have hentry : Calm options w asyncUnloadEntry u s := by
    refine calm_ask_bind hw h fun u s unloadOk h => calm_get_bind ?_
    split_ifs
    · exact ⟨h.1, .inl rfl⟩
    · exact h
    · exact h
  refine calm_get_bind ?_
  cases s.data.state with
  | notLoaded | setupFailed | failedUnload => exact h
  | loaded =>
    refine Sat.bind (Sat.tryCatch hentry (fun _ _ _ h => h) fun _ _ _ h => h) (fun u s unloadOk h => ?_)
      fun _ _ _ h => h
    split_ifs <;> exact h

theorem calm_withLock {body : Method O Unit} (h : Unchanged options u s)
    (hbody : ∀ u s, Unchanged options u s → Calm options w body u s) :
    Calm options w (withLock body) u s :=
  sat_withLock (x := ()) hw h (fun u s h _ => hbody u ⟨true, s.data⟩ h) fun _ _ _ _ h => h

theorem calm_asyncReload (h : Unchanged options u s) : Calm options w (asyncReload cleans) u s := by
  refine calm_withLock hw h fun u s h => ?_
  refine Sat.bind (calm_asyncUnload hw h) (fun u s unloaded h => ?_) fun _ _ _ h => h
  split_ifs
  · exact calm_asyncSetup hw h
  · exact h

end Calm

/-- The listener finds nothing new. -/
theorem calm_fireListener [DecidableEq O] {options : O} {u : Multiset Unit}
    (h : Unchanged options u s) : Calm options w (fireListener cleans) u s := by
  refine calm_get_bind ?_
  split_ifs
  · refine calm_get_bind ?_
    split_ifs with hsame
    · exact h
    · rw [h.1] at hsame
      exact absurd h.2 hsame
  · exact h

/-- **A job that changes no options, among such jobs.** -/
theorem calm_prog [DecidableEq O] {options : O} {u : Multiset Unit} (w : Job O)
    (hw : ∀ o, w = .updateOptions o → o = options) (h : Unchanged options u s) :
    Calm options w (prog cleans w) u s := by
  cases w with
  | setup =>
    refine calm_withLock rfl h fun u s h => calm_get_bind ?_
    split_ifs
    · exact calm_asyncSetup rfl h
    · exact h
  | unload =>
    refine calm_withLock rfl h fun u s h => ?_
    exact Sat.bind (calm_asyncUnload rfl h) (fun _ _ _ h => h) fun _ _ _ h => h
  | reload => exact calm_asyncReload rfl h
  | updateOptions o =>
    refine sat_modifyData_bind (calm_fireListener ⟨hw o rfl, h.2⟩)
  | updateData => exact calm_fireListener h
  | others there counter => exact h

/-! ### Runs -/

variable [DecidableEq O] {options : O} {P : Loop O} {τ : List (Move (Loop O) (EntryLabel O))}

theorem run_consistent (hr : Run (step cleans) (booted options) τ P)
    (hτ : ∀ m ∈ τ, Possible Granted m.label) : Inv Granted Consistent own P := by
  refine (hr.invariant_of (Inv Granted Consistent own) (fun _ l => Possible Granted l)
    ⟨0, .nil, .free rfl nofun⟩ (fun P l P' hP hl hs => ?_) hτ).1
  exact step_inv hP hl (fun w _ f h => meets_prog w h) hs

/-- **No change of the options is missed.** In every interleaving in which no one who waits for the
lock is cancelled: if the entry is loaded and neither being set up nor unloaded, then its coordinators
were built with the options it has, or a job that reloads it is in flight; and so if nothing is. -/
theorem options_in_force (hr : Run (step cleans) (booted options) τ P)
    (hτ : ∀ m ∈ τ, Possible Granted m.label) (hstate : P.shared.data.state = .loaded) :
    (P.shared.locked = false → P.shared.data.built = some P.shared.data.options ∨
      ∃ t ∈ P.tasks, t.job.reloads = true) ∧
    (P.tasks = [] → P.shared.data.built = some P.shared.data.options) := by
  obtain ⟨xs, hxs, hc⟩ := run_consistent hr hτ
  obtain ⟨⟨locked, e⟩, tasks⟩ := P
  dsimp only at hxs hc hstate ⊢
  constructor
  · intro hfree
    subst hfree
    rcases (hc.of_free.2 hstate).2 with hwait | ⟨-, hbuilt⟩
    · obtain ⟨t, ht, hown⟩ := hxs.exists_task hwait
      exact .inr ⟨t, ht, hown rfl⟩
    · exact .inl hbuilt
  · intro hnil
    subst hnil
    obtain rfl := hxs.eq_zero
    obtain rfl : locked = false := congrArg Guarded.locked hc.unlocked_of_zero
    rcases (hc.of_free.2 hstate).2 with hwait | ⟨-, hbuilt⟩
    · exact absurd hwait (Multiset.notMem_zero _)
    · exact hbuilt

/-- Replies under which everything succeeds, for an account without locks. -/
def sampleReply : (q : Demand Request) → Except PyError (Grant Reply q)
  | .acquire => .ok ()
  | .ask .implementation | .ask .counterLoad | .ask .gatewaysFirstRefresh | .ask .webhookSetup
  | .ask .forwardEntrySetups => .ok ()
  | .ask .getLocks => .ok []
  | .ask .unloadPlatforms => .ok true

/-- A job starts, or a task is handed its reply. -/
def sampleMove : Job ℕ ⊕ ℕ → EntryLabel ℕ
  | .inl w => .start w
  | .inr i => .reply i sampleReply

/-- What the entry comes to. -/
def samplePlay (moves : List (Job ℕ ⊕ ℕ)) : List (Move (Loop ℕ) (EntryLabel ℕ)) × Loop ℕ :=
  play (step fun _ => true) (booted 1) (moves.map sampleMove)

theorem possible_samplePlay (moves : List (Job ℕ ⊕ ℕ)) :
    ∀ m ∈ (samplePlay moves).1, Possible Granted m.label := by
  intro m hm
  obtain ⟨move, -, hmove⟩ := List.mem_map.mp (label_of_mem_play hm)
  rw [← hmove]
  cases move with
  | inl w => exact trivial
  | inr i =>
    intro q
    cases q with
    | acquire => exact rfl
    | ask q => exact trivial

/-- The options change while the setup has its coordinators and is not through; the reload waits. -/
def changedMidway : List (Job ℕ ⊕ ℕ) :=
  [.inl .setup, .inr 0, .inr 0, .inr 0, .inr 0, .inl (.updateOptions 2), .inr 0, .inr 0, .inr 0]

theorem options_in_force_midway :
    (samplePlay changedMidway).2.shared.data.built = some 1 ∧
      (∃ t ∈ (samplePlay changedMidway).2.tasks, t.job.reloads = true) ∧
      (samplePlay (changedMidway ++ List.replicate 8 (.inr 0))).2.shared.data.built = some 2 := by
  refine ⟨by decide, ?_, by decide⟩
  have hr : Run (step fun _ => true) (booted 1) (samplePlay changedMidway).1
      (samplePlay changedMidway).2 := run_play (booted 1) (changedMidway.map sampleMove)
  rcases (options_in_force hr (possible_samplePlay changedMidway) (by decide)).1 (by decide) with h | h
  · exact absurd h (by decide)
  · exact h

/-- **The listener reloads only when the options change.** In every interleaving: if a write of the
entry makes the listener reload, then options have been written that are not those the entry began
with. -/
theorem reload_of_change (hr : Run (step cleans) (booted options) τ P) :
    ∀ t ∈ P.tasks, t.job.fires = true →
      ∃ m ∈ τ, ∃ o, o ≠ options ∧ m.label = .start (.updateOptions o) := by
  intro t ht hfires
  by_contra hnone
  have hinv : Inv (fun _ _ => True) (Unchanged options)
      (fun (w : Job O) (_ : Unit) => w.fires = false) P := by
    refine (hr.invariant_of _ (fun _ l => ∀ o, l = .start (.updateOptions o) → o = options)
      ⟨0, .nil, rfl, .inl rfl⟩ (fun P l P' hP hl hs => ?_) fun m hm o ho => ?_).1
    · refine step_inv hP ?_ (fun w hw f h => calm_prog w (fun o ho => hl o ?_) h) hs
      · cases l with
        | start w => exact trivial
        | reply i ans => exact fun _ => trivial
      · rw [hw, ho]
    · by_contra hne
      exact hnone ⟨m, hm, o, hne, ho⟩
  obtain ⟨xs, hxs, -⟩ := hinv
  obtain ⟨l₁, l₂, hsplit⟩ := List.append_of_mem ht
  rw [hsplit] at hxs
  obtain ⟨_, _, -, hphase, -⟩ := hxs.split
  rw [hphase.phase] at hfires
  cases hfires

theorem reload_of_change_midway :
    (∃ t ∈ (samplePlay changedMidway).2.tasks, t.job.fires = true) ∧
      ∃ m ∈ (samplePlay changedMidway).1, ∃ o, o ≠ 1 ∧ m.label = .start (.updateOptions o) := by
  have hfires : ∃ t ∈ (samplePlay changedMidway).2.tasks, t.job.fires = true := by decide
  obtain ⟨t, ht, hjob⟩ := hfires
  have hr : Run (step fun _ => true) (booted 1) (samplePlay changedMidway).1
      (samplePlay changedMidway).2 := run_play (booted 1) (changedMidway.map sampleMove)
  exact ⟨⟨t, ht, hjob⟩, reload_of_change hr t ht hjob⟩

end TTLockConnect.Setup.Reload
