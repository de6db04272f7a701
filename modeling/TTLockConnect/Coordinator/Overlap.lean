import TTLockConnect.Coordinator.Quota

/-! # Polls that may overlap

Nothing keeps a second poll of a coordinator from beginning while one waits for a reply. Here each
poll moves from one `await` to the next, and the polls of an instance are interleaved in any order;
the runs in which none begins before the one in front of it has ended are those of `SensorRuns`. -/

namespace TTLockConnect.Coordinator.Overlap

open TTLockConnect.Text TTLockConnect.Models TTLockConnect.Api TTLockConnect.Coordinator.State
open TTLockConnect.Coordinator.Poll TTLockConnect.Coordinator.Overwrite
open TTLockConnect.Coordinator.Retry
open TTLockConnect.Coordinator.SensorTier TTLockConnect.Coordinator.SensorPolls
open TTLockConnect.Coordinator.SensorRuns TTLockConnect.Coordinator.Quota
open TTLockConnect.Async.Coroutine TTLockConnect.Async.Coroutine.Coro TTLockConnect.Async.Runs

/-! ### The polls of one instance -/

/-- A poll under way: what it is told, and what it waits for. -/
structure Flight where
  world : CalmWorld
  req : Request
  cont : Except PyError (Reply req) → Method Unit

/-- The poll once it has its reply. -/
def Flight.rest (f : Flight) : Method Unit := f.cont (f.world.reply f.req)

/-- The state in which it has it. -/
def Flight.wakes (f : Flight) (c : LockUpdateCoordinator) : LockUpdateCoordinator :=
  f.world.move f.req c

/-- An instance of the coordinator, with its polls under way. -/
structure Polling where
  shared : LockUpdateCoordinator
  flights : List Flight

/-- What happens next. What goes on while a poll waits is in its world. -/
inductive Event where
  | start (w : CalmWorld)
  | resume (i : ℕ)
  /-- Anything between two polls that leaves alone what decides about the door sensor. -/
  | meanwhile (change : LockUpdateCoordinator → LockUpdateCoordinator)

/-- One step: a poll begins, or has a reply, and runs up to its next `await`. -/
def step (P : Polling) : Event → Option Polling
  | .start w =>
    match asyncRefresh.advance P.shared with
    | .done _ s => some ⟨s, P.flights⟩
    | .wait s q k => some ⟨s, P.flights ++ [⟨w, q, k⟩]⟩
  | .resume i =>
    match P.flights[i]? with
    | none => none
    | some f =>
      match f.rest.advance (f.wakes P.shared) with
      | .done _ s => some ⟨s, P.flights.eraseIdx i⟩
      | .wait s q k => some ⟨s, P.flights.set i ⟨f.world, q, k⟩⟩
  | .meanwhile change =>
    if P.flights.isEmpty ∧ Steady P.shared (change P.shared) then some ⟨change P.shared, []⟩
    else none

abbrev PollingMove := Move Polling Event

/-- When the segment ends by calling `doorSensor/query`. -/
def queriedBy : Stop LockUpdateCoordinator Request Reply PyError Unit → List Instant
  | .done _ _ => []
  | .wait s q _ => queryTimes [(q, s)]

/-- The times at which a move calls `doorSensor/query`. -/
def asked (m : PollingMove) : List Instant :=
  match m.label with
  | .start _ => queriedBy (asyncRefresh.advance m.src.shared)
  | .resume i => (m.src.flights[i]?.map fun f =>
      queriedBy (f.rest.advance (f.wakes m.src.shared))).getD []
  | .meanwhile _ => []

/-- A poll does not begin while another is under way. -/
def Alone (m : PollingMove) : Prop := ∀ w, m.label = .start w → m.src.flights = []

/-- A poll that begins will remember its query. -/
def Remembering (m : PollingMove) : Prop :=
  ∀ w, m.label = .start w → Remembers w.toWorld m.src.shared

/-! ### Polls one after another -/

/-- The poll began in `c`, and has called `doorSensor/query` at these times. -/
structure UnderWay (c : LockUpdateCoordinator) (sofar : List Instant) (f : Flight)
    (s : LockUpdateCoordinator) : Prop where
  ends : asyncRefresh.run f.world.answer c = f.rest.run f.world.answer (f.wakes s)
  asks : queryTimes (asyncRefresh.calls f.world.answer c) =
    sofar ++ queryTimes (f.rest.calls f.world.answer (f.wakes s))

/-- The times of the queries, where each poll is one step. -/
def times (τ : List SensorMove) : List Instant := (τ.flatMap SensorRuns.asked).map Query.sent

/-- The run is one of whole polls, and of the one that is under way. -/
inductive Seen (τ : List PollingMove) (P : Polling) (τ' : List SensorMove)
    (c : LockUpdateCoordinator) : Prop where
  | idle : P.flights = [] → P.shared = c → τ.flatMap asked = times τ' → Seen τ P τ' c
  | flying {f : Flight} {sofar : List Instant} : P.flights = [f] →
      UnderWay c sofar f P.shared → Remembers f.world.toWorld c →
      τ.flatMap asked = times τ' ++ sofar → Seen τ P τ' c

/-- What is asked of the moves of whole polls. -/
def Whole (m : SensorMove) : Prop :=
  ¬ IsRestart m ∧ ∀ w, m.label = .poll w → Remembers w.toWorld m.src

section Simulation
variable {w : CalmWorld} {c s s' : LockUpdateCoordinator} {f : Flight} {sofar : List Instant}
  {q : Request} {k : Except PyError (Reply q) → Method Unit} {r : Except PyError Unit}
  {m : PollingMove} {τ : List PollingMove} {τ' : List SensorMove} {P P' : Polling}

theorem queryTimes_cons (call : Request × LockUpdateCoordinator)
    (calls : List (Request × LockUpdateCoordinator)) :
    queryTimes (call :: calls) = queryTimes [call] ++ queryTimes calls :=
  queryTimes_append [call] calls

theorem underWay_start (h : asyncRefresh.advance c = .wait s q k) :
    UnderWay c (queriedBy (asyncRefresh.advance c)) ⟨w, q, k⟩ s := by
  constructor
  · rw [run_advance, h]
    rfl
  · rw [calls_advance, h, queryTimes_cons]
    rfl

theorem UnderWay.next (hu : UnderWay c sofar f s)
    (h : f.rest.advance (f.wakes s) = .wait s' q k) :
    UnderWay c (sofar ++ queriedBy (f.rest.advance (f.wakes s))) ⟨f.world, q, k⟩ s' := by
  constructor
  · rw [hu.ends, run_advance, h]
    rfl
  · rw [hu.asks, calls_advance, h, queryTimes_cons, List.append_assoc]
    rfl

/-- A poll that has ended. -/
theorem UnderWay.done (hu : UnderWay c sofar f s) (h : f.rest.advance (f.wakes s) = .done r s') :
    (asyncRefresh.run f.world.answer c).2 = s' ∧
      queryTimes (asyncRefresh.calls f.world.answer c) = sofar := by
  constructor
  · rw [hu.ends, run_advance, h]
  · rw [hu.asks, calls_advance, h]
    exact List.append_nil _

theorem times_append (τ τ' : List SensorMove) : times (τ ++ τ') = times τ ++ times τ' := by
  unfold times
  rw [List.flatMap_append, List.map_append]

/-- The times at which a whole poll calls `doorSensor/query`. -/
theorem times_poll (w : CalmWorld) (c c' : LockUpdateCoordinator) :
    times [⟨c, .poll w, c'⟩] = queryTimes (asyncRefresh.calls w.answer c) := by
  unfold times
  rw [List.flatMap_singleton, SensorRuns.asked]
  dsimp only
  rw [queries, List.map_map]
  exact List.map_id _

theorem whole_poll (hrem : Remembers w.toWorld c) : Whole ⟨c, .poll w, s⟩ := by
  constructor
  · rintro ⟨fresh, hl⟩
    cases hl
  · intro w' hl
    cases hl
    exact hrem

theorem whole_meanwhile (change : LockUpdateCoordinator → LockUpdateCoordinator) :
    Whole ⟨c, .meanwhile change, s⟩ := by
  constructor
  · rintro ⟨fresh, hl⟩
    cases hl
  · intro w hl
    cases hl

/-- A poll that ends is one step of whole polls. -/
theorem seen_poll (hflights : P.flights = []) (hrem : Remembers w.toWorld c)
    (hends : (asyncRefresh.run w.answer c).2 = P.shared)
    (hasked : τ.flatMap asked = times τ' ++ queryTimes (asyncRefresh.calls w.answer c)) :
    ∃ τ'' c', Run SensorRuns.step c τ'' c' ∧ (∀ m ∈ τ'', Whole m) ∧ Seen τ P (τ' ++ τ'') c' := by
  refine ⟨_, _, .single (l := .poll w) rfl, fun m hm => ?_, .idle hflights hends.symm ?_⟩
  · rw [List.mem_singleton.mp hm]
    exact whole_poll hrem
  · rw [hasked, times_append, times_poll]

/-- A poll begins. -/
theorem seen_start (h : Seen τ P τ' c) (hnone : P.flights = [])
    (hrem : Remembers w.toWorld P.shared) (hs : step P (.start w) = some P') :
    ∃ τ'' c', Run SensorRuns.step c τ'' c' ∧ (∀ m ∈ τ'', Whole m) ∧
      Seen (τ ++ [⟨P, .start w, P'⟩]) P' (τ' ++ τ'') c' := by
  cases h with
  | flying hf => cases hnone.symm.trans hf
  | idle _ hc hasked =>
    rw [hc] at hrem
    have hτ : (τ ++ [(⟨P, .start w, P'⟩ : PollingMove)]).flatMap asked =
        times τ' ++ queriedBy (asyncRefresh.advance c) := by
      rw [List.flatMap_append, hasked, List.flatMap_singleton, ← hc]
      rfl
    simp only [step, hc, hnone] at hs
    cases hadv : asyncRefresh.advance c with
    | done r s =>
      rw [hadv] at hs hτ
      obtain rfl := Option.some.inj hs
      refine seen_poll rfl hrem ?_ ?_
      · rw [run_advance, hadv]
      · rw [hτ, calls_advance, hadv]
        rfl
    | wait s q k =>
      rw [hadv] at hs
      obtain rfl := Option.some.inj hs
      refine ⟨[], c, .nil, List.forall_mem_nil _, ?_⟩
      rw [List.append_nil]
      exact .flying rfl (underWay_start hadv) hrem hτ

/-- A poll has its reply. -/
theorem seen_resume {i : ℕ} (h : Seen τ P τ' c) (hs : step P (.resume i) = some P') :
    ∃ τ'' c', Run SensorRuns.step c τ'' c' ∧ (∀ m ∈ τ'', Whole m) ∧
      Seen (τ ++ [⟨P, .resume i, P'⟩]) P' (τ' ++ τ'') c' := by
  cases h with
  | idle hnone =>
    rw [step, hnone, List.getElem?_nil] at hs
    cases hs
  | @flying f sofar hf hu hrem hasked =>
    cases i with
    | succ i =>
      rw [step, hf, List.getElem?_cons_succ, List.getElem?_nil] at hs
      cases hs
    | zero =>
      have hτ : (τ ++ [(⟨P, .resume 0, P'⟩ : PollingMove)]).flatMap asked = times τ' ++
          (sofar ++ queriedBy (f.rest.advance (f.wakes P.shared))) := by
        rw [List.flatMap_append, hasked, List.flatMap_singleton, asked, List.append_assoc]
        dsimp only
        rw [hf]
        rfl
      rw [step, hf, List.getElem?_cons_zero] at hs
      dsimp only at hs
      cases hadv : f.rest.advance (f.wakes P.shared) with
      | done r s =>
        obtain ⟨hends, hcalls⟩ := hu.done hadv
        rw [hadv] at hs hτ
        obtain rfl := Option.some.inj hs
        refine seen_poll rfl hrem hends ?_
        rw [hτ, hcalls]
        exact congrArg _ (List.append_nil _)
      | wait s q k =>
        have hnext := hu.next hadv
        rw [hadv] at hs
        obtain rfl := Option.some.inj hs
        refine ⟨[], c, .nil, List.forall_mem_nil _, ?_⟩
        rw [List.append_nil]
        exact .flying rfl hnext hrem hτ

/-- **A move of polls that do not overlap** is none of whole polls, or one. -/
theorem seen_step {e : Event} (h : Seen τ P τ' c) (halone : Alone ⟨P, e, P'⟩)
    (hrem : Remembering ⟨P, e, P'⟩) (hs : step P e = some P') :
    ∃ τ'' c', Run SensorRuns.step c τ'' c' ∧ (∀ m ∈ τ'', Whole m) ∧
      Seen (τ ++ [⟨P, e, P'⟩]) P' (τ' ++ τ'') c' := by
  cases e with
  | start w => exact seen_start h (halone w rfl) (hrem w rfl) hs
  | resume i => exact seen_resume h hs
  | meanwhile change =>
    simp only [step] at hs
    split_ifs at hs with hcond
    obtain rfl := Option.some.inj hs
    cases h with
    | flying hf =>
      rw [hf] at hcond
      cases hcond.1
    | idle _ hc hasked =>
      rw [hc] at hcond
      have hstep : SensorRuns.step c (.meanwhile change) = some (change c) := if_pos hcond.2
      refine ⟨_, _, .single hstep, fun m hm => ?_, .idle rfl (congrArg change hc) ?_⟩
      · rw [List.mem_singleton.mp hm]
        exact whole_meanwhile change
      · rw [List.flatMap_append, hasked, times_append]
        rfl

end Simulation

/-- A day apart at least. -/
abbrev DayAfter (s t : Instant) : Prop := s + Duration.ofDays 1 ≤ t

/-- Polls that do not overlap are whole polls. -/
theorem run_seen {c₀ : LockUpdateCoordinator} {τ : List PollingMove} {P : Polling}
    (hr : Run step ⟨c₀, []⟩ τ P) (halone : ∀ m ∈ τ, Alone m) (hrem : ∀ m ∈ τ, Remembering m) :
    ∃ τ' c, Run SensorRuns.step c₀ τ' c ∧ (∀ m ∈ τ', Whole m) ∧ Seen τ P τ' c := by
  induction hr with
  | nil => exact ⟨[], c₀, .nil, List.forall_mem_nil _, .idle rfl rfl rfl⟩
  | @snoc τ P P' e _ hs ih =>
    obtain ⟨τ', c, hr', hwhole, hseen⟩ := ih (fun m hm => halone m (List.mem_append_left _ hm))
      fun m hm => hrem m (List.mem_append_left _ hm)
    have hlast : ⟨P, e, P'⟩ ∈ τ ++ [(⟨P, e, P'⟩ : PollingMove)] := by simp
    obtain ⟨τ'', c', hr'', hwhole', hseen'⟩ :=
      seen_step hseen (halone _ hlast) (hrem _ hlast) hs
    refine ⟨τ' ++ τ'', c', hr'.trans hr'', fun m hm => ?_, hseen'⟩
    rcases List.mem_append.mp hm with hm | hm
    · exact hwhole m hm
    · exact hwhole' m hm

/-- The queries of whole polls are a day apart. -/
theorem times_dayAfter {c₀ c : LockUpdateCoordinator} {τ : List SensorMove}
    (hr : Run SensorRuns.step c₀ τ c) (hwhole : ∀ m ∈ τ, Whole m) :
    (times τ).Pairwise DayAfter :=
  List.pairwise_map.mpr (run_held hr (fun m hm => (hwhole m hm).1) fun m hm => (hwhole m hm).2).1

/-- **The queries of an instance are a day apart** if its polls do not overlap and each remembers. -/
theorem run_dayOrMore {c₀ : LockUpdateCoordinator} {τ : List PollingMove} {P : Polling}
    (hr : Run step ⟨c₀, []⟩ τ P) (halone : ∀ m ∈ τ, Alone m) (hrem : ∀ m ∈ τ, Remembering m) :
    (τ.flatMap asked).Pairwise DayAfter := by
  obtain ⟨τ', c, hr', hwhole, hseen⟩ := run_seen hr halone hrem
  cases hseen with
  | idle _ _ hasked =>
    rw [hasked]
    exact times_dayAfter hr' hwhole
  | @flying f sofar _ hu hrem hasked =>
    -- the poll under way is brought to its end
    have hpoll : SensorRuns.step c (.poll f.world) = some (asyncRefresh.run f.world.answer c).2 := rfl
    have hday := times_dayAfter (hr'.snoc hpoll) fun m hm => by
      rcases List.mem_append.mp hm with hm | hm
      · exact hwhole m hm
      · rw [List.mem_singleton.mp hm]
        exact whole_poll hrem
    rw [times_append, times_poll, hu.asks, ← List.append_assoc] at hday
    rw [hasked]
    exact (List.pairwise_append.mp hday).1

/-! ### Sample runs -/

/-- The world of a poll that is told this of the door sensor. -/
def telling (sensor : Except PyError Sensor) : CalmWorld where
  reply := replyWith sensor
  move _ c := c
  leaves := leaves_still
  steady := steady_still

/-- A poll with so many calls. -/
def polling (sensor : Except PyError Sensor) (calls : ℕ) : List Event :=
  .start (telling sensor) :: List.replicate calls (.resume 0)

/-- Hours without a poll. -/
def pause (hours : ℤ) : Event := .meanwhile fun c =>
  { c with now := { c.now with instant := c.now.instant + Duration.ofHours hours } }

/-- The moves of a new coordinator. -/
abbrev movesOf (events : List Event) : List PollingMove :=
  (play step ⟨sampleCoordinator, []⟩ events).1

/-- Polls at 0, 1 and 4 hours, of a sensor that answers without a battery level. -/
def noBattery : List Event :=
  polling (.ok ⟨none⟩) 9 ++ [pause 1] ++ polling (.ok ⟨none⟩) 5 ++ [pause 3] ++
    polling (.ok ⟨none⟩) 5

/-- No poll of these moves begins before another has ended. -/
def apart (τ : List PollingMove) : Bool := τ.all fun m =>
  match m.label with
  | .start _ => m.src.flights.isEmpty
  | _ => true

theorem alone_of_apart {τ : List PollingMove} (h : apart τ = true) : ∀ m ∈ τ, Alone m := by
  intro m hm w hl
  have hempty := List.all_eq_true.mp h m hm
  rw [hl] at hempty
  exact List.isEmpty_iff.mp hempty

/-- **A sensor without a battery level is asked by every poll.** -/
theorem noBattery_tooOften : ¬ ∀ (c₀ : LockUpdateCoordinator) (P : Polling) (τ : List PollingMove),
    c₀.IsNew → Run step ⟨c₀, []⟩ τ P → (∀ m ∈ τ, Alone m) →
      (τ.flatMap asked).Pairwise DayAfter := by
  intro h
  have hday := h sampleCoordinator _ _ sampleCoordinator_isNew (run_play _ noBattery)
    (alone_of_apart (by decide +kernel))
  exact absurd hday (by decide +kernel)

/-- A lock on WiFi, whose calls all succeed. -/
theorem goesThrough_replyWith {w : World} {sensor : Except PyError Sensor}
    {c : LockUpdateCoordinator} (hw : w.reply = replyWith sensor) (hmove : w.move = fun _ c => c)
    (hconn : c.connectable = true) (hble : c.bluetoothAvailable = false) : GoesThrough w c := by
  have harrives : ∀ g, Arrives w c.lockId g := by
    intro g
    cases g <;> simp [Arrives, hw, replyWith, sampleReply]
    exact ⟨_, rfl⟩
  have hquiet : bleReply w (behindDetails w c) = none := by
    unfold bleReply behindDetails
    rw [hw, hmove]
    split_ifs <;> simp_all [replyWith]
  refine ⟨⟨hconn, fun _ => harrives _⟩, ⟨?_, .inr (.inr (.inl ?_))⟩, fun g _ => harrives g⟩
  · rintro ⟨e, he, -⟩
    cases hquiet.symm.trans he
  · rw [cloudReply, hw]
    exact ⟨_, rfl⟩

/-- The offset of local time stays. -/
def Unshifted (c : LockUpdateCoordinator) : Bool :=
  decide (c.now.offset ≤ c.offsetDayAgo) &&
    (gate c.data.sensor).join.all fun last => decide (c.now.offset ≤ last.offset)

/-- A poll that finds a battery level is remembered. -/
theorem remembers_replyWith {w : World} {battery : ℤ} {c : LockUpdateCoordinator}
    (hw : w.reply = replyWith (.ok ⟨some battery⟩)) (hmove : w.move = fun _ c => c)
    (hconn : c.connectable = true) (hble : c.bluetoothAvailable = false)
    (hf : (featuresOf w c).has doorSensorBit = true) (hoffset : Unshifted c = true) :
    Remembers w c := by
  rw [Unshifted, Bool.and_eq_true, decide_eq_true_eq, Option.all_eq_true] at hoffset
  refine ⟨fun _ => ?_, fun _ _ => hf, probesByDay_still hmove hoffset.1, fun _ last hlast => ?_⟩
  rotate_left
  · rw [(now_behindDetails hmove).1]
    exact of_decide_eq_true (hoffset.2 last (by rw [hlast]; rfl))
  have ho : outcome w c.lockId = .sensor (some battery) := by
    rw [outcome, hw]
    rfl
  rw [ho]
  exact ⟨rfl, goesThrough_replyWith hw hmove hconn hble, .inr ⟨(), by rw [hw]; rfl⟩⟩

theorem featuresOf_replyWith {w : World} {sensor : Except PyError Sensor}
    {c : LockUpdateCoordinator} (hw : w.reply = replyWith sensor)
    (h : c.slowTierDue c.detailsLastFetched c.now = true ∨
      c.data.features.has doorSensorBit = true) : (featuresOf w c).has doorSensorBit = true := by
  have hread : Features.fromFeatureValue (some "2000") = .ok (2 ^ doorSensorBit) := by
    decide +kernel
  unfold featuresOf
  rw [hw]
  split_ifs with hdue
  · rw [replyWith]
    dsimp only
    rw [hread]
    exact Nat.testBit_two_pow_self
  · exact h.resolve_left hdue

/-- Two polls, more than a day apart, of a sensor with a battery level. -/
def withBattery : List Event :=
  polling (.ok ⟨some 80⟩) 9 ++ [pause 25] ++ polling (.ok ⟨some 79⟩) 6

/-- Both of them ask. -/
theorem run_dayOrMore_withBattery : ((movesOf withBattery).flatMap asked).length = 2 ∧
    ((movesOf withBattery).flatMap asked).Pairwise DayAfter := by
  have halone : ∀ m ∈ movesOf withBattery, Alone m := alone_of_apart (by decide +kernel)
  refine ⟨by decide +kernel, run_dayOrMore (run_play _ withBattery) halone fun m hm w hl => ?_⟩
  have hsrc : ∀ m ∈ movesOf withBattery, m.src.flights.isEmpty = true →
      m.src.shared.connectable = true ∧ m.src.shared.bluetoothAvailable = false ∧
        Unshifted m.src.shared = true ∧
          (m.src.shared.slowTierDue m.src.shared.detailsLastFetched m.src.shared.now = true ∨
            m.src.shared.data.features.has doorSensorBit = true) := by decide +kernel
  obtain ⟨hconn, hble, hoffset, hf⟩ := hsrc m hm (List.isEmpty_iff.mpr (halone m hm w hl))
  have hmem := label_of_mem_play hm
  rw [hl] at hmem
  simp only [withBattery, polling, pause, List.cons_append, List.mem_append, List.mem_cons,
    List.mem_replicate, Event.start.injEq, reduceCtorEq, and_false, List.not_mem_nil, or_false,
    false_or] at hmem
  rcases hmem with rfl | rfl
  · exact remembers_replyWith rfl rfl hconn hble (featuresOf_replyWith rfl hf) hoffset
  · exact remembers_replyWith rfl rfl hconn hble (featuresOf_replyWith rfl hf) hoffset

end TTLockConnect.Coordinator.Overlap
