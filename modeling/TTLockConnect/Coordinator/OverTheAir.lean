import TTLockConnect.Ble.Answers
import TTLockConnect.Ble.LocalRead
import TTLockConnect.Ble.Radio
import TTLockConnect.Coordinator.Observed

/-! # A state that comes over the air

From the bytes a lock sends to the data of its coordinator. If the answer of a session holds an
encoded frame, in whatever pieces and with whatever between the frames that is no magic, the session
returns the payload of that frame (`asyncReadStatus_answered`). And if that payload tells whether the
lock is locked, then the poll that ran the session takes its state from it, whatever else happens
meanwhile, and does not ask the cloud for the state (`poll_overTheAir`). -/

namespace TTLockConnect.Coordinator.OverTheAir

open TTLockConnect.Text TTLockConnect.Models TTLockConnect.Ble.Cipher TTLockConnect.Ble.Protocol
open TTLockConnect.Ble.Codec TTLockConnect.Ble.RoundTrip TTLockConnect.Ble.Session
open TTLockConnect.Ble.Answers TTLockConnect.Ble.Radio TTLockConnect.Ble.LocalRead
open TTLockConnect.Ble.Reassembly
open TTLockConnect.Api TTLockConnect.Coordinator.State TTLockConnect.Coordinator.Poll
open TTLockConnect.Coordinator.Readings TTLockConnect.Coordinator.Tiers
open TTLockConnect.Coordinator.Writers TTLockConnect.Coordinator.Overwrite
open TTLockConnect.Coordinator.Observed
open TTLockConnect.Async.Coroutine TTLockConnect.Async.Coroutine.Coro
open TTLockConnect.Async.EventLoop TTLockConnect.Async.Runs

/-! ### A session that is answered -/

/-- A session over which all goes well, and in whose time `frame` is the first to come. -/
structure Answered (aes : BlockCipher) (b : Behaviour) (version : LockVersion) (key : Bytes)
    (frame : Frame) : Prop where
  reachable : b.reachable = true
  connection : ∃ mtuSize, b.connection = .ok mtuSize
  subscription : b.subscription = .ok ()
  written : ∀ i, b.written i = .ok ()
  unsubscription : b.unsubscription ≠ .error .timeout
  disconnection : b.disconnection ≠ .error .timeout
  query : InRange (statusFrame version)
  keyLength : key.length = AES_KEY_LENGTH
  heard : ∃ junk raw behind more, ¬ MAGIC <:+: junk ∧
    (∀ s ∈ ⟨frame, raw, behind⟩ :: more, Sent.Fits aes (some key) s) ∧
    b.heard.flatten = onAir junk (⟨frame, raw, behind⟩ :: more)

section Answered
variable {aes : BlockCipher} {b : Behaviour} {version : LockVersion} {key : Bytes} {frame : Frame}

theorem writeChunks_ok (hw : ∀ i, b.written i = .ok ()) :
    ∀ (chunks : List Bytes) (i : ℕ), writeChunks b i chunks = .ok ()
  | [], _ => rfl
  | _ :: chunks, i => by
    unfold writeChunks
    rw [hw i]
    exact writeChunks_ok hw chunks (i + 1)

/-- The frame that is first on the air is the first to be complete. -/
theorem Answered.firstFrame (h : Answered aes b version key frame) : ∃ raw,
    firstFrame b.heard = some raw ∧ Frame.decode aes raw (some key) = .ok frame := by
  obtain ⟨junk, raw, behind, more, hj, hfits, hair⟩ := h.heard
  have hkey : KeyFits (some key) := by
    intro k hk
    rw [← Option.some.inj hk]
    exact h.keyLength
  obtain ⟨hfed, -, hdecode⟩ := feed_onAir aes (some key) hkey junk hj _ hfits
  refine ⟨raw, ?_, hdecode _ (List.mem_cons_self ..)⟩
  have hemitted : (emitted b.heard).1 = (feedChunks .reset b.heard).1 := by
    rw [emitted_eq, feedChunks_reset]
  unfold Ble.Session.firstFrame
  rw [hemitted, hfed b.heard hair]
  rfl

/-- **The session returns what the lock has sent.** -/
theorem asyncReadStatus_answered (h : Answered aes b version key frame) :
    Ble.LocalRead.asyncReadStatus aes b version key = .ok frame.data := by
  obtain ⟨mtuSize, hmtu⟩ := h.connection
  obtain ⟨raw, hfirst, hdecode⟩ := h.firstFrame
  have hwires : ∃ payload,
      (LockSession.new version (some key) mtuSize).wire aes statusQuery = .ok payload :=
    exists_wire_iff.mpr ⟨h.query, h.keyLength⟩
  obtain ⟨payload, hsent⟩ := hwires
  have hwrite : write b (.new version (some key) mtuSize) payload = .ok () := by
    unfold write
    rw [writeChunks_ok h.written]
    rfl
  have hexchange : exchange aes b (.new version (some key) mtuSize) statusQuery = .ok raw := by
    unfold exchange awaitPending
    rw [hsent, hfirst]
    exact congrArg (· >>= fun _ => Except.ok raw) hwrite
  have hreply : Ble.LocalRead.query aes b version key mtuSize = .ok frame := by
    unfold Ble.LocalRead.query start
    rw [h.subscription]
    change (orNoResponse (exchange aes b (.new version (some key) mtuSize) statusQuery) >>=
      fun raw => Frame.decode aes raw (some key)) = .ok frame
    rw [hexchange]
    exact hdecode
  rw [asyncReadStatus_eq (asyncConnect_ok_iff.mpr ⟨h.reachable, hmtu⟩), hreply]
  unfold stop asyncDisconnect
  rw [orLogged_ok h.unsubscription, orLogged_ok h.disconnection]
  rfl

end Answered

/-! ### What a poll asks about the state -/

/-- A request about the state of the lock. -/
def aboutState : Request → Bool
  | .queryLockStatus _ _ _ _ | .queryOpenState _ => true
  | _ => false

/-- A request to the cloud about the state of the lock. -/
def asksCloud : Request → Bool
  | .queryOpenState _ => true
  | _ => false

/-- Nothing has been asked about the state yet. -/
def Unasked (l : Log) : Prop := ∀ x ∈ l, aboutState x.1 = false

/-- The lock has been asked once at most; and where it told its state, the cloud is not asked. -/
def LockFirst (l : Log) : Prop :=
  ∀ address name version key data,
    (⟨.queryLockStatus address name version key, .ok data⟩ : Exchange Reply PyError) ∈ l →
      l.findSome? statusOf = some data ∧
        ((LockStatus.parse data).locked.isSome → ∀ x ∈ l, asksCloud x.1 = false)

variable {gateway : Bool} {d : LockState} {l : Log} {x : Exchange Reply PyError}

theorem Unasked.append (h : Unasked l) (hx : aboutState x.1 = false) : Unasked (l ++ [x]) :=
  List.forall_mem_append.mpr ⟨h, List.forall_mem_singleton.mpr hx⟩

theorem Unasked.lockFirst (h : Unasked l) : LockFirst l :=
  fun _ _ _ _ _ hx => absurd (h _ hx) nofun

theorem Unasked.statusOf (h : Unasked l) : l.findSome? statusOf = none := by
  refine List.findSome?_eq_none_iff.mpr fun x hx => ?_
  obtain ⟨q, r⟩ := x
  have hq := h _ hx
  cases q <;> first | rfl | cases hq

theorem Unasked.asksCloud (h : Unasked l) : ∀ x ∈ l, asksCloud x.1 = false := by
  intro x hx
  have hq := h _ hx
  obtain ⟨q, r⟩ := x
  cases q <;> first | rfl | cases hq

theorem LockFirst.append (h : LockFirst l) (hx : aboutState x.1 = false) :
    LockFirst (l ++ [x]) := by
  intro address name version key data hmem
  rcases List.mem_append.mp hmem with hmem | hmem
  · obtain ⟨hfind, hcloud⟩ := h _ _ _ _ _ hmem
    refine ⟨by rw [findSome?_snoc, hfind]; rfl, fun hl => ?_⟩
    refine List.forall_mem_append.mpr ⟨hcloud hl, List.forall_mem_singleton.mpr ?_⟩
    obtain ⟨q, r⟩ := x
    cases q <;> first | rfl | cases hx
  · obtain rfl := List.mem_singleton.mp hmem
    cases hx

/-- The lock has told its state. -/
theorem Unasked.told (h : Unasked l) (address name : String) (version : LockVersion) (key : Bytes)
    (r : Except PyError Bytes) :
    LockFirst (l ++ [⟨.queryLockStatus address name version key, r⟩]) := by
  intro address' name' version' key' data hmem
  rcases List.mem_append.mp hmem with hmem | hmem
  · exact absurd (h _ hmem) nofun
  · have heq := List.mem_singleton.mp hmem
    cases heq
    refine ⟨by rw [findSome?_snoc, h.statusOf]; rfl, fun _ => ?_⟩
    exact List.forall_mem_append.mpr ⟨h.asksCloud, List.forall_mem_singleton.mpr rfl⟩

/-! ### The tiers -/

theorem updateDetails_unasked (t : LocalTime) (h : Unasked l) :
    Reading gateway (OnOk fun l _ => Unasked l) (updateDetails t d) l := by
  unfold updateDetails
  refine reading_get_seq fun c _ => ?_
  split_ifs
  · refine reading_request_seq fun details => ?_
    refine reading_seq (P := fun l _ => Unasked l)
      (reading_fromExcept fun _ _ => h.append rfl) fun l' features h => ?_
    exact reading_modify_seq (fun _ => rfl) (fun _ => rfl) (reading_pure (onOk_ok h))
  · exact reading_pure (onOk_ok h)

theorem unasked_walk : SensorWalk (fun l _ => Unasked l) (fun l _ => Unasked l) where
  unasked h := h
  answered _ _ _ h := h.append rfl
  refused _ _ h := h.append rfl
  loaded _ h := h.append rfl
  stored q _ hq h := by
    rcases hq with rfl | rfl <;> exact h.append rfl

theorem updateSensor_unasked (h : Unasked l) :
    Reading gateway (OnOk fun l _ => Unasked l) (updateSensor d) l := by
  unfold updateSensor
  split_ifs
  · dsimp only
    split_ifs
    · exact reading_seq (unasked_walk.updatePresentSensor h) fun _ _ h => reading_pure (onOk_ok h)
    · exact reading_seq (unasked_walk.checkForSensor h) fun _ _ h => reading_pure (onOk_ok h)
  · exact reading_pure (onOk_ok h)

/-- Where the cloud is asked the lock has not told its state. -/
def Untold (l : Log) : Prop :=
  Unasked l ∨ ∃ l₀ address name version key r, Unasked l₀ ∧
    l = l₀ ++ [⟨.queryLockStatus address name version key, r⟩] ∧
    ∀ data, r = .ok data → (LockStatus.parse data).locked = none

theorem Untold.lockFirst (h : Untold l) : LockFirst l := by
  rcases h with h | ⟨l₀, address, name, version, key, r, h, rfl, -⟩
  · exact h.lockFirst
  · exact h.told address name version key r

theorem Untold.cloud (h : Untold l) (lockId : ℤ) (r : Except PyError OpenStateBody) :
    LockFirst (l ++ [⟨.queryOpenState lockId, r⟩]) := by
  intro address name version key data hmem
  rcases List.mem_append.mp hmem with hmem | hmem
  · obtain ⟨hfind, -⟩ := h.lockFirst _ _ _ _ _ hmem
    refine ⟨by rw [findSome?_snoc, hfind]; rfl, fun hl => ?_⟩
    rcases h with h | ⟨l₀, address', name', version', key', r₀, h, rfl, hr₀⟩
    · exact absurd (h _ hmem) nofun
    · rcases List.mem_append.mp hmem with hmem | hmem
      · exact absurd (h _ hmem) nofun
      · cases List.mem_singleton.mp hmem
        rw [hr₀ data rfl] at hl
        cases hl
  · cases List.mem_singleton.mp hmem

theorem updateCloudState_lockFirst (h : Untold l) :
    Reading gateway (OnOk fun l _ => LockFirst l) (updateCloudState d) l := by
  unfold updateCloudState
  refine reading_get_seq fun c _ => ?_
  refine reading_tryCatch (P := fun l' _ => LockFirst l') ?_ (fun l' d' h => onOk_ok h) ?_
  · refine reading_bind (getLockState_reading c.lockId) ?_ ?_
    · rintro l' state ⟨res, rfl, -⟩
      exact reading_pure (h.cloud c.lockId res)
    · rintro l' e ⟨res, rfl, -⟩
      exact h.cloud c.lockId res
  · intro l' e h
    split_ifs
    · exact reading_pure (onOk_ok h)
    · exact reading_throw onOk_error
    · exact reading_throw onOk_error

theorem updateState_lockFirst (h : Unasked l) :
    Reading gateway (OnOk fun l _ => LockFirst l) (updateState d) l := by
  unfold updateState
  refine reading_seq asyncReadStateBle_reading fun l' status hstatus => ?_
  split
  · rcases hstatus with ⟨rfl, rfl⟩ | ⟨address, name, version, aesKey, r, rfl, rfl⟩
    · exact reading_pure (onOk_ok h.lockFirst)
    · exact reading_pure (onOk_ok (h.told address name version aesKey r))
  · rename_i heq
    have huntold : Untold l' := by
      rcases hstatus with ⟨rfl, rfl⟩ | ⟨address, name, version, aesKey, r, rfl, rfl⟩
      · exact .inl h
      · refine .inr ⟨l, address, name, version, aesKey, r, h, rfl, ?_⟩
        rintro data rfl
        simpa [Except.toOption] using heq
    refine reading_get_seq fun c _ => ?_
    split_ifs
    · exact reading_pure (onOk_ok huntold.lockFirst)
    · exact updateCloudState_lockFirst huntold

theorem updatePassage_lockFirst (t : LocalTime) (h : LockFirst l) :
    Reading gateway (OnOk fun l _ => LockFirst l) (updatePassage t d) l := by
  unfold updatePassage
  refine reading_get_seq fun c _ => ?_
  split_ifs
  · refine reading_request_seq fun config => ?_
    exact reading_modify_seq (fun _ => rfl) (fun _ => rfl)
      (reading_pure (onOk_ok (h.append rfl)))
  · exact reading_pure (onOk_ok h)

theorem updateGateways_lockFirst (t : LocalTime) (h : LockFirst l) :
    Reading gateway (OnOk fun l _ => LockFirst l) (updateGateways t d) l := by
  unfold updateGateways
  refine reading_get_seq fun c _ => ?_
  split_ifs
  · refine reading_seq (P := fun l _ => LockFirst l) ?_ fun l' gateways h => ?_
    · exact reading_request_seq fun res => reading_pure (onOk_ok (h.append rfl))
    · exact reading_modify_seq (fun _ => rfl) (fun _ => rfl) (reading_pure (onOk_ok h))
  · exact reading_pure (onOk_ok h)
  · exact reading_pure (onOk_ok h)

theorem updateCodes_lockFirst (t : LocalTime) (h : LockFirst l) :
    Reading gateway (OnOk fun l _ => LockFirst l) (updateCodes t d) l := by
  unfold updateCodes
  refine reading_get_seq fun c _ => ?_
  split_ifs
  · refine reading_request_seq fun passcodes => reading_request_seq fun ekeys => ?_
    exact reading_modify_seq (fun _ => rfl) (fun _ => rfl)
      (reading_pure (onOk_ok ((h.append rfl).append rfl)))
  · exact reading_pure (onOk_ok h)

/-- **A poll asks the lock first**, and the cloud only if the lock does not tell. -/
theorem fetchAll_lockFirst {s : LockUpdateCoordinator} (hi : Inv gateway s) :
    fetchAll.Sat (Inv gateway) Keep (Reads gateway (OnOk fun l _ => LockFirst l)) [] s s := by
  unfold fetchAll
  refine (sat_bind _).mpr (sat_get.mpr ?_)
  show (_ : Method LockState).Sat _ _ _ _ _ _
  have hnil : Unasked [] := List.forall_mem_nil _
  refine reading_seq (updateDetails_unasked _ hnil) ?_ s s hi rfl
  refine fun l d h => reading_seq (updateSensor_unasked h) ?_
  refine fun l d h => reading_seq (updateState_lockFirst h) ?_
  refine fun l d h => reading_seq (updatePassage_lockFirst _ h) ?_
  refine fun l d h => reading_seq (updateGateways_lockFirst _ h) ?_
  exact fun l d h => updateCodes_lockFirst _ h

/-! ### Every run -/

/-- What is known of every task that ends: of a poll, also whom it has asked. -/
structure AirPost (gateway : Bool) (w : Job) (born : LockUpdateCoordinator) (l : Log)
    (s s' : LockUpdateCoordinator) (r : Except PyError Unit) : Prop where
  poll : PollPost gateway w born l s s' r
  lockFirst : w = .refresh → Replaced r s' → LockFirst l

theorem prog_airPost (w : Job) (s : LockUpdateCoordinator) (hi : Inv gateway s) :
    (prog w).Sat (Inv gateway) (Guarantee w) (AirPost gateway w s) [] s s := by
  by_cases hw : w = .refresh
  · subst hw
    refine (sat_and _ (prog_pollPost .refresh s hi)
      (asyncRefresh_sat hi (fetchAll_lockFirst hi))).mono ?_
    exact fun l s₀ s' r h => ⟨h.1, fun _ hr => h.2.2.1 hr⟩
  · exact (prog_pollPost w s hi).mono fun l s₀ s' r h => ⟨h, fun h' => absurd h' hw⟩

variable {c : LockUpdateCoordinator} {τ : List (Move Loop LoopLabel)} {P : Loop}
  {m : Move Loop LoopLabel} {e : EndedTask} {aes : BlockCipher} {b : Behaviour}
  {version : LockVersion} {key : Bytes} {frame : Frame} {address name : String} {locked : Bool}

/-- **From the air to the data.** In every interleaving of a coordinator's jobs: if a poll that
succeeds has asked its lock in a session that is answered by an encoded frame, and the frame tells
whether the lock is locked, then the poll leaves that state, and that of the door if the frame tells
it and the lock has a door sensor; and it has not asked the cloud for the state. -/
theorem poll_overTheAir (h : c.IsNew) (hr : Run loopStep (alone c) τ P) (hm : m ∈ τ)
    (he : m.src.ended prog m.label = some e) (hj : e.job = .refresh)
    (hrep : Replaced e.result m.dst.shared)
    (hx : (⟨.queryLockStatus address name version key,
      Ble.LocalRead.asyncReadStatus aes b version key⟩ : Exchange Reply PyError) ∈ e.log)
    (ha : Answered aes b version key frame)
    (hl : (LockStatus.parse frame.data).locked = some locked) :
    m.dst.shared.data.locked = some locked ∧
      (∀ opened, (LockStatus.parse frame.data).doorOpen = some opened →
        doorPresent e.born.data e.log = true → m.dst.shared.data.opened = some opened) ∧
      ∀ x ∈ e.log, asksCloud x.1 = false := by
  have hrun := (Pool.run_spec (fun w s => prog_airPost w s)
    (fun _ _ _ _ _ _ hp => hp.poll.post.inv) (new_inv h) hr m hm).2
  rw [he] at hrun
  rw [asyncReadStatus_answered ha] at hx
  obtain ⟨hstatus, hcloud⟩ := hrun.lockFirst hj hrep _ _ _ _ _ hx
  have hobs : observation e.log = some (.lock frame.data) := by
    unfold observation
    rw [hstatus]
    dsimp only
    rw [hl]
    rfl
  have hobserves := hrun.poll.observes hj hrep
  unfold Observes at hobserves
  rw [hobs] at hobserves
  obtain ⟨hlocked, hdoor⟩ := hobserves
  refine ⟨?_, fun opened hopened hpresent => ?_, hcloud (by rw [hl]; rfl)⟩
  · rw [hlocked, Observation.locked, hl]
    cases locked <;> rfl
  · have hsome : (Observation.lock frame.data).opened = some opened := hopened
    rw [if_pos ⟨hpresent, by rw [hsome]; rfl⟩, hsome] at hdoor
    exact hdoor

/-! ### An answered poll -/

/-- The answer `14 01 64 00 01`, in two pieces between pieces of something else. -/
def answering : Behaviour :=
  { silent with
    heard :=
      let raw := responseFrame [0x14, 0x01, 0x64, 0x00, 0x01]
      [[0x33, 0x7f], raw.take 5, raw.drop 5 ++ [0x5a]] }

theorem answering_answered : Answered sampleAes answering sampleVersion sampleKey
    ⟨sampleVersion, 0x54, [0x14, 0x01, 0x64, 0x00, 0x01], 0⟩ where
  reachable := rfl
  connection := ⟨none, rfl⟩
  subscription := rfl
  written _ := rfl
  unsubscription := nofun
  disconnection := nofun
  query := by constructor <;> decide
  keyLength := rfl
  heard := by
    refine ⟨[0x33, 0x7f], responseFrame [0x14, 0x01, 0x64, 0x00, 0x01], [0x5a], [], by decide,
      fun s hs => ?_, by decide +kernel⟩
    obtain rfl := List.mem_singleton.mp hs
    exact ⟨rfl, by decide +kernel, by decide⟩

/-- A lock in range. -/
def nearLock : LockUpdateCoordinator :=
  { sampleCoordinator with bluetoothAvailable := true, inRange := true }

/-- A cloud that gives the credentials, and a lock that answers. -/
def airReply : (q : Request) → Except PyError (Reply q)
  | .detail _ => .ok
    { sampleDetails with
      lockVersion := some [("protocolType", 5), ("protocolVersion", 3), ("scene", 2),
        ("groupId", 1), ("orgId", 1)]
      aesKeyStr := some "000102030405060708090a0b0c0d0e0f" }
  | .queryLockStatus _ _ version key => Ble.LocalRead.asyncReadStatus sampleAes answering version key
  | q => sampleReply q

def airMoves : List (Move Loop LoopLabel) :=
  (play loopStep (alone nearLock) (.start .refresh :: List.replicate 5 (.reply 0 airReply))).1

/-- The move that ends the poll, and the poll it ends. -/
def airEnd : Option (Move Loop LoopLabel × EndedTask) := do
  let m ← airMoves[5]?
  let e ← m.src.ended prog m.label
  pure (m, e)

/-- The lock was asked, and this is how the session went. -/
def isAnswered : Exchange Reply PyError → Bool
  | ⟨.queryLockStatus _ _ version key, r⟩ =>
    version = sampleVersion ∧ key = sampleKey ∧
      r = Ble.LocalRead.asyncReadStatus sampleAes answering sampleVersion sampleKey
  | _ => false

theorem airEnd_spec : (airEnd.any fun p => p.2.log.any isAnswered && decide (p.2.job = .refresh ∧
    Replaced p.2.result p.1.dst.shared)) = true := by decide +kernel

theorem poll_overTheAir_answered : ∃ p ∈ airEnd, p.1.dst.shared.data.locked = some true ∧
    ∀ x ∈ p.2.log, asksCloud x.1 = false := by
  have hspec := airEnd_spec
  cases hp : airEnd with
  | none =>
    rw [hp] at hspec
    cases hspec
  | some p =>
    rw [hp] at hspec
    obtain ⟨hasked, hend⟩ := Bool.and_eq_true_iff.mp hspec
    obtain ⟨hj, hrep⟩ := of_decide_eq_true hend
    obtain ⟨x, hx, hanswered⟩ := List.any_eq_true.mp hasked
    simp only [airEnd, Option.bind_eq_bind, Option.bind_eq_some_iff, Option.pure_def,
      Option.some.injEq] at hp
    obtain ⟨m, hm, e, he, rfl⟩ := hp
    obtain ⟨q, r⟩ := x
    cases q with
    | queryLockStatus address name version key =>
      have hreply : version = sampleVersion ∧ key = sampleKey ∧
          r = Ble.LocalRead.asyncReadStatus sampleAes answering sampleVersion sampleKey :=
        of_decide_eq_true hanswered
      rw [hreply.1, hreply.2.1, hreply.2.2] at hx
      have hl : (LockStatus.parse [0x14, 0x01, 0x64, 0x00, 0x01]).locked = some true := by decide
      have hair := poll_overTheAir ⟨⟨_, _, _, rfl⟩, rfl, rfl, rfl, rfl⟩ (run_play _ _)
        (List.mem_of_getElem? hm) he hj hrep hx answering_answered hl
      exact ⟨(m, e), rfl, hair.1, hair.2.2⟩
    | _ => cases hanswered

end TTLockConnect.Coordinator.OverTheAir
