import TTLockConnect.Async.Runs
import TTLockConnect.Ble.Protocol
import Mathlib.Logic.Equiv.Basic
import Mathlib.Tactic.SplitIfs

/-! # A session with a lock

`LockSession`: the calls of `execute` take turns. A turn resets the assembler, writes its command in
chunks and waits for a frame; the first frame to be complete is its answer, whatever is in it. Steps
are what may happen next on the event loop: a call, a chunk that has been written, a notification,
and the ways in which a turn ends. -/

namespace TTLockConnect.Ble.Session

open TTLockConnect.Text TTLockConnect.Ble.Cipher TTLockConnect.Ble.Protocol
open TTLockConnect.Async.Runs

def DEFAULT_MTU : ℕ := 23

def ATT_WRITE_OVERHEAD : ℕ := 3

/-! ### The state and its steps -/

/-- A call of `execute`. -/
structure Call where
  command : Command
  data : Bytes
  encrypted : Bool
  deriving DecidableEq, Repr

/-- `execute(Command.QUERY_LOCK_STATUS)`, the call of `async_read_status`. -/
def statusQuery : Call := ⟨.queryLockStatus, [], true⟩

/-- The call that holds `_turn`, with the chunks it has not yet written and the notifications that
have come since its turn began. -/
structure Turn where
  call : Call
  unsent : List Bytes
  heard : List Bytes
  deriving DecidableEq, Repr

/-- `LockSession`. A pending future is its result, if that has been set. -/
structure LockSession where
  version : LockVersion
  aesKey : Option Bytes
  /-- `client.mtu_size` -/
  mtuSize : Option ℕ
  assembler : FrameAssembler
  pending : Option (Option Bytes)
  turn : Option Turn
  /-- The calls that wait for `_turn`. -/
  waiting : List Call
  deriving DecidableEq, Repr

/-- What happens next. -/
inductive SessionLabel where
  | execute (call : Call)
  /-- The first of the calls that wait gets the turn. -/
  | take
  /-- A chunk has been written. -/
  | written
  | notify (data : Bytes)
  /-- The turn ends with its answer. -/
  | resume
  /-- The turn ends by a failed write, a timeout or a cancellation. -/
  | fail (err : PyError)
  deriving DecidableEq, Repr

/-- The key of a call. -/
def LockSession.keyOf (s : LockSession) (call : Call) : Option Bytes :=
  if call.encrypted then s.aesKey else none

/-- The size of a chunk. -/
def LockSession.chunkSize (s : LockSession) : ℕ :=
  max DEFAULT_MTU (s.mtuSize.getD DEFAULT_MTU) - ATT_WRITE_OVERHEAD

/-- `pending.set_result(raw)`, unless there is nothing pending or it is done. -/
def deliver (pending : Option (Option Bytes)) (raw : Bytes) : Option (Option Bytes) :=
  match pending with
  | some none => some (some raw)
  | pending => pending

/-- `_notification`. -/
def LockSession.notification (s : LockSession) (data : Bytes) : LockSession :=
  { s with
    assembler := (s.assembler.feed data).2
    pending := (s.assembler.feed data).1.foldl deliver s.pending
    turn := s.turn.map fun t => { t with heard := t.heard ++ [data] } }

/-- `finally: self._pending = None`, and the turn is given back. -/
def LockSession.over (s : LockSession) : LockSession := { s with pending := none, turn := none }

/-- How a turn may fail: its next chunk is not written, or no answer comes in time, or the call is
cancelled. -/
def Turn.mayFail (t : Turn) : PyError → Bool
  | .bleConnectionError => !t.unsent.isEmpty
  | .bleNoResponse => t.unsent.isEmpty
  | .cancelled => true
  | _ => false

section Step
variable (aes : BlockCipher)

/-- The command of a call, on the wire. -/
def LockSession.wire (s : LockSession) (call : Call) : Except PyError Bytes :=
  Frame.encode aes ⟨s.version, call.command.toInt, call.data, 0⟩ (s.keyOf call)

/-- The turn begins: `execute` up to its first write. -/
def LockSession.begin (s : LockSession) (call : Call) (waiting : List Call) : LockSession :=
  match s.wire aes call with
  | .ok payload =>
    { s with
      assembler := .reset
      pending := some none
      turn := some ⟨call, payload.toChunks s.chunkSize, []⟩
      waiting := waiting }
  | .error _ => { s with assembler := .reset, pending := none, turn := none, waiting := waiting }

/-- One step. A future that a timeout has cancelled takes no result any more, so that the turn may be
over at once. -/
def LockSession.step (s : LockSession) : SessionLabel → Option LockSession
  | .execute call =>
    if call.encrypted ∧ s.aesKey = none then some s
    else some { s with waiting := s.waiting ++ [call] }
  | .take =>
    match s.turn, s.waiting with
    | none, call :: waiting => some (s.begin aes call waiting)
    | _, _ => none
  | .written =>
    match s.turn with
    | some ⟨call, _ :: unsent, heard⟩ => some { s with turn := some ⟨call, unsent, heard⟩ }
    | _ => none
  | .notify data => some (s.notification data)
  | .resume =>
    match s.turn, s.pending with
    | some ⟨_, [], _⟩, some (some _) => some s.over
    | _, _ => none
  | .fail err =>
    match s.turn with
    | some t => if t.mayFail err then some s.over else none
    | none => none

/-- The call that the step ends, with what it returns or raises. -/
def LockSession.ended (s : LockSession) : SessionLabel → Option (Call × Except PyError Frame)
  | .execute call =>
    if call.encrypted ∧ s.aesKey = none then some (call, .error .bleError) else none
  | .take =>
    match s.turn, s.waiting with
    | none, call :: _ =>
      match s.wire aes call with
      | .ok _ => none
      | .error err => some (call, .error err)
    | _, _ => none
  | .resume =>
    match s.turn, s.pending with
    | some ⟨call, [], _⟩, some (some raw) => some (call, Frame.decode aes raw (s.keyOf call))
    | _, _ => none
  | .fail err => s.turn.map fun t => (t.call, .error err)
  | .written | .notify _ => none

end Step

/-- A session over a connection just opened. -/
def LockSession.new (version : LockVersion) (aesKey : Option Bytes) (mtuSize : Option ℕ) :
    LockSession := ⟨version, aesKey, mtuSize, .reset, none, none, []⟩

/-! ### The answer of a turn -/

/-- What an assembler just reset makes of these notifications. -/
def emitted (heard : List Bytes) : List Bytes × FrameAssembler :=
  heard.foldl (fun out data => (out.1 ++ (out.2.feed data).1, (out.2.feed data).2)) ([], .reset)

/-- The first frame in these notifications that is complete. -/
def firstFrame (heard : List Bytes) : Option Bytes := (emitted heard).1.head?

theorem emitted_snoc (heard : List Bytes) (data : Bytes) : emitted (heard ++ [data]) =
    ((emitted heard).1 ++ ((emitted heard).2.feed data).1, ((emitted heard).2.feed data).2) := by
  unfold emitted
  rw [List.foldl_append]
  rfl

theorem foldl_deliver_done (raw : Bytes) (frames : List Bytes) :
    frames.foldl deliver (some (some raw)) = some (some raw) := by
  induction frames with
  | nil => rfl
  | cons f frames ih => exact ih

theorem foldl_deliver_none (frames : List Bytes) : frames.foldl deliver none = none := by
  induction frames with
  | nil => rfl
  | cons f frames ih => exact ih

/-- The first frame is taken, the others are dropped. -/
theorem foldl_deliver (frames more : List Bytes) :
    more.foldl deliver (some frames.head?) = some (frames ++ more).head? := by
  cases frames with
  | cons f frames => exact foldl_deliver_done f more
  | nil =>
    cases more with
    | nil => rfl
    | cons g more => exact foldl_deliver_done g more

/-- **The invariant of a session.** Without a turn nothing is pending; within one, the assembler and
what is pending come from what has been heard since the turn began. -/
structure Inv (s : LockSession) : Prop where
  idle : s.turn = none → s.pending = none
  busy : ∀ t, s.turn = some t →
    s.pending = some (firstFrame t.heard) ∧ s.assembler = (emitted t.heard).2

variable {aes : BlockCipher} {s s' : LockSession} {l : SessionLabel}

theorem inv_over (s : LockSession) : Inv s.over := ⟨fun _ => rfl, nofun⟩

theorem inv_begin (s : LockSession) (call : Call) (waiting : List Call) :
    Inv (s.begin aes call waiting) := by
  unfold LockSession.begin
  cases s.wire aes call with
  | ok payload => exact ⟨nofun, fun t ht => by cases ht; exact ⟨rfl, rfl⟩⟩
  | error err => exact ⟨fun _ => rfl, nofun⟩

theorem inv_notification (hi : Inv s) (data : Bytes) : Inv (s.notification data) := by
  constructor
  · intro ht
    have hidle : s.pending = none := hi.idle (Option.map_eq_none_iff.mp ht)
    change (s.assembler.feed data).1.foldl deliver s.pending = none
    rw [hidle, foldl_deliver_none]
  · intro t' ht
    obtain ⟨t, hturn, rfl⟩ := Option.map_eq_some_iff.mp ht
    obtain ⟨hp, ha⟩ := hi.busy t hturn
    change (s.assembler.feed data).1.foldl deliver s.pending = some (firstFrame (t.heard ++ [data])) ∧
      (s.assembler.feed data).2 = (emitted (t.heard ++ [data])).2
    rw [firstFrame, emitted_snoc, hp, ha, firstFrame, foldl_deliver]
    exact ⟨rfl, rfl⟩

/-- What a step can do. -/
theorem step_cases (h : s.step aes l = some s') :
    (∃ call, l = .execute call ∧ (s' = s ∨ s' = { s with waiting := s.waiting ++ [call] })) ∨
    (∃ call waiting, l = .take ∧ s' = s.begin aes call waiting) ∨
    (∃ call chunk unsent heard, l = .written ∧ s.turn = some ⟨call, chunk :: unsent, heard⟩ ∧
      s' = { s with turn := some ⟨call, unsent, heard⟩ }) ∨
    (∃ data, l = .notify data ∧ s' = s.notification data) ∨
    (l = .resume ∧ s' = s.over) ∨ ∃ err, l = .fail err ∧ s' = s.over := by
  cases l with
  | execute call =>
    simp only [LockSession.step] at h
    split_ifs at h
    · exact .inl ⟨call, rfl, .inl (Option.some.inj h).symm⟩
    · exact .inl ⟨call, rfl, .inr (Option.some.inj h).symm⟩
  | take =>
    simp only [LockSession.step] at h
    split at h
    · rename_i call waiting _ _
      exact .inr (.inl ⟨call, waiting, rfl, (Option.some.inj h).symm⟩)
    · cases h
  | written =>
    simp only [LockSession.step] at h
    split at h
    · rename_i call chunk unsent heard ht
      exact .inr (.inr (.inl ⟨call, chunk, unsent, heard, rfl, ht, (Option.some.inj h).symm⟩))
    · cases h
  | notify data =>
    exact .inr (.inr (.inr (.inl ⟨data, rfl, (Option.some.inj h).symm⟩)))
  | resume =>
    simp only [LockSession.step] at h
    split at h
    · exact .inr (.inr (.inr (.inr (.inl ⟨rfl, (Option.some.inj h).symm⟩))))
    · cases h
  | fail err =>
    simp only [LockSession.step] at h
    split at h
    · split_ifs at h
      exact .inr (.inr (.inr (.inr (.inr ⟨err, rfl, (Option.some.inj h).symm⟩))))
    · cases h

theorem step_inv (hi : Inv s) (h : s.step aes l = some s') : Inv s' := by
  obtain ⟨call, -, rfl | rfl⟩ | ⟨call, waiting, -, rfl⟩ | ⟨call, chunk, unsent, heard, -, ht, rfl⟩ |
    ⟨data, -, rfl⟩ | ⟨-, rfl⟩ | ⟨err, -, rfl⟩ := step_cases h
  · exact hi
  · exact ⟨hi.idle, hi.busy⟩
  · exact inv_begin s call waiting
  · refine ⟨nofun, fun t ht' => ?_⟩
    cases ht'
    exact hi.busy ⟨call, chunk :: unsent, heard⟩ ht
  · exact inv_notification hi data
  · exact inv_over s
  · exact inv_over s

theorem new_inv (version : LockVersion) (aesKey : Option Bytes) (mtuSize : Option ℕ) :
    Inv (LockSession.new version aesKey mtuSize) := ⟨fun _ => rfl, nofun⟩

/-- **Which frame a call returns**: the first one that has been complete in its turn. -/
theorem ended_ok (hi : Inv s) {call : Call} {frame : Frame}
    (h : s.ended aes l = some (call, .ok frame)) :
    ∃ t raw, l = .resume ∧ s.turn = some t ∧ t.call = call ∧ firstFrame t.heard = some raw ∧
      Frame.decode aes raw (s.keyOf call) = .ok frame := by
  cases l with
  | execute call' =>
    simp only [LockSession.ended] at h
    split_ifs at h
    cases h
  | take =>
    simp only [LockSession.ended] at h
    split at h
    · split at h <;> cases h
    · cases h
  | written => cases h
  | notify data => cases h
  | fail err =>
    obtain ⟨t, -, ht⟩ := Option.map_eq_some_iff.mp h
    cases ht
  | resume =>
    simp only [LockSession.ended] at h
    split at h
    · rename_i call' heard raw ht hp
      obtain ⟨rfl, hd⟩ := Prod.mk.inj (Option.some.inj h)
      refine ⟨_, raw, rfl, ht, rfl, ?_, hd⟩
      rw [(hi.busy _ ht).1] at hp
      exact Option.some.inj hp
    · cases h

/-! ### What a state read believes -/

/-- The frame that `async_read_status` reads its status from, when the move ends its call. -/
def statusRead (aes : BlockCipher) (m : Move LockSession SessionLabel) : Option Frame :=
  match m.src.ended aes m.label with
  | some (call, .ok frame) => if call = statusQuery then some frame else none
  | _ => none

/-- A `RESPONSE` frame that echoes `QUERY_LOCK_STATUS` and reports success. -/
structure AnswersQuery (frame : Frame) : Prop where
  response : frame.command = Command.response.toInt
  echo : (Response.parse frame.data).command = some (BitVec.ofInt 8 Command.queryLockStatus.toInt)
  succeeded : (Response.parse frame.data).succeeded = some true

/-- A state is read only from an answer to the query. -/
def BelievesOwnAnswer (aes : BlockCipher) (m : Move LockSession SessionLabel) : Prop :=
  ∀ frame ∈ statusRead aes m, (LockStatus.parse frame.data).locked.isSome = true →
    AnswersQuery frame

/-- The fourth byte of the payload is a lock state. -/
def TellsState (frame : Frame) : Prop := frame.data[3]? = some 0 ∨ frame.data[3]? = some 1

/-- The frame is `54` with a payload `14 01 …`, or it does not tell a state. -/
def Harmless (frame : Frame) : Prop :=
  TellsState frame → frame.command = 0x54 ∧ frame.data[0]? = some 0x14 ∧ frame.data[1]? = some 0x01

/-- When a state query is answered: the first frame that is complete among the notifications since
its turn began does not decode, or it is harmless. -/
def FirstFrameHarmless (aes : BlockCipher) (m : Move LockSession SessionLabel) : Prop :=
  m.label = .resume → ∀ t ∈ m.src.turn, t.call = statusQuery → ∀ raw ∈ firstFrame t.heard,
    ∀ frame, Frame.decode aes raw m.src.aesKey = .ok frame → Harmless frame

theorem tellsState_iff (frame : Frame) :
    (LockStatus.parse frame.data).locked.isSome = true ↔ TellsState frame := by
  have hdrop : (LockStatus.parse frame.data).locked = frame.data[3]?.bind lockedStates := by
    change ((frame.data.drop RESPONSE_HEADER_LENGTH)[1]?).bind lockedStates = _
    rw [List.getElem?_drop]
    rfl
  rw [hdrop, TellsState]
  cases hb : frame.data[3]? with
  | none => simp
  | some b =>
    simp only [Option.bind_some, Option.some.injEq]
    unfold lockedStates
    by_cases h0 : b = 0
    · simp [h0]
    · by_cases h1 : b = 1
      · simp [h1]
      · rw [if_neg h0, if_neg h1]
        exact iff_of_false Bool.false_ne_true fun h => h.elim h0 h1

theorem answersQuery_iff (frame : Frame) : AnswersQuery frame ↔
    frame.command = 0x54 ∧ frame.data[0]? = some 0x14 ∧ frame.data[1]? = some 0x01 := by
  have hs : (Response.parse frame.data).succeeded = some true ↔ frame.data[1]? = some 0x01 := by
    change (frame.data[1]?).map (· == RESPONSE_SUCCESS) = some true ↔ _
    cases frame.data[1]? with
    | none => simp
    | some b => simp [RESPONSE_SUCCESS]
  constructor
  · intro h
    exact ⟨h.response, h.echo, hs.mp h.succeeded⟩
  · rintro ⟨h1, h2, h3⟩
    exact ⟨h1, h2, hs.mpr h3⟩

theorem keyOf_statusQuery (s : LockSession) : s.keyOf statusQuery = s.aesKey := rfl

/-- What a turn that ends with its answer returns. -/
theorem ended_resume (hi : Inv s) (h : s.step aes .resume = some s') {t : Turn}
    (ht : s.turn = some t) {raw : Bytes} (hraw : firstFrame t.heard = some raw) :
    s.ended aes .resume = some (t.call, Frame.decode aes raw (s.keyOf t.call)) := by
  have hp : s.pending = some (some raw) := by rw [(hi.busy t ht).1, hraw]
  obtain ⟨call, unsent, heard⟩ := t
  simp only [LockSession.step, ht, hp] at h
  simp only [LockSession.ended, ht, hp]
  cases unsent with
  | nil => rfl
  | cons chunk unsent => cases h

theorem believesOwnAnswer_iff {m : Move LockSession SessionLabel} (hi : Inv m.src)
    (hs : m.src.step aes m.label = some m.dst) :
    BelievesOwnAnswer aes m ↔ FirstFrameHarmless aes m := by
  constructor
  · intro hb hl t ht hc raw hraw frame hd hstate
    rw [hl] at hs
    have hended := ended_resume hi hs ht hraw
    rw [hc, keyOf_statusQuery, hd] at hended
    have hread : statusRead aes m = some frame := by
      rw [statusRead, hl, hended]
      exact if_pos rfl
    exact (answersQuery_iff frame).mp (hb frame hread ((tellsState_iff frame).mpr hstate))
  · intro hf frame hread htells
    rw [Option.mem_def, statusRead] at hread
    split at hread
    · rename_i call frame' hended
      split_ifs at hread with hc
      cases hread
      obtain ⟨t, raw, hl, ht, htc, hraw, hd⟩ := ended_ok hi hended
      rw [hc, keyOf_statusQuery] at hd
      have hharm := hf hl t ht (htc.trans hc) raw hraw frame hd
      exact (answersQuery_iff frame).mpr (hharm ((tellsState_iff frame).mp htells))
    · cases hread

/-! ### A refused query and an answered one -/

/-- A permutation that keeps lengths is a block cipher, for every key the same. -/
def permCipher (σ : Equiv.Perm Bytes) (h : ∀ b, (σ b).length = b.length) : BlockCipher where
  encrypt _ := σ
  decrypt _ := σ.symm
  length_encrypt _ b hb := (h b).trans hb
  length_decrypt _ b hb := by rw [← h, Equiv.apply_symm_apply, hb]
  decrypt_encrypt _ b _ := σ.symm_apply_apply b
  encrypt_decrypt _ b _ := σ.apply_symm_apply b

theorem length_swap {x y : Bytes} (h : x.length = y.length) (b : Bytes) :
    (Equiv.swap x y b).length = b.length := by
  rw [Equiv.swap_apply_def]
  split_ifs with h1 h2
  · rw [h1, h]
  · rw [h2, h]
  · rfl

def sampleKey : Bytes :=
  [0x00, 0x01, 0x02, 0x03, 0x04, 0x05, 0x06, 0x07,
    0x08, 0x09, 0x0a, 0x0b, 0x0c, 0x0d, 0x0e, 0x0f]

/-- The padded empty payload of a query, chained with the key, and what AES makes of it. -/
def queryBlock : Bytes × Bytes :=
  ([0x10, 0x11, 0x12, 0x13, 0x14, 0x15, 0x16, 0x17,
    0x18, 0x19, 0x1a, 0x1b, 0x1c, 0x1d, 0x1e, 0x1f],
  [0x07, 0xfe, 0xef, 0x74, 0xe1, 0xd5, 0x03, 0x6e,
    0x90, 0x0e, 0xee, 0x11, 0x8e, 0x94, 0x92, 0x93])

/-- The same of the refusal `14 00 64 00 01`. -/
def refusalBlock : Bytes × Bytes :=
  ([0x14, 0x01, 0x66, 0x03, 0x05, 0x0e, 0x0d, 0x0c,
    0x03, 0x02, 0x01, 0x00, 0x07, 0x06, 0x05, 0x04],
  [0x27, 0x9a, 0x69, 0x81, 0x02, 0xd5, 0x89, 0x5d,
    0xd9, 0x9b, 0xc5, 0x52, 0x83, 0xa1, 0x2e, 0xd6])

/-- The same of the answer `14 01 64 00 01`. -/
def answerBlock : Bytes × Bytes :=
  ([0x14, 0x00, 0x66, 0x03, 0x05, 0x0e, 0x0d, 0x0c,
    0x03, 0x02, 0x01, 0x00, 0x07, 0x06, 0x05, 0x04],
  [0x01, 0x84, 0x31, 0x9a, 0x81, 0x05, 0x4f, 0x71,
    0x9a, 0x9c, 0x6e, 0x01, 0xde, 0xcc, 0x82, 0xe8])

/-- AES under `sampleKey`, as far as these blocks go. -/
def sampleAes : BlockCipher :=
  permCipher
    ((Equiv.swap queryBlock.1 queryBlock.2).trans
      ((Equiv.swap refusalBlock.1 refusalBlock.2).trans (Equiv.swap answerBlock.1 answerBlock.2)))
    fun b => by
      rw [Equiv.trans_apply, Equiv.trans_apply]
      exact (length_swap (by rfl) _).trans ((length_swap (by rfl) _).trans (length_swap (by rfl) _))

def sampleVersion : LockVersion := ⟨5, 3, 2, 1, 1⟩

/-- A `RESPONSE` frame of the lock. -/
def responseFrame (payload : Bytes) : Bytes :=
  match Frame.encode sampleAes ⟨sampleVersion, Command.response.toInt, payload, 0⟩
      (some sampleKey) with
  | .ok raw => raw
  | .error _ => []

/-- A session in which a query is answered with this payload. -/
def queryAnswered (payload : Bytes) : List SessionLabel :=
  [.execute statusQuery, .take, .written, .written, .notify (responseFrame payload), .resume]

instance (frame : Frame) : Decidable (AnswersQuery frame) :=
  decidable_of_iff _ (answersQuery_iff frame).symm

instance (aes : BlockCipher) (m : Move LockSession SessionLabel) :
    Decidable (BelievesOwnAnswer aes m) :=
  inferInstanceAs (Decidable (∀ frame ∈ statusRead aes m, _ → _))

/-- The moves of a session over a new connection. -/
abbrev sessionMoves (labels : List SessionLabel) : List (Move LockSession SessionLabel) :=
  (play (LockSession.step sampleAes) (LockSession.new sampleVersion (some sampleKey) none) labels).1

end TTLockConnect.Ble.Session
