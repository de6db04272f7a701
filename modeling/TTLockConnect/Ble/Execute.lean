import TTLockConnect.Async.Mutex
import TTLockConnect.Ble.Session

/-! # The calls of a session on the event loop

`LockSession.execute` down to its awaits: the turn, each write, and the future that a notification
completes. A future is numbered by the order of its creation, a call by the order of the calls; the
number of the call that created a future is kept with it. Besides the moves of the tasks there are
the callbacks: a notification, and the cancellation of a future by a timeout or of its task. -/

namespace TTLockConnect.Ble.Execute

open TTLockConnect.Text TTLockConnect.Ble.Cipher TTLockConnect.Ble.Protocol
open TTLockConnect.Ble.Session
open TTLockConnect.Async.Coroutine TTLockConnect.Async.Coroutine.Coro TTLockConnect.Async.Runs
open TTLockConnect.Async.EventLoop TTLockConnect.Async.Mutex

/-! ### The session -/

/-- The state of an `asyncio.Future`. -/
inductive FutureState where
  | waiting
  | result (raw : Bytes)
  | cancelled
  deriving DecidableEq, Repr

/-- `done()`. -/
def FutureState.done : FutureState → Bool
  | .waiting => false
  | _ => true

structure Future where
  /-- The number of the call that created it. -/
  owner : ℕ
  state : FutureState
  deriving DecidableEq, Repr

/-- What the tasks of a session share, `_turn` apart. -/
structure Shared where
  assembler : FrameAssembler
  /-- `_pending`, by its number. -/
  pending : Option ℕ
  futures : List Future
  /-- How many calls there have been. -/
  calls : ℕ
  deriving DecidableEq, Repr

/-- The future with this number, in a new state. -/
def Shared.setFuture (c : Shared) (i : ℕ) (state : FutureState) : Shared :=
  { c with futures := c.futures.modify i fun f => { f with state := state } }

/-- `set_result`. -/
def Shared.setResult (c : Shared) (i : ℕ) (raw : Bytes) : Except PyError Shared :=
  match c.futures[i]? with
  | some f => if f.state.done then .error .invalidStateError else .ok (c.setFuture i (.result raw))
  | none => .error .attributeError

/-- `pending is None or pending.done()`. -/
def Shared.unexpected (c : Shared) : Bool :=
  match c.pending with
  | none => true
  | some i => (c.futures[i]?.map fun f => f.state.done).getD true

/-- The body of the loop of `_notification`. -/
def Shared.deliver (c : Shared) (raw : Bytes) : Except PyError Shared :=
  match c.unexpected, c.pending with
  | false, some i => c.setResult i raw
  | _, _ => .ok c

/-- `_notification`. -/
def Shared.notification (c : Shared) (data : Bytes) : Except PyError Shared :=
  (c.assembler.feed data).1.foldlM Shared.deliver { c with assembler := (c.assembler.feed data).2 }

/-- `cancel()` of a future. -/
def Shared.cancelFuture (c : Shared) (i : ℕ) : Shared :=
  match c.futures[i]? with
  | some f => if f.state.done then c else c.setFuture i .cancelled
  | none => c

/-- The begin of a turn: `reset`, `create_future`, `self._pending = pending`. -/
def Shared.begin (c : Shared) (number : ℕ) : Shared :=
  { c with
    assembler := .reset
    pending := some c.futures.length
    futures := c.futures ++ [⟨number, .waiting⟩] }

/-- `self._pending = None`. -/
def Shared.clear (c : Shared) : Shared := { c with pending := none }

/-! ### `execute` -/

/-- What a turn awaits. -/
inductive Wait where
  /-- `write_gatt_char` -/
  | write (chunk : Bytes)
  /-- `await pending` under the timeout -/
  | answer (future : ℕ)
  deriving DecidableEq, Repr

abbrev Waited : Wait → Type
  | .write _ => Unit
  | .answer _ => Bytes

abbrev Routine (α : Type) := Locking Shared Wait Waited PyError α

/-- A call with its number. -/
structure Numbered where
  number : ℕ
  call : Call
  deriving DecidableEq, Repr

/-- What a session is opened with. -/
structure Link where
  version : LockVersion
  aesKey : Option Bytes
  /-- `client.mtu_size` -/
  mtuSize : Option ℕ
  deriving DecidableEq, Repr

/-- The key of a call. -/
def Link.keyOf (link : Link) (call : Call) : Option Bytes :=
  if call.encrypted then link.aesKey else none

/-- The size of a chunk. -/
def Link.chunkSize (link : Link) : ℕ :=
  max DEFAULT_MTU (link.mtuSize.getD DEFAULT_MTU) - ATT_WRITE_OVERHEAD

/-- The chunks of a payload, one after another. -/
def writeChunks : List Bytes → Routine Unit
  | [] => pure ()
  | chunk :: chunks => do
    let _ ← ask (Wait.write chunk)
    writeChunks chunks

/-- `except BleakError`. -/
def orConnectionError (body : Routine Unit) : Routine Unit :=
  tryCatch body fun err => if err = .bleakError then throw .bleConnectionError else throw err

/-- `_write`, and the answer. -/
def writeAndWait (future : ℕ) (chunks : List Bytes) : Routine Bytes := do
  orConnectionError (writeChunks chunks)
  ask (Wait.answer future)

/-- `except TimeoutError`, and `finally: self._pending = None`. -/
def settling (body : Routine Bytes) : Routine Bytes := do
  let raw ← tryCatch
    (tryCatch body fun err => if err = .timeoutError then throw .bleNoResponse else throw err)
    fun err => do
      modifyData Shared.clear
      throw err
  modifyData Shared.clear
  pure raw

/-- The begin of a turn, with the number of its future. -/
def beginTurn (number : ℕ) : Routine ℕ :=
  modifyGet fun s => (s.data.futures.length, { s with data := s.data.begin number })

section Step
variable (aes : BlockCipher) (link : Link)

/-- The command of a call, on the wire. -/
def Link.wire (call : Call) : Except PyError Bytes :=
  Frame.encode aes ⟨link.version, call.command.toInt, call.data, 0⟩ (link.keyOf call)

/-- What is done under `_turn`. -/
def turn (n : Numbered) : Routine Bytes := do
  let future ← beginTurn n.number
  settling do
    let payload ← fromExcept (link.wire aes n.call)
    writeAndWait future (payload.toChunks link.chunkSize)

/-- `execute`. -/
def execute (n : Numbered) : Routine Frame := do
  if n.call.encrypted ∧ link.aesKey = none then throw .bleError
  else
    let raw ← withLock (turn aes link n)
    fromExcept (Frame.decode aes raw (link.keyOf n.call))

/-- A call as a job of the event loop. -/
def job (n : Numbered) : Routine Unit := do
  let _ ← execute aes link n

/-! ### The event loop -/

abbrev Conversation := Pool (Guarded Shared) (Demand Wait) (Grant Waited) PyError Numbered

/-- What happens next. -/
inductive Event where
  /-- A call begins, or a task resumes. -/
  | task (l : Label (Grant Waited) PyError Numbered)
  /-- `_notification` is called. -/
  | notify (data : Bytes)
  /-- A timeout, or the cancellation of a task, cancels the future it waits for. -/
  | interrupt (future : ℕ)

/-- A call gets the next number; a future that is awaited gives the result it has. -/
def mayMove (P : Conversation) : Label (Grant Waited) PyError Numbered → Bool
  | .start n => n.number = P.shared.data.calls
  | .reply i ans =>
    match P.tasks[i]? with
    | none => false
    | some t =>
      match t.req with
      | .ask (.answer future) =>
        match ans (.ask (.answer future)) with
        | .ok raw => (P.shared.data.futures[future]?.map Future.state) = some (.result raw)
        | .error _ => true
      | _ => true

/-- The number is used up. -/
def counted (P : Conversation) : Label (Grant Waited) PyError Numbered → Conversation
  | .start _ =>
    { P with shared := { P.shared with data :=
        { P.shared.data with calls := P.shared.data.calls + 1 } } }
  | .reply _ _ => P

/-- One step. An error of `_notification` would be swallowed by its caller. -/
def step (P : Conversation) : Event → Option Conversation
  | .task l => if mayMove P l then Async.Mutex.step (job aes link) (counted P l) l else none
  | .notify data =>
    match P.shared.data.notification data with
    | .ok c => some { P with shared := { P.shared with data := c } }
    | .error _ => some P
  | .interrupt future =>
    some { P with shared := { P.shared with data := P.shared.data.cancelFuture future } }

/-- A session over a connection just opened. -/
def opened : Conversation := ⟨⟨false, ⟨.reset, none, [], 0⟩⟩, []⟩

end Step

end TTLockConnect.Ble.Execute
