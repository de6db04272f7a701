import TTLockConnect.Async.Coroutine
import TTLockConnect.Async.Runs
import TTLockConnect.Text.Readings
import Mathlib.Data.List.AList

/-! # The persisted state of the locks

`LockStateStore`, shared by the coordinators of all entries: one dict of attributes for each lock,
loaded at the first use and saved at each update. Its methods are coroutines; dicts are objects, so
that two callers may hold the same one or not.

`Storage` is what is relied on of Home Assistant's `Store`. A load suspends, and gives all who wait
for it the same result. A save suspends until what it was given has been written; the dict is read
when it is written, a later save may take an earlier one along, and saves return in their order. -/

namespace TTLockConnect.Store.LockState

open TTLockConnect.Text TTLockConnect.Text.Readings TTLockConnect.Async.Runs
open TTLockConnect.Async.Coroutine TTLockConnect.Async.Coroutine.Coro

/-! ### Dicts -/

/-- The attributes of a lock. -/
abbrev Attributes (V : Type) := AList fun _ : String => V

/-- The attributes of all locks, by the text of the lock's id. -/
abbrev Dict (V : Type) := AList fun _ : List Char => Attributes V

/-- A dict as an object. -/
abbrev Ref := ℕ

/-- The arguments of `async_update`. -/
structure Update (V : Type) where
  lockId : ℤ
  attributes : Attributes V

variable {V : Type}

/-- `data.get(str(lock_id), {})` -/
def attributesOf (data : Dict V) (lockId : ℤ) : Attributes V := (data.lookup (str lockId)).getD ∅

/-- `data[str(lock_id)] = {**data.get(str(lock_id), {}), **attributes}` -/
def merge (u : Update V) (data : Dict V) : Dict V :=
  data.insert (str u.lockId) (u.attributes ∪ attributesOf data u.lockId)

/-! ### Home Assistant's `Store` -/

/-- What is relied on of a `Store`. -/
structure Storage (V : Type) where
  State : Type
  /-- What a store does by itself. -/
  Event : Type
  /-- What was last saved. -/
  file : State → Option (Dict V)
  /-- The dict of the last save, as long as it has not been written since. -/
  unsaved : State → Option Ref
  /-- The saves that have not returned. -/
  saves : State → ℕ
  /-- A new store of a file. -/
  opened : Option (Dict V) → State
  /-- `async_save`, up to where it suspends. -/
  save : Ref → State → State
  /-- An event, at which dicts may be read. -/
  act : (Ref → Dict V) → Event → State → Option State
  /-- The first of the saves may return. -/
  mayReturn : State → Bool
  /-- The first of the saves has returned. -/
  returned : State → State
  opened_spec : ∀ disk, file (opened disk) = disk ∧ unsaved (opened disk) = none ∧
    saves (opened disk) = 0
  save_spec : ∀ r s, file (save r s) = file s ∧ unsaved (save r s) = some r ∧
    saves (save r s) = saves s + 1
  /-- A store writes what it is to save, and nothing else. -/
  act_spec : ∀ dict e s s', act dict e s = some s' → saves s' = saves s ∧
    (file s' = file s ∧ unsaved s' = unsaved s ∨
      ∃ r, unsaved s = some r ∧ (unsaved s' = some r ∨
        unsaved s' = none ∧ file s' = some (dict r)))
  returned_spec : ∀ s, file (returned s) = file s ∧ unsaved (returned s) = unsaved s ∧
    saves (returned s) = saves s - 1
  /-- The last save returns only when it has been written. -/
  mayReturn_spec : ∀ s, mayReturn s = true → saves s = 1 → unsaved s = none

/-! ### The methods -/

variable (S : Storage V)

/-- `LockStateStore`, with the dicts there are. -/
structure LockStateStore where
  data : Option Ref
  dicts : List (Dict V)
  store : S.State

/-- What is awaited. -/
inductive Await where
  | load
  | save

/-- A load finds a dict, or nothing that was ever saved. -/
abbrev Reply : Await → Type
  | .load => Option Ref
  | .save => Unit

/-- A coroutine of the store. -/
abbrev Method (α : Type) := Coro (LockStateStore S) Await Reply PyError α

variable {S}

/-- The content of a dict. -/
def LockStateStore.dict (s : LockStateStore S) (r : Ref) : Dict V := s.dicts.getD r ∅

/-- A dict changed in place. -/
def LockStateStore.mutate (f : Dict V → Dict V) (r : Ref) (s : LockStateStore S) :
    LockStateStore S := { s with dicts := s.dicts.set r (f (s.dict r)) }

/-- `{}` -/
def newDict : Method S Ref := do
  let s ← get
  set { s with dicts := s.dicts ++ [∅] }
  pure s.dicts.length

/-- `result or {}` -/
def orEmpty (result : Option Ref) : Method S Ref := do
  let s ← get
  match result with
  | some r => if (s.dict r).entries.isEmpty then newDict else pure r
  | none => newDict

/-- `_async_data` behind the load. -/
def assign (result : Option Ref) : Method S Ref := do
  let r ← orEmpty result
  modify fun s => { s with data := some r }
  pure r

/-- `_async_data` -/
def asyncData : Method S Ref := do
  let s ← get
  match s.data with
  | some r => pure r
  | none =>
    let result ← call Await.load
    assign result

/-- `async_get` -/
def asyncGet (lockId : ℤ) : Method S (Attributes V) := do
  let data ← asyncData
  let s ← get
  pure (attributesOf (s.dict data) lockId)

/-- `async_save(data)` -/
def asyncSave (data : Ref) : Method S Unit := do
  modify fun s => { s with store := S.save data s.store }
  call Await.save

/-- `async_update` -/
def asyncUpdate (u : Update V) : Method S Unit := do
  let data ← asyncData
  modify fun s => s.mutate (merge u) data
  asyncSave data

/-! ### Concurrent calls -/

/-- The calls of the methods. -/
inductive Call (V : Type) where
  | get (lockId : ℤ)
  | update (u : Update V)

/-- The coroutine of a call. -/
def prog : Call V → Method S Unit
  | .get lockId => do
    let _ ← asyncGet lockId
  | .update u => asyncUpdate u

/-- A call that waits. -/
structure Waiting (S : Storage V) (q : Await) where
  call : Call V
  cont : Except PyError (Reply q) → Method S Unit

/-- The store, its calls that wait for the load, whose result is the same for all, and those that
wait for their saves, in the order of these. -/
structure System (S : Storage V) where
  shared : LockStateStore S
  result : Option Ref
  loading : List (Waiting S .load)
  saving : List (Waiting S .save)

/-- A new store, on a file with this content if any was ever saved. -/
def start (S : Storage V) (disk : Option (Dict V)) : System S where
  shared := ⟨none, [disk.getD ∅], S.opened disk⟩
  result := disk.map fun _ => 0
  loading := []
  saving := []

/-- What comes next: a call, the load for one of those who wait for it, the end of the first save, or
an event of Home Assistant's store. -/
inductive Label (S : Storage V) where
  | call (c : Call V)
  | loaded (i : ℕ)
  | saved
  | store (e : S.Event)

namespace System

/-- A call goes on to where it stops, and may be over. -/
def goOn (sys : System S) (c : Call V) :
    Stop (LockStateStore S) Await Reply PyError Unit → System S × Option (Call V)
  | .done _ s => ({ sys with shared := s }, some c)
  | .wait s .load k => ({ sys with shared := s, loading := sys.loading ++ [⟨c, k⟩] }, none)
  | .wait s .save k => ({ sys with shared := s, saving := sys.saving ++ [⟨c, k⟩] }, none)

/-- The first save returns. -/
def saveReturned (sys : System S) : System S :=
  { sys with
    shared := { sys.shared with store := S.returned sys.shared.store }
    saving := sys.saving.tail }

/-- One step, and the call that it ends, if any. -/
def stepOut (sys : System S) : Label S → Option (System S × Option (Call V))
  | .call c => some (sys.goOn c ((prog c).advance sys.shared))
  | .loaded i =>
    match sys.loading[i]? with
    | none => none
    | some t =>
      let sys' := { sys with loading := sys.loading.eraseIdx i }
      some (sys'.goOn t.call ((t.cont (.ok sys.result)).advance sys.shared))
  | .saved =>
    match sys.saving with
    | [] => none
    | t :: _ =>
      if S.mayReturn sys.shared.store then
        let sys' := sys.saveReturned
        some (sys'.goOn t.call ((t.cont (.ok ())).advance sys'.shared))
      else none
  | .store e =>
    match S.act sys.shared.dict e sys.shared.store with
    | none => none
    | some store => some ({ sys with shared := { sys.shared with store := store } }, none)

def step (sys : System S) (l : Label S) : Option (System S) := (sys.stepOut l).map Prod.fst

/-- The call that a step ends. -/
def ended (sys : System S) (l : Label S) : Option (Call V) := (sys.stepOut l).bind Prod.snd

/-- All calls have finished. -/
def Idle (sys : System S) : Prop := sys.loading = [] ∧ sys.saving = []

end System

/-- A move of a run. -/
abbrev StoreMove (S : Storage V) := Move (System S) (Label S)

/-- The updates that have finished, in the order in which they have. -/
def completed (τ : List (StoreMove S)) : List (Update V) :=
  τ.filterMap fun m => match m.src.ended m.label with
    | some (.update u) => some u
    | _ => none

/-- The attributes of a lock on disk, and what the updates have made of them. -/
def merged (disk : Option (Dict V)) (us : List (Update V)) (lockId : ℤ) : Attributes V :=
  (us.filter fun u => u.lockId = lockId).foldl (fun attributes u => u.attributes ∪ attributes)
    (attributesOf (disk.getD ∅) lockId)

/-- **No update is lost**, neither in memory nor on disk. -/
structure NothingLost (disk : Option (Dict V)) (us : List (Update V)) (sys : System S) : Prop where
  memory : ∃ r, sys.shared.data = some r ∧
    ∀ lockId, attributesOf (sys.shared.dict r) lockId = merged disk us lockId
  file : ∀ lockId,
    attributesOf ((S.file sys.shared.store).getD ∅) lockId = merged disk us lockId

end TTLockConnect.Store.LockState
