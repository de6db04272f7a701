import TTLockConnect.Coordinator.Fields

/-! # Specifications of what runs between a copy and its replacement

`Reading g P p l`: the coroutine `p`, started after the replies `l`, leaves the coordinator's data
alone, and `P` holds of the replies it ends with and of its result. The tiers of a poll are readings
that carry the copy on (`Carries`). -/

namespace TTLockConnect.Coordinator.Readings

open TTLockConnect.Text TTLockConnect.Models TTLockConnect.Ble.Protocol TTLockConnect.Api
open TTLockConnect.Coordinator.State TTLockConnect.Coordinator.Poll TTLockConnect.Coordinator.Fields
open TTLockConnect.Async.Coroutine TTLockConnect.Async.Coroutine.Coro

/-- **The invariant of a coordinator** for a lock with or without a gateway. -/
structure Inv (gateway : Bool) (c : LockUpdateCoordinator) : Prop where
  hasGateway : c.hasGateway = gateway
  data : Consistent gateway c.data

/-- A segment that leaves the data alone. -/
def Keep (s₀ s : LockUpdateCoordinator) : Prop := s.data = s₀.data

/-- What a reading ends with. -/
structure Reads {α : Type} (gateway : Bool) (P : Log → Except PyError α → Prop) (l : Log)
    (s₀ s : LockUpdateCoordinator) (r : Except PyError α) : Prop where
  inv : Inv gateway s
  keep : Keep s₀ s
  post : P l r

/-- **A reading**, see the head of this file. -/
def Reading {α : Type} (gateway : Bool) (P : Log → Except PyError α → Prop) (p : Method α)
    (l : Log) : Prop :=
  ∀ s₀ s, Inv gateway s → Keep s₀ s → p.Sat (Inv gateway) Keep (Reads gateway P) l s₀ s

section Rules
variable {α β : Type} {gateway : Bool} {P : Log → Except PyError α → Prop}
  {Q : Log → Except PyError β → Prop} {l : Log}

theorem reading_pure {a : α} (h : P l (.ok a)) : Reading gateway P (pure a) l :=
  fun _ _ hi hk => ⟨hi, hk, h⟩

theorem reading_throw {e : PyError} (h : P l (.error e)) : Reading gateway P (throw e) l :=
  fun _ _ hi hk => ⟨hi, hk, h⟩

theorem reading_fromExcept {r : Except PyError α} (h : P l r) :
    Reading gateway P (fromExcept r) l := by
  intro s₀ s hi hk
  exact sat_fromExcept.mpr ⟨hi, hk, h⟩

theorem reading_get {P : Log → Except PyError LockUpdateCoordinator → Prop}
    (h : ∀ c, Inv gateway c → P l (.ok c)) : Reading gateway P get l :=
  fun _ s hi hk => ⟨hi, hk, h s hi⟩

theorem reading_modify {P : Log → Except PyError PUnit → Prop}
    {g : LockUpdateCoordinator → LockUpdateCoordinator} (hd : ∀ s, (g s).data = s.data)
    (hg : ∀ s, (g s).hasGateway = s.hasGateway) (h : P l (.ok ())) :
    Reading gateway P (modify g) l := by
  intro s₀ s hi hk
  refine ⟨⟨(hg s).trans hi.hasGateway, ?_⟩, (hd s).trans hk, h⟩
  rw [hd s]
  exact hi.data

theorem reading_request {q : Request} {P : Log → Except PyError (Reply q) → Prop}
    (h : ∀ a, P (l ++ [⟨q, a⟩]) a) : Reading gateway P (request q) l := by
  intro s₀ s hi hk
  exact sat_call.mpr ⟨hi, hk, fun a s₁ h₁ => ⟨h₁, rfl, h a⟩⟩

/-- A reading behind a reading. -/
theorem reading_bind {p : Method α} {f : α → Method β} (hp : Reading gateway P p l)
    (hok : ∀ l a, P l (.ok a) → Reading gateway Q (f a) l)
    (herr : ∀ l e, P l (.error e) → Q l (.error e)) : Reading gateway Q (p >>= f) l := by
  intro s₀ s hi hk
  refine (hp s₀ s hi hk).bind (fun l s₀ s a h => hok l a h.post s₀ s h.inv h.keep) ?_
  exact fun l s₀ s e h => ⟨h.inv, h.keep, herr l e h.post⟩

/-- A reading with a handler for its errors. -/
theorem reading_tryCatch {P' : Log → Except PyError α → Prop} {p : Method α} {f : PyError → Method α}
    (hp : Reading gateway P p l) (hok : ∀ l a, P l (.ok a) → P' l (.ok a))
    (herr : ∀ l e, P l (.error e) → Reading gateway P' (f e) l) :
    Reading gateway P' (tryCatch p f) l := by
  intro s₀ s hi hk
  refine (sat_tryCatch p).mpr ((hp s₀ s hi hk).mono fun l s₀ s r h => ?_)
  cases r with
  | ok a => exact ⟨h.inv, h.keep, hok l a h.post⟩
  | error e => exact herr l e h.post s₀ s h.inv h.keep

end Rules

/-! ### Posts about results only -/

/-- A postcondition that says nothing of an error. -/
def OnOk {α : Type} (P : Log → α → Prop) (l : Log) (r : Except PyError α) : Prop :=
  ∀ a, r = .ok a → P l a

theorem onOk_error {α : Type} {P : Log → α → Prop} {l : Log} {e : PyError} :
    OnOk P l (.error e) := nofun

theorem onOk_ok {α : Type} {P : Log → α → Prop} {l : Log} {a : α} (h : P l a) :
    OnOk P l (.ok a) := by
  rintro _ ⟨⟩
  exact h

/-- Sequencing where only results matter. -/
theorem reading_seq {α β : Type} {gateway : Bool} {P : Log → α → Prop} {Q : Log → β → Prop}
    {l : Log} {p : Method α} {f : α → Method β} (hp : Reading gateway (OnOk P) p l)
    (hok : ∀ l a, P l a → Reading gateway (OnOk Q) (f a) l) :
    Reading gateway (OnOk Q) (p >>= f) l :=
  reading_bind hp (fun l a h => hok l a (h a rfl)) fun _ _ _ => onOk_error

theorem reading_get_seq {β : Type} {gateway : Bool} {Q : Log → β → Prop} {l : Log}
    {f : LockUpdateCoordinator → Method β}
    (hok : ∀ c, Inv gateway c → Reading gateway (OnOk Q) (f c) l) :
    Reading gateway (OnOk Q) (get >>= f) l :=
  reading_seq (P := fun l' c => l' = l ∧ Inv gateway c)
    (reading_get fun _ hc => onOk_ok ⟨rfl, hc⟩) fun _ c h => h.1 ▸ hok c h.2

theorem reading_request_seq {β : Type} {gateway : Bool} {Q : Log → β → Prop} {l : Log}
    {q : Request} {f : Reply q → Method β}
    (hok : ∀ a, Reading gateway (OnOk Q) (f a) (l ++ [⟨q, .ok a⟩])) :
    Reading gateway (OnOk Q) (request q >>= f) l :=
  reading_seq (P := fun l' a => l' = l ++ [⟨q, .ok a⟩])
    (reading_request fun a => by rintro a' rfl; rfl) fun _ a h => h ▸ hok a

theorem reading_modify_seq {β : Type} {gateway : Bool} {Q : Log → β → Prop} {l : Log}
    {g : LockUpdateCoordinator → LockUpdateCoordinator} {f : PUnit → Method β}
    (hd : ∀ s, (g s).data = s.data) (hg : ∀ s, (g s).hasGateway = s.hasGateway)
    (hok : Reading gateway (OnOk Q) (f ()) l) : Reading gateway (OnOk Q) (modify g >>= f) l :=
  reading_seq (P := fun l' _ => l' = l) (reading_modify hd hg (onOk_ok rfl)) fun _ _ h => h ▸ hok

end TTLockConnect.Coordinator.Readings
