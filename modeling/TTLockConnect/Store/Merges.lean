import TTLockConnect.Store.LockState

/-! # No update is lost, unless a dict with updates is replaced

Where nothing was on disk, each call that has waited for the load makes a dict of its own. If none of
them replaces a dict that already has updates, the dict in use has all that were made, and so has what
is saved of it last. -/

namespace TTLockConnect.Store.Merges

open TTLockConnect.Text TTLockConnect.Text.Readings TTLockConnect.Async.Runs
open TTLockConnect.Async.Coroutine TTLockConnect.Async.Coroutine.Coro
open TTLockConnect.Store.LockState

variable {V : Type} {S : Storage V} {disk : Option (Dict V)} {us : List (Update V)}
  {s : LockStateStore S} {sys sys' : System S} {u : Update V} {r : Ref}

/-! ### Dicts -/

theorem attributesOf_merge (u : Update V) (data : Dict V) (lockId : ℤ) :
    attributesOf (merge u data) lockId =
      if u.lockId = lockId then u.attributes ∪ attributesOf data lockId
      else attributesOf data lockId := by
  unfold attributesOf merge
  by_cases h : u.lockId = lockId
  · rw [if_pos h, h, AList.lookup_insert]
    rfl
  · rw [if_neg h, AList.lookup_insert_ne fun heq => h (str_inj.mp heq).symm]

theorem merged_nil (disk : Option (Dict V)) (lockId : ℤ) :
    merged disk [] lockId = attributesOf (disk.getD ∅) lockId := rfl

/-- One update more. -/
theorem merged_append (disk : Option (Dict V)) (us : List (Update V)) (u : Update V) (lockId : ℤ) :
    merged disk (us ++ [u]) lockId =
      if u.lockId = lockId then u.attributes ∪ merged disk us lockId
      else merged disk us lockId := by
  unfold merged
  rw [List.filter_append, List.foldl_append]
  by_cases h : u.lockId = lockId
  · rw [if_pos h, List.filter_singleton, decide_eq_true h]
    rfl
  · rw [if_neg h, List.filter_singleton, decide_eq_false h]
    rfl

/-- A dict with an update is not empty. -/
theorem merge_isEmpty (u : Update V) (data : Dict V) : (merge u data).entries.isEmpty = false := by
  rfl

theorem eq_empty_of_isEmpty {data : Dict V} (h : data.entries.isEmpty = true) : data = ∅ :=
  AList.ext (List.isEmpty_iff.mp h)

theorem dict_mutate (f : Dict V → Dict V) (h : r < s.dicts.length) :
    (s.mutate f r).dict r = f (s.dict r) := by
  unfold LockStateStore.mutate LockStateStore.dict
  rw [List.getD_eq_getElem?_getD, List.getElem?_set_self h]
  rfl

theorem dict_mutate_ne (f : Dict V → Dict V) {r' : Ref} (h : r ≠ r') :
    (s.mutate f r).dict r' = s.dict r' := by
  unfold LockStateStore.mutate LockStateStore.dict
  rw [List.getD_eq_getElem?_getD, List.getElem?_set_ne h, ← List.getD_eq_getElem?_getD]

/-! ### The segments of the methods -/

/-- The load has found nothing, or an empty dict. -/
def FoundNothing (s : LockStateStore S) (result : Option Ref) : Prop :=
  ∀ r, result = some r → (s.dict r).entries.isEmpty = true

/-- The store behind the load: the dict that was found, or a new one. -/
def assigned (s : LockStateStore S) : Option Ref → Ref × LockStateStore S
  | some r =>
    if (s.dict r).entries.isEmpty then
      (s.dicts.length, { s with dicts := s.dicts ++ [∅], data := some s.dicts.length })
    else (r, { s with data := some r })
  | none => (s.dicts.length, { s with dicts := s.dicts ++ [∅], data := some s.dicts.length })

/-- What a call does with the dict. -/
def body (r : Ref) : Call V → Method S Unit
  | .get lockId => do
    let s ← get
    let _ ← (pure (attributesOf (s.dict r) lockId) : Method S (Attributes V))
  | .update u => do
    modify fun s => s.mutate (merge u) r
    asyncSave r

/-- A call that waits for the load. -/
def afterLoad (c : Call V) (a : Except PyError (Option Ref)) : Method S Unit :=
  (fromExcept a >>= assign) >>= fun r => body r c

/-- A call that waits for its save. -/
def afterSave (a : Except PyError Unit) : Method S Unit := fromExcept a

/-- A call asks for the dict, and goes on with it. -/
theorem prog_eq (c : Call V) : (prog c : Method S Unit) = asyncData >>= fun r => body r c := by
  cases c with
  | get lockId =>
    show (asyncData >>= _) >>= _ = _
    rw [bind_assoc]
    rfl
  | update u => rfl

theorem advance_prog_loaded (c : Call V) (h : s.data = some r) :
    (prog c : Method S Unit).advance s = (body r c).advance s := by
  obtain ⟨data, dicts, store⟩ := s
  cases h
  rw [prog_eq]
  rfl

theorem advance_prog (c : Call V) (h : s.data = none) :
    (prog c : Method S Unit).advance s = .wait s .load (afterLoad c) := by
  obtain ⟨data, dicts, store⟩ := s
  cases h
  rw [prog_eq]
  refine congrArg (Stop.wait _ _) (funext fun a => ?_)
  cases a <;> rfl

/-- The store behind an update of the dict. -/
def updated (u : Update V) (r : Ref) (s : LockStateStore S) : LockStateStore S :=
  { s.mutate (merge u) r with store := S.save r s.store }

theorem advance_get (lockId : ℤ) (r : Ref) (s : LockStateStore S) :
    (body r (.get lockId) : Method S Unit).advance s = .done (.ok ()) s := rfl

theorem advance_update (u : Update V) (r : Ref) (s : LockStateStore S) :
    (body r (.update u) : Method S Unit).advance s = .wait (updated u r s) .save afterSave := by
  refine congrArg (Stop.wait _ _) (funext fun a => ?_)
  cases a <;> rfl

theorem advance_afterLoad (c : Call V) (result : Option Ref) (s : LockStateStore S) :
    (afterLoad c (.ok result)).advance s =
      (body (assigned s result).1 c).advance (assigned s result).2 := by
  unfold afterLoad
  cases result with
  | none => rfl
  | some r =>
    have hload : ((fromExcept (.ok (some r)) >>= assign) >>= fun r => body r c : Method S Unit).advance
        s = (((if (s.dict r).entries.isEmpty then newDict else pure r) >>= fun r => do
          modify fun s => { s with data := some r }
          pure r) >>= fun r => body r c : Method S Unit).advance s := rfl
    rw [hload]
    unfold assigned
    dsimp only
    split_ifs with hempty
    · rfl
    · rfl

/-! ### What is known of the store -/

/-- What the load has found is still there: an empty dict is in nobody's use, and any other is the
one in use. -/
def Found (disk : Option (Dict V)) (result : Option Ref) (s : LockStateStore S) : Prop :=
  if (disk.getD ∅).entries.isEmpty then
    ∀ r, result = some r → r < s.dicts.length ∧ (s.dict r).entries.isEmpty = true ∧ s.data ≠ some r
  else ∃ r, result = some r ∧ r < s.dicts.length ∧ (s.dict r).entries.isEmpty = false ∧
    (s.data = none ∧ s.dict r = disk.getD ∅ ∨ s.data = some r)

/-- **The dict in use has all updates `us`**, and is what is saved, or is to be. -/
structure Holds (disk : Option (Dict V)) (result : Option Ref) (us : List (Update V))
    (s : LockStateStore S) : Prop where
  known : ∀ r, s.data = some r → r < s.dicts.length ∧
    ∀ lockId, attributesOf (s.dict r) lockId = merged disk us lockId
  found : Found disk result s
  unused : us = [] → S.unsaved s.store = none ∧ S.file s.store = disk
  used : us ≠ [] → ∃ r, s.data = some r ∧ (s.dict r).entries.isEmpty = false ∧
    (S.unsaved s.store = some r ∨ S.unsaved s.store = none ∧ S.file s.store = some (s.dict r))

variable {result : Option Ref}

theorem Holds.eq_nil (h : Holds disk result us s)
    (hempty : ∀ r, s.data = some r → (s.dict r).entries.isEmpty = true) : us = [] := by
  by_contra hus
  obtain ⟨r, hr, hne, -⟩ := h.used hus
  rw [hempty r hr] at hne
  cases hne

/-- Behind a load that has found nothing: a new dict, of which all that is known is that it is
empty. -/
theorem Holds.assignedNew (h : Holds disk result us s) (hus : us = [])
    (hdisk : (disk.getD ∅).entries.isEmpty = true)
    (hfound : ∀ r, result = some r →
      r < s.dicts.length ∧ (s.dict r).entries.isEmpty = true ∧ s.data ≠ some r) :
    Holds disk result us { s with dicts := s.dicts ++ [∅], data := some s.dicts.length } := by
  have hkept (r : Ref) (hr : r < s.dicts.length) : LockStateStore.dict
      { s with dicts := s.dicts ++ [∅], data := some s.dicts.length } r = s.dict r :=
    congrArg (·.getD ∅) (List.getElem?_append_left hr)
  have hempty : LockStateStore.dict
      { s with dicts := s.dicts ++ [∅], data := some s.dicts.length } s.dicts.length = ∅ := by
    simp [LockStateStore.dict]
  refine ⟨fun r hr => ?_, ?_, h.unused, fun hne => absurd hus hne⟩
  · cases hr
    refine ⟨by simp, fun lockId => ?_⟩
    rw [hempty, hus, merged_nil, eq_empty_of_isEmpty hdisk]
  · unfold Found
    rw [if_pos hdisk]
    intro r hr
    obtain ⟨hlt, hemp, -⟩ := hfound r hr
    refine ⟨?_, by rw [hkept r hlt, hemp], fun heq => ?_⟩
    · rw [List.length_append]
      exact Nat.lt_add_right _ hlt
    · exact absurd (Option.some.inj heq) hlt.ne'

/-- Behind a load that has found a dict: nobody uses one yet, or it is in use already. -/
theorem Holds.assignedFound (h : Holds disk (some r) us s)
    (hdisk : ¬ (disk.getD ∅).entries.isEmpty = true) (hlt : r < s.dicts.length)
    (hne : (s.dict r).entries.isEmpty = false)
    (hdata : s.data = none ∧ s.dict r = disk.getD ∅ ∨ s.data = some r) :
    Holds disk (some r) us { s with data := some r } := by
  refine ⟨fun r' hr' => ?_, ?_, h.unused, fun hus => ?_⟩
  · cases hr'
    rcases hdata with ⟨hnone, hdict⟩ | hsome
    · have hus : us = [] := h.eq_nil fun r' hr' => by rw [hnone] at hr'; cases hr'
      refine ⟨hlt, fun lockId => ?_⟩
      rw [hus, merged_nil, ← hdict]
      rfl
    · exact h.known r hsome
  · unfold Found
    rw [if_neg hdisk]
    exact ⟨r, rfl, hlt, hne, .inr rfl⟩
  · obtain ⟨r', hr', hne', hsaved⟩ := h.used hus
    rcases hdata with ⟨hnone, -⟩ | hsome
    · rw [hnone] at hr'
      cases hr'
    · rw [hsome] at hr'
      cases hr'
      exact ⟨r, rfl, hne', hsaved⟩

/-- **Behind the load**, if no dict with updates is replaced. -/
theorem Holds.assigned (h : Holds disk result us s)
    (hsafe : FoundNothing s result → ∀ r, s.data = some r → (s.dict r).entries.isEmpty = true) :
    Holds disk result us (assigned s result).2 ∧
      (Merges.assigned s result).2.data = some (Merges.assigned s result).1 := by
  have hfound := h.found
  unfold Found at hfound
  split_ifs at hfound with hdisk
  · have hnothing : FoundNothing s result := fun r hr => (hfound r hr).2.1
    have hnew : Merges.assigned s result = (s.dicts.length,
        { s with dicts := s.dicts ++ [∅], data := some s.dicts.length }) := by
      cases result with
      | none => rfl
      | some r => exact if_pos (hnothing r rfl)
    rw [hnew]
    exact ⟨h.assignedNew (h.eq_nil (hsafe hnothing)) hdisk hfound, rfl⟩
  · obtain ⟨r, rfl, hlt, hne, hdata⟩ := hfound
    have hold : Merges.assigned s (some r) = (r, { s with data := some r }) :=
      if_neg (Bool.eq_false_iff.mp hne)
    rw [hold]
    exact ⟨h.assignedFound hdisk hlt hne hdata, rfl⟩

/-- **Behind an update.** -/
theorem Holds.updated (h : Holds disk result us s) (hr : s.data = some r) (u : Update V) :
    Holds disk result (us ++ [u]) (updated u r s) := by
  obtain ⟨hlt, hknown⟩ := h.known r hr
  have hlength : (Merges.updated u r s).dicts.length = s.dicts.length := List.length_set
  have hdict : (Merges.updated u r s).dict r = merge u (s.dict r) := dict_mutate _ hlt
  have hdata : (Merges.updated u r s).data = some r := hr
  refine ⟨fun r' hr' => ?_, ?_, fun hnil => ?_, fun _ => ?_⟩
  · rw [hdata] at hr'
    cases hr'
    refine ⟨hlength ▸ hlt, fun lockId => ?_⟩
    rw [hdict, attributesOf_merge, merged_append, hknown]
  · have hfound := h.found
    unfold Found at hfound ⊢
    rw [hlength, hdata]
    split_ifs at hfound ⊢ with hdisk
    · intro r' hr'
      obtain ⟨hlt', hempty, hne⟩ := hfound r' hr'
      rw [hr] at hne
      have hother : (Merges.updated u r s).dict r' = s.dict r' :=
        dict_mutate_ne _ fun heq => hne (congrArg some heq)
      exact ⟨hlt', by rw [hother, hempty], hne⟩
    · obtain ⟨r', hr', hlt', -, hdata'⟩ := hfound
      have heq : r = r' := by
        rcases hdata' with ⟨hnone, -⟩ | hsome
        · rw [hr] at hnone
          cases hnone
        · rw [hr] at hsome
          exact Option.some.inj hsome
      subst heq
      exact ⟨r, hr', hlt', by rw [hdict, merge_isEmpty], .inr rfl⟩
  · exact absurd hnil (List.concat_ne_nil _ _)
  · refine ⟨r, hdata, by rw [hdict, merge_isEmpty], .inl ?_⟩
    exact (S.save_spec r s.store).2.1

/-- The store of Home Assistant moves. -/
theorem Holds.moved {store : S.State} (h : Holds disk result us s)
    (hmove : S.file store = S.file s.store ∧ S.unsaved store = S.unsaved s.store ∨
      ∃ r, S.unsaved s.store = some r ∧ (S.unsaved store = some r ∨
        S.unsaved store = none ∧ S.file store = some (s.dict r))) :
    Holds disk result us { s with store := store } := by
  refine ⟨h.known, h.found, fun hus => ?_, fun hus => ?_⟩
  · obtain ⟨hunsaved, hfile⟩ := h.unused hus
    rcases hmove with ⟨hf, hu⟩ | ⟨r, hr, -⟩
    · exact ⟨hu.trans hunsaved, hf.trans hfile⟩
    · rw [hunsaved] at hr
      cases hr
  · obtain ⟨r, hr, hne, hsaved⟩ := h.used hus
    refine ⟨r, hr, hne, ?_⟩
    rcases hmove with ⟨hf, hu⟩ | ⟨r', hr', hnow⟩
    · show S.unsaved store = _ ∨ S.unsaved store = _ ∧ S.file store = _
      rw [hf, hu]
      exact hsaved
    · have heq : r' = r := by
        rcases hsaved with hsome | ⟨hnone, -⟩
        · rw [hr'] at hsome
          exact Option.some.inj hsome
        · rw [hr'] at hnone
          cases hnone
      subst heq
      exact hnow

end TTLockConnect.Store.Merges
