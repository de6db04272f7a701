import TTLockConnect.Store.Merges

/-! # Concurrent calls lose no update, unless a dict with updates is replaced

Over every interleaving: a step carries the updates that have finished, and those whose save has not
returned, into the dict in use; when nothing is left to wait for, they are all there and on disk. -/

namespace TTLockConnect.Store.Concurrent

open TTLockConnect.Text TTLockConnect.Text.Readings TTLockConnect.Async.Runs
open TTLockConnect.Async.Coroutine TTLockConnect.Async.Coroutine.Coro
open TTLockConnect.Store.LockState TTLockConnect.Store.Merges

variable {V : Type} {S : Storage V} {disk : Option (Dict V)} {done : List (Update V)}
  {s : LockStateStore S} {sys sys' : System S} {l : Label S} {r : Ref}

/-! ### The invariant -/

/-- The update of a call. -/
def updateOf : Call V → Option (Update V)
  | .get _ => none
  | .update u => some u

/-- The updates whose save has not returned, in the order of the saves. -/
def pending (sys : System S) : List (Update V) := sys.saving.filterMap fun t => updateOf t.call

/-- The updates a step ends. -/
def finished (sys : System S) (l : Label S) : List (Update V) :=
  ((sys.ended l).bind updateOf).toList

/-- What holds in every state, `done` being the updates that have finished. -/
structure Inv (disk : Option (Dict V)) (done : List (Update V)) (sys : System S) : Prop where
  shared : Holds disk sys.result (done ++ pending sys) sys.shared
  loading : ∀ t ∈ sys.loading, t.cont = afterLoad t.call
  saving : ∀ t ∈ sys.saving, t.cont = afterSave
  saves : S.saves sys.shared.store = sys.saving.length
  settled : S.saves sys.shared.store = 0 → S.unsaved sys.shared.store = none

/-- Somebody has called, and has the dict or waits for it. -/
def Called (sys : System S) : Prop := sys.shared.data.isSome = true ∨ sys.loading ≠ []

/-- **No dict with updates is replaced**: a call that finds nothing on disk makes a new dict only
while the one in use, if there is one, is empty. -/
def Harmless (sys : System S) : Label S → Prop
  | .loaded _ => FoundNothing sys.shared sys.result →
      ∀ r, sys.shared.data = some r → (sys.shared.dict r).entries.isEmpty = true
  | _ => True

theorem start_inv (S : Storage V) (disk : Option (Dict V)) : Inv disk [] (start S disk) := by
  obtain ⟨hfile, hunsaved, hsaves⟩ := S.opened_spec disk
  refine ⟨⟨nofun, ?_, fun _ => ⟨hunsaved, hfile⟩, fun h => absurd rfl h⟩, nofun, nofun, hsaves,
    fun _ => hunsaved⟩
  unfold Found
  cases disk with
  | none =>
    have hempty : ((none : Option (Dict V)).getD ∅).entries.isEmpty = true := rfl
    rw [if_pos hempty]
    intro r hr
    cases hr
  | some d =>
    have hdict : (start S (some d)).shared.dict 0 = d := rfl
    split_ifs with hempty
    · intro r hr
      cases hr
      exact ⟨Nat.one_pos, by rw [hdict]; exact hempty, nofun⟩
    · exact ⟨0, rfl, Nat.one_pos, by rw [hdict]; exact Bool.eq_false_iff.mpr hempty, .inl ⟨rfl, hdict⟩⟩

/-! ### Steps -/

/-- What a call does once it has the dict: a step of which the updates in the dict are known. -/
structure Went (disk : Option (Dict V)) (done : List (Update V)) (out : System S × Option (Call V)) :
    Prop where
  inv : Inv disk done out.1
  called : Called out.1
  quiet : out.2.bind updateOf = none

theorem goOn_body {c : Call V} (hinv : Inv disk done { sys with shared := s })
    (hdata : s.data = some r) : Went disk done (sys.goOn c ((body r c).advance s)) := by
  cases c with
  | get lockId =>
    rw [advance_get]
    exact ⟨hinv, .inl (by show s.data.isSome = true; rw [hdata]; rfl), rfl⟩
  | update u =>
    rw [advance_update]
    let sys' : System S := { sys with
      shared := updated u r s
      saving := sys.saving ++ [⟨.update u, afterSave⟩] }
    have hpending : pending sys' = pending { sys with shared := s } ++ [u] := List.filterMap_append
    have hlength : sys'.saving.length = sys.saving.length + 1 := List.length_append
    have hsaves : S.saves sys'.shared.store = sys.saving.length + 1 := by
      have hone := (S.save_spec r s.store).2.2
      rw [show S.saves s.store = sys.saving.length from hinv.saves] at hone
      exact hone
    show Went disk done (sys', none)
    refine ⟨⟨?_, hinv.loading, fun t ht => ?_, hsaves.trans hlength.symm, fun hzero => ?_⟩,
      .inl ?_, rfl⟩
    · rw [hpending, ← List.append_assoc]
      exact hinv.shared.updated hdata u
    · rcases List.mem_append.mp ht with ht | ht
      · exact hinv.saving t ht
      · rw [List.mem_singleton.mp ht]
    · rw [hzero] at hsaves
      omega
    · show (updated u r s).data.isSome = true
      rw [show (updated u r s).data = some r from hdata]
      rfl

/-- What a step comes to. -/
theorem stepOut_of_step (h : sys.step l = some sys') :
    sys.stepOut l = some (sys', sys.ended l) := by
  obtain ⟨⟨sys'', e⟩, hout, rfl⟩ := Option.map_eq_some_iff.mp h
  unfold System.ended
  rw [hout]
  rfl

/-- A step that ends no update. -/
theorem Went.kept {out : System S × Option (Call V)} (hw : Went disk done out)
    (h : out = (sys', sys.ended l)) : Inv disk (done ++ finished sys l) sys' ∧ Called sys' := by
  obtain ⟨hinv, hcalled, hquiet⟩ := hw
  rw [h] at hinv hcalled hquiet
  have hfinished : finished sys l = [] := by
    unfold finished
    rw [hquiet]
    rfl
  rw [hfinished, List.append_nil]
  exact ⟨hinv, hcalled⟩

theorem call_kept (hinv : Inv disk done sys) (c : Call V) :
    Went disk done (sys.goOn c ((prog c).advance sys.shared)) := by
  cases hdata : sys.shared.data with
  | none =>
    rw [advance_prog c hdata]
    refine ⟨⟨hinv.shared, fun t ht => ?_, hinv.saving, hinv.saves, hinv.settled⟩, .inr ?_, rfl⟩
    · rcases List.mem_append.mp ht with ht | ht
      · exact hinv.loading t ht
      · rw [List.mem_singleton.mp ht]
    · exact List.concat_ne_nil _ _
  | some r =>
    rw [advance_prog_loaded c hdata]
    exact goOn_body hinv hdata

theorem loaded_kept (hinv : Inv disk done sys) {i : ℕ} (hsafe : Harmless sys (.loaded i))
    {t : Waiting S .load} (ht : sys.loading[i]? = some t) :
    Went disk done (System.goOn { sys with loading := sys.loading.eraseIdx i } t.call
      ((t.cont (.ok sys.result)).advance sys.shared)) := by
  rw [hinv.loading t (List.mem_of_getElem? ht), advance_afterLoad]
  obtain ⟨hshared, hdata⟩ := hinv.shared.assigned hsafe
  have hstore : (assigned sys.shared sys.result).2.store = sys.shared.store := by
    unfold assigned
    split
    · split_ifs <;> rfl
    · rfl
  refine goOn_body ⟨hshared, fun t' ht' => ?_, hinv.saving, ?_, ?_⟩ hdata
  · exact hinv.loading t' (List.mem_of_mem_eraseIdx ht')
  · show S.saves (assigned sys.shared sys.result).2.store = _
    rw [hstore]
    exact hinv.saves
  · show S.saves (assigned sys.shared sys.result).2.store = 0 →
      S.unsaved (assigned sys.shared sys.result).2.store = none
    rw [hstore]
    exact hinv.settled

/-- The first save returns, and its update has finished. -/
theorem saved_inv (hinv : Inv disk done sys) {t : Waiting S .save} {rest : List (Waiting S .save)}
    (hsaving : sys.saving = t :: rest) (hmay : S.mayReturn sys.shared.store = true) :
    Inv disk (done ++ (updateOf t.call).toList) sys.saveReturned := by
  obtain ⟨hfile, hunsaved, hsaves⟩ := S.returned_spec sys.shared.store
  have hlength : S.saves sys.shared.store = rest.length + 1 := by
    rw [hinv.saves, hsaving]
    rfl
  have htail : sys.saveReturned.saving = rest := by
    unfold System.saveReturned
    rw [hsaving]
    rfl
  have hpending : pending sys = (updateOf t.call).toList ++ pending sys.saveReturned := by
    unfold pending
    rw [htail, hsaving, List.filterMap_cons]
    cases updateOf t.call <;> rfl
  refine ⟨?_, hinv.loading, fun t' ht' => ?_, ?_, fun hzero => ?_⟩
  · rw [List.append_assoc, ← hpending]
    exact hinv.shared.moved (.inl ⟨hfile, hunsaved⟩)
  · rw [htail] at ht'
    exact hinv.saving t' (by rw [hsaving]; exact List.mem_cons_of_mem _ ht')
  · rw [htail]
    show S.saves (S.returned sys.shared.store) = _
    rw [hsaves, hlength]
    rfl
  · -- it was the last
    have hone : S.saves sys.shared.store = 1 := by
      have hrest : S.saves (S.returned sys.shared.store) = 0 := hzero
      rw [hsaves] at hrest
      omega
    show S.unsaved (S.returned sys.shared.store) = none
    rw [hunsaved]
    exact S.mayReturn_spec _ hmay hone

theorem saved_step (hinv : Inv disk done sys) (h : sys.step .saved = some sys') :
    Inv disk (done ++ finished sys .saved) sys' ∧ (Called sys → Called sys') := by
  have hout := stepOut_of_step h
  simp only [System.stepOut] at hout
  cases hsaving : sys.saving with
  | nil =>
    rw [hsaving] at hout
    cases hout
  | cons t rest =>
    rw [hsaving] at hout
    dsimp only at hout
    split_ifs at hout with hmay
    have hcont : t.cont = afterSave := hinv.saving t (by rw [hsaving]; exact List.mem_cons_self)
    rw [hcont] at hout
    have hpair : (sys.saveReturned, some t.call) = (sys', sys.ended .saved) := Option.some.inj hout
    obtain ⟨rfl, hended⟩ := Prod.mk.inj hpair
    have hfinished : finished sys .saved = (updateOf t.call).toList := by
      unfold finished
      rw [← hended]
      rfl
    rw [hfinished]
    exact ⟨saved_inv hinv hsaving hmay, id⟩

/-- A step of Home Assistant's store, which ends no update. -/
theorem store_step (hinv : Inv disk done sys) {e : S.Event}
    (h : sys.step (.store e) = some sys') :
    Inv disk (done ++ finished sys (.store e)) sys' ∧ (Called sys → Called sys') := by
  have hout := stepOut_of_step h
  simp only [System.stepOut] at hout
  cases hact : S.act sys.shared.dict e sys.shared.store with
  | none =>
    rw [hact] at hout
    cases hout
  | some store =>
    rw [hact] at hout
    obtain ⟨rfl, hended⟩ := Prod.mk.inj (Option.some.inj hout)
    obtain ⟨hsaves, hmove⟩ := S.act_spec _ _ _ _ hact
    have hfinished : finished sys (.store e) = [] := by
      unfold finished
      rw [← hended]
      rfl
    rw [hfinished, List.append_nil]
    refine ⟨⟨hinv.shared.moved hmove, hinv.loading, hinv.saving, hsaves.trans hinv.saves,
      fun hzero => ?_⟩, id⟩
    have hnone := hinv.settled (hsaves.symm.trans hzero)
    rcases hmove with ⟨-, hu⟩ | ⟨r, hr, -⟩
    · exact hu.trans hnone
    · rw [hnone] at hr
      cases hr

/-- **A step carries the updates on**, unless a dict that has some is replaced. -/
theorem step_inv (hinv : Inv disk done sys) (hsafe : Harmless sys l)
    (h : sys.step l = some sys') : Inv disk (done ++ finished sys l) sys' ∧
      (Called sys ∨ (∃ c, l = .call c) → Called sys') := by
  cases l with
  | call c =>
    have hout := Option.some.inj (stepOut_of_step h)
    obtain ⟨hinv', hcalled⟩ := (call_kept hinv c).kept hout
    exact ⟨hinv', fun _ => hcalled⟩
  | loaded i =>
    have hout := stepOut_of_step h
    simp only [System.stepOut] at hout
    cases ht : sys.loading[i]? with
    | none =>
      rw [ht] at hout
      cases hout
    | some t =>
      rw [ht] at hout
      obtain ⟨hinv', hcalled⟩ := (loaded_kept hinv hsafe ht).kept (Option.some.inj hout)
      exact ⟨hinv', fun _ => hcalled⟩
  | saved =>
    obtain ⟨hinv', hcalled⟩ := saved_step hinv h
    exact ⟨hinv', fun hc => hcalled (hc.resolve_right nofun)⟩
  | store e =>
    obtain ⟨hinv', hcalled⟩ := store_step hinv h
    exact ⟨hinv', fun hc => hcalled (hc.resolve_right nofun)⟩

/-! ### Runs -/

section Run
variable {τ : List (StoreMove S)}

theorem completed_append (τ : List (StoreMove S)) (m : StoreMove S) :
    completed (τ ++ [m]) = completed τ ++ finished m.src m.label := by
  unfold completed finished
  rw [List.filterMap_append]
  refine congrArg (_ ++ ·) ?_
  rw [List.filterMap_cons, List.filterMap_nil]
  cases m.src.ended m.label with
  | none => rfl
  | some c => cases c <;> rfl

/-- The updates that have finished, along a run. -/
theorem run_inv (hr : Run System.step (start S disk) τ sys)
    (hsafe : ∀ m ∈ τ, Harmless m.src m.label) :
    Inv disk (completed τ) sys ∧ ((∃ m ∈ τ, ∃ c, m.label = .call c) → Called sys) := by
  induction hr with
  | nil => exact ⟨start_inv S disk, fun ⟨m, hm, _⟩ => absurd hm List.not_mem_nil⟩
  | @snoc τ s s' l _ hs ih =>
    obtain ⟨hinv, hcalled⟩ := ih fun m hm => hsafe m (List.mem_append_left _ hm)
    have hlast : Harmless s l := hsafe ⟨s, l, s'⟩ (List.mem_append_right _ List.mem_cons_self)
    obtain ⟨hinv', hcalled'⟩ := step_inv hinv hlast hs
    refine ⟨by rw [completed_append]; exact hinv', ?_⟩
    rintro ⟨m, hm, c, hc⟩
    rcases List.mem_append.mp hm with hm | hm
    · exact hcalled' (.inl (hcalled ⟨m, hm, c, hc⟩))
    · rw [List.mem_singleton.mp hm] at hc
      exact hcalled' (.inr ⟨c, hc⟩)

/-- **Concurrent calls lose no update** if none of their loads replaces a dict with updates: once
all have finished, memory and disk have the merge of all updates, in the order in which they have
finished, on top of what was on disk. -/
theorem run_nothingLost (hr : Run System.step (start S disk) τ sys)
    (hcall : ∃ m ∈ τ, ∃ c, m.label = .call c) (hidle : sys.Idle)
    (hsafe : ∀ m ∈ τ, Harmless m.src m.label) : NothingLost disk (completed τ) sys := by
  obtain ⟨hinv, hcalled⟩ := run_inv hr hsafe
  obtain ⟨hloading, hsaving⟩ := hidle
  have hpending : completed τ ++ pending sys = completed τ := by
    unfold pending
    rw [hsaving]
    exact List.append_nil _
  have hshared := hinv.shared
  rw [hpending] at hshared
  constructor
  · have hdata := (hcalled hcall).resolve_right fun hne => hne hloading
    obtain ⟨r, hr⟩ := Option.isSome_iff_exists.mp hdata
    exact ⟨r, hr, (hshared.known r hr).2⟩
  · have hsettled : S.unsaved sys.shared.store = none := by
      refine hinv.settled ?_
      rw [hinv.saves, hsaving]
      rfl
    intro lockId
    by_cases hus : completed τ = []
    · rw [(hshared.unused hus).2, hus, merged_nil]
    · obtain ⟨r, hr, -, hsaved⟩ := hshared.used hus
      rcases hsaved with hsome | ⟨-, hfile⟩
      · rw [hsettled] at hsome
        cases hsome
      · rw [hfile]
        exact (hshared.known r hr).2 lockId

end Run

/-! ### Sample runs -/

/-- A file, and the save that it waits for. -/
structure PlainState (V : Type) where
  file : Option (Dict V)
  unsaved : Option Ref
  saves : ℕ

/-- The event of a file is that it is written. -/
def writeFile (dict : Ref → Dict V) (_ : Unit) (s : PlainState V) : Option (PlainState V) :=
  s.unsaved.map fun r => { s with file := some (dict r), unsaved := none }

theorem writeFile_spec (dict : Ref → Dict V) (e : Unit) (s s' : PlainState V)
    (h : writeFile dict e s = some s') : s'.saves = s.saves ∧
      (s'.file = s.file ∧ s'.unsaved = s.unsaved ∨ ∃ r, s.unsaved = some r ∧
        (s'.unsaved = some r ∨ s'.unsaved = none ∧ s'.file = some (dict r))) := by
  obtain ⟨r, hr, rfl⟩ := Option.map_eq_some_iff.mp h
  exact ⟨rfl, .inr ⟨r, hr, .inr ⟨rfl, rfl⟩⟩⟩

/-- A store whose saves return when nothing is left to write. -/
def plainStorage (V : Type) : Storage V where
  State := PlainState V
  Event := Unit
  file := PlainState.file
  unsaved := PlainState.unsaved
  saves := PlainState.saves
  opened disk := ⟨disk, none, 0⟩
  save r s := { s with unsaved := some r, saves := s.saves + 1 }
  act := writeFile
  mayReturn s := s.unsaved.isNone
  returned s := { s with saves := s.saves - 1 }
  opened_spec _ := ⟨rfl, rfl, rfl⟩
  save_spec _ _ := ⟨rfl, rfl, rfl⟩
  act_spec := writeFile_spec
  returned_spec _ := ⟨rfl, rfl, rfl⟩
  mayReturn_spec _ h _ := Option.isNone_iff_eq_none.mp h

/-- The verdict that lock 1 has no door sensor. -/
def absent : Update Bool := ⟨1, AList.singleton "door_sensor_confirmed_absent" true⟩

/-- The first run of an installation, on which two calls wait for the load. -/
abbrev firstRun (labels : List (Label (plainStorage Bool))) :
    List (StoreMove (plainStorage Bool)) × System (plainStorage Bool) :=
  play System.step (start (plainStorage Bool) none) labels

/-- The update goes on before the other call. -/
def updateFirst : List (Label (plainStorage Bool)) :=
  [.call (.update absent), .call (.get 2), .loaded 0, .store (), .saved, .loaded 0]

/-- The update goes on after the other call. -/
def updateLast : List (Label (plainStorage Bool)) :=
  [.call (.update absent), .call (.get 2), .loaded 1, .loaded 0, .store (), .saved]

/-- **The dict of a call that only reads replaces the one with the update.** -/
theorem updateFirst_lost : ¬ ∀ (V : Type) (S : Storage V) (disk : Option (Dict V))
    (τ : List (StoreMove S)) (sys : System S), Run System.step (start S disk) τ sys →
      (∃ m ∈ τ, ∃ c, m.label = .call c) → sys.Idle → NothingLost disk (completed τ) sys := by
  intro h
  have hcall : ∃ m ∈ (firstRun updateFirst).1, ∃ c, m.label = .call c :=
    ⟨_, List.mem_cons_self, _, rfl⟩
  obtain ⟨r, hr, hmemory⟩ := (h _ _ _ _ _ (run_play _ updateFirst) hcall ⟨rfl, rfl⟩).memory
  have hdata : (firstRun updateFirst).2.shared.data = some 2 := rfl
  obtain rfl : 2 = r := Option.some.inj (hdata.symm.trans hr)
  have hlost := congrArg (AList.lookup "door_sensor_confirmed_absent") (hmemory 1)
  revert hlost
  decide

/-- A call that waits for the load goes on. -/
def isLoaded : Label S → Bool
  | .loaded _ => true
  | _ => false

/-- With the update last, it is there. -/
theorem run_nothingLost_updateLast : (completed (firstRun updateLast).1).length = 1 ∧
    NothingLost none (completed (firstRun updateLast).1) (firstRun updateLast).2 := by
  refine ⟨rfl, run_nothingLost (run_play _ updateLast) ⟨_, List.mem_cons_self, _, rfl⟩
    ⟨rfl, rfl⟩ fun m hm => ?_⟩
  have hall : ∀ m ∈ (firstRun updateLast).1, isLoaded m.label = true →
      (m.src.shared.data.all fun r => (m.src.shared.dict r).entries.isEmpty) = true := by decide
  have hm' := hall m hm
  cases hl : m.label with
  | loaded i =>
    rw [hl] at hm'
    intro _ r hr
    have hempty := hm' rfl
    rw [hr] at hempty
    exact hempty
  | call c => exact trivial
  | saved => exact trivial
  | store e => exact trivial

end TTLockConnect.Store.Concurrent
