import Mathlib.Algebra.BigOperators.Group.List.Basic
import Mathlib.Algebra.Ring.Nat
import Mathlib.Data.List.AList

/-! # Dicts of counts

A dict from keys to numbers, as a count for every key and a sum over all of them, under the
operations that tally: add to a key, add a whole dict, and sort. -/

namespace TTLockConnect.Usage.Counts

variable {α : Type} [DecidableEq α]

abbrev CountDict (α : Type) [DecidableEq α] := AList fun _ : α => ℕ

/-- `counts.get(key, 0)`. -/
def countOf (t : CountDict α) (key : α) : ℕ := (t.lookup key).getD 0

/-- `sum(counts.values())`. -/
def total (t : CountDict α) : ℕ := (t.entries.map Sigma.snd).sum

/-- `counts[key] = counts.get(key, 0) + n`. -/
def add (t : CountDict α) (key : α) (n : ℕ) : CountDict α := t.insert key (countOf t key + n)

theorem countOf_empty (key : α) : countOf (∅ : CountDict α) key = 0 := rfl

theorem total_empty : total (∅ : CountDict α) = 0 := rfl

theorem countOf_add (t : CountDict α) (key : α) (n : ℕ) (k : α) :
    countOf (add t key n) k = countOf t k + if key = k then n else 0 := by
  unfold add countOf
  by_cases h : k = key
  · subst h
    rw [AList.lookup_insert, if_pos rfl, Option.getD_some]
  · rw [AList.lookup_insert_ne h, if_neg (Ne.symm h), Nat.add_zero]

/-- The count of a key is what its entry has. -/
theorem countOf_of_entries {t : CountDict α} {key : α} {n : ℕ}
    {l₁ l₂ : List (Sigma fun _ : α => ℕ)} (h : t.entries = l₁ ++ ⟨key, n⟩ :: l₂) :
    countOf t key = n := by
  have hmem : n ∈ t.lookup key := by
    rw [AList.mem_lookup_iff, h]
    exact List.mem_append_right _ List.mem_cons_self
  rw [countOf, Option.mem_def.mp hmem, Option.getD_some]

theorem total_add (t : CountDict α) (key : α) (n : ℕ) : total (add t key n) = total t + n := by
  unfold add total
  rw [AList.entries_insert, List.map_cons, List.sum_cons]
  by_cases h : key ∈ t.keys
  · obtain ⟨m, l₁, l₂, -, hl, herase⟩ := List.exists_of_kerase h
    rw [herase, hl, countOf_of_entries hl]
    simp only [List.map_append, List.map_cons, List.sum_append, List.sum_cons]
    omega
  · have hat : countOf t key = 0 := by
      rw [countOf, AList.lookup_eq_none.mpr h, Option.getD_none]
    rw [List.kerase_of_notMem_keys h, hat, Nat.zero_add, Nat.add_comm]

/-- The entries of a dict added one by one. -/
def addEntries (t : CountDict α) (es : List (Sigma fun _ : α => ℕ)) : CountDict α :=
  es.foldl (fun t e => add t e.1 e.2) t

theorem countOf_addEntries (es : List (Sigma fun _ : α => ℕ)) (k : α) : ∀ t : CountDict α,
    countOf (addEntries t es) k =
      countOf t k + (es.map fun e => if e.1 = k then e.2 else 0).sum := by
  induction es with
  | nil => exact fun _ => rfl
  | cons e es ih =>
    intro t
    rw [List.map_cons, List.sum_cons, ← Nat.add_assoc, ← countOf_add]
    exact ih (add t e.1 e.2)

theorem total_addEntries (es : List (Sigma fun _ : α => ℕ)) : ∀ t : CountDict α,
    total (addEntries t es) = total t + (es.map Sigma.snd).sum := by
  induction es with
  | nil => exact fun _ => rfl
  | cons e es ih =>
    intro t
    rw [List.map_cons, List.sum_cons, ← Nat.add_assoc, ← total_add]
    exact ih (add t e.1 e.2)

theorem sum_entries_of_not_mem {k : α} {l : List (Sigma fun _ : α => ℕ)} (h : k ∉ l.keys) :
    (l.map fun e => if e.1 = k then e.2 else 0).sum = 0 := by
  rw [List.sum_eq_zero]
  intro n hn
  obtain ⟨e, he, rfl⟩ := List.mem_map.mp hn
  refine if_neg fun hk => h ?_
  rw [← hk]
  exact List.mem_map_of_mem he

/-- In a dict, one entry has the count of a key, if any has. -/
theorem sum_entries (t : CountDict α) (k : α) :
    (t.entries.map fun e => if e.1 = k then e.2 else 0).sum = countOf t k := by
  by_cases h : k ∈ t.keys
  · obtain ⟨n, l₁, l₂, -, hl, herase⟩ := List.exists_of_kerase h
    have hrest : k ∉ (l₁ ++ l₂).keys := herase ▸ List.notMem_keys_kerase k t.nodupKeys
    have hzero := sum_entries_of_not_mem hrest
    rw [List.map_append, List.sum_append] at hzero
    rw [countOf_of_entries hl, hl, List.map_append, List.sum_append, List.map_cons, List.sum_cons,
      if_pos rfl]
    dsimp only
    omega
  · rw [sum_entries_of_not_mem h, countOf, AList.lookup_eq_none.mpr h]
    rfl

/-- A whole dict added. -/
def addAll (t s : CountDict α) : CountDict α := addEntries t s.entries

theorem countOf_addAll (t s : CountDict α) (k : α) : countOf (addAll t s) k = countOf t k + countOf s k := by
  rw [addAll, countOf_addEntries, sum_entries]

theorem total_addAll (t s : CountDict α) : total (addAll t s) = total t + total s :=
  total_addEntries s.entries t

/-! ### Many dicts -/

section Fold
variable {β : Type} (f : β → CountDict α)

theorem countOf_foldl_addAll (k : α) (l : List β) : ∀ t : CountDict α,
    countOf (l.foldl (fun t b => addAll t (f b)) t) k =
      countOf t k + (l.map fun b => countOf (f b) k).sum := by
  induction l with
  | nil => exact fun _ => rfl
  | cons b l ih =>
    intro t
    rw [List.map_cons, List.sum_cons, ← Nat.add_assoc, ← countOf_addAll]
    exact ih (addAll t (f b))

theorem total_foldl_addAll (l : List β) : ∀ t : CountDict α,
    total (l.foldl (fun t b => addAll t (f b)) t) = total t + (l.map fun b => total (f b)).sum := by
  induction l with
  | nil => exact fun _ => rfl
  | cons b l ih =>
    intro t
    rw [List.map_cons, List.sum_cons, ← Nat.add_assoc, ← total_addAll]
    exact ih (addAll t (f b))

end Fold

/-! ### Counting by keys -/

section Keys
variable {β : Type} {l : List β}

theorem countP_or {p q : β → Prop} [DecidablePred p] [DecidablePred q] (h : ∀ b, p b → ¬ q b) :
    l.countP (fun b => p b ∨ q b) = l.countP (fun b => p b) + l.countP (fun b => q b) := by
  induction l with
  | nil => rfl
  | cons b l ih =>
    rw [List.countP_cons, List.countP_cons, List.countP_cons, ih]
    simp only [decide_eq_true_eq]
    by_cases hp : p b
    · rw [if_pos hp, if_neg (h b hp), if_pos (.inl hp)]
      omega
    · by_cases hq : q b
      · rw [if_neg hp, if_pos hq, if_pos (.inr hq)]
        omega
      · rw [if_neg hp, if_neg hq, if_neg (not_or.mpr ⟨hp, hq⟩)]
        omega

/-- What is counted key by key is counted once. -/
theorem sum_countP (key : β → α) (p : β → Prop) [DecidablePred p] : ∀ {ks : List α}, ks.Nodup →
    (ks.map fun k => l.countP fun b => key b = k ∧ p b).sum = l.countP fun b => key b ∈ ks ∧ p b
  | [], _ => by
    rw [List.map_nil, List.sum_nil, eq_comm, List.countP_eq_zero]
    simp
  | k :: ks, h => by
    obtain ⟨hk, hks⟩ := List.nodup_cons.mp h
    have hor : (l.countP fun b => key b ∈ k :: ks ∧ p b) =
        l.countP fun b => (key b = k ∧ p b) ∨ (key b ∈ ks ∧ p b) := by
      refine List.countP_congr fun b _ => ?_
      simp only [decide_eq_true_eq, List.mem_cons, or_and_right]
    rw [List.map_cons, List.sum_cons, sum_countP key p hks, hor, countP_or]
    rintro b ⟨rfl, -⟩ ⟨hmem, -⟩
    exact hk hmem

end Keys

/-! ### Sorting -/

theorem nodupKeys_sorted (t : CountDict α) (le : Sigma (fun _ : α => ℕ) → Sigma (fun _ : α => ℕ) → Bool) :
    (t.entries.mergeSort le).NodupKeys :=
  (List.perm_nodupKeys (List.mergeSort_perm t.entries le)).mpr t.nodupKeys

/-- `dict(sorted(counts.items(), key=lambda item: -item[1]))` -/
def busiestFirst (t : CountDict α) : CountDict α :=
  ⟨t.entries.mergeSort fun e e' => e'.2 ≤ e.2, nodupKeys_sorted t _⟩

theorem countOf_busiestFirst (t : CountDict α) (k : α) :
    countOf (busiestFirst t) k = countOf t k := by
  rw [countOf, countOf, AList.perm_lookup (List.mergeSort_perm t.entries _)]

theorem total_busiestFirst (t : CountDict α) : total (busiestFirst t) = total t :=
  ((List.mergeSort_perm t.entries _).map _).sum_eq

end TTLockConnect.Usage.Counts
