import Mathlib.Data.Nat.Digits.Defs
import Mathlib.Tactic.Ring

/-! # Numbers by their places

The number that digits stand for, the highest place first, as a reader from left to right computes it;
from the other end this is Mathlib's `Nat.ofDigits`. Digits one behind the other are read on
(`places_append`), digits may be taken together to digits of a larger base (`places_flatMap`), and the
bits of two words behind one another are those of the words (`testBit_join`). -/

namespace TTLockConnect.Numbers.Places

/-- The number of digits to a base, behind a number `n` that has been read. -/
def places (base : ℕ) (ds : List ℕ) (n : ℕ) : ℕ := ds.foldl (fun n d => base * n + d) n

variable (base : ℕ)

theorem places_cons (d : ℕ) (ds : List ℕ) (n : ℕ) :
    places base (d :: ds) n = places base ds (base * n + d) := rfl

theorem places_append (ds es : List ℕ) (n : ℕ) :
    places base (ds ++ es) n = places base es (places base ds n) := List.foldl_append

theorem places_zero (ds : List ℕ) : places base ds 0 = Nat.ofDigits base ds.reverse := by
  rw [Nat.ofDigits_eq_foldr, List.foldr_reverse, places]
  congr 1
  funext n d
  exact Nat.add_comm _ _

/-- What has been read is moved up. -/
theorem places_eq (ds : List ℕ) (n : ℕ) :
    places base ds n = base ^ ds.length * n + places base ds 0 := by
  induction ds generalizing n with
  | nil => simp [places]
  | cons d ds ih =>
    rw [places_cons, places_cons, ih, ih (base * 0 + d), List.length_cons, pow_succ]
    ring

theorem places_join (ds es : List ℕ) :
    places base (ds ++ es) 0 = base ^ es.length * places base ds 0 + places base es 0 := by
  rw [places_append, places_eq]

variable {base}

theorem places_lt (hbase : 1 < base) {ds : List ℕ} (h : ∀ d ∈ ds, d < base) :
    places base ds 0 < base ^ ds.length := by
  rw [places_zero, ← List.length_reverse]
  exact Nat.ofDigits_lt_base_pow_length hbase fun d hd => h d (List.mem_reverse.mp hd)

/-- **Digits taken together**: `k` of them are one digit to the base `base ^ k`. -/
theorem places_flatMap {α : Type} {digits : α → List ℕ} {k : ℕ} (hk : ∀ x, (digits x).length = k)
    (xs : List α) (n : ℕ) : places base (xs.flatMap digits) n =
      places (base ^ k) (xs.map fun x => places base (digits x) 0) n := by
  induction xs generalizing n with
  | nil => rfl
  | cons x xs ih =>
    rw [List.flatMap_cons, places_append, places_eq base (digits x), hk, ih, List.map_cons, places_cons]

/-- **The bits of two words behind one another.** -/
theorem testBit_join {lo width : ℕ} (hlo : lo < 2 ^ width) (hi bit : ℕ) :
    (hi * 2 ^ width + lo).testBit bit =
      if bit < width then lo.testBit bit else hi.testBit (bit - width) := by
  rw [Nat.mul_comm, Nat.testBit_two_pow_mul_add hi hlo]

end TTLockConnect.Numbers.Places
