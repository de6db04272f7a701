import Mathlib.Algebra.Order.Floor.Ring
import Mathlib.Algebra.Order.Archimedean.Basic
import Mathlib.Data.Int.CardIntervalMod
import Mathlib.Tactic.FieldSimp
import Mathlib.Tactic.Linarith
import Mathlib.Tactic.Positivity

/-! # A gate that is looked at from time to time

Something is looked at once in every period `i`, the first time at once, and lets through whoever
comes at least a gap `s` after the last one it let through. It opens at every `⌈s / i⌉`-th look, its
*stride*. So it opens at the rate `1 / s`, up to one, over every stretch of time if the period divides
the gap; if not, it falls behind that rate by any number. -/

namespace TTLockConnect.Usage.Sampling

variable {K : Type*} [Field K] [LinearOrder K] [IsStrictOrderedRing K] [FloorRing K] {i s h : K}

/-- The looks in a stretch of time `h` that begins with one. -/
def looks (i h : K) : ℕ := ⌈h / i⌉₊

/-- The looks from one opening to the next. -/
def stride (i s : K) : ℕ := ⌈s / i⌉₊

/-- The last of the looks before `k` that lie at the multiples of `m`. -/
def lastOpened (m : ℕ) : ℕ → Option ℕ
  | 0 => none
  | k + 1 => if m ∣ k then some k else lastOpened m k

/-- The first `n` looks open the gate so often. -/
def openings (m n : ℕ) : ℕ := n.count (m ∣ ·)

/-! ### Which looks open the gate -/

theorem lt_looks_iff (hi : 0 < i) {k : ℕ} : k < looks i h ↔ (k : K) * i < h := by
  rw [looks, Nat.lt_ceil, lt_div_iff₀ hi]

/-- The looks keep their own rate. -/
theorem abs_looks_sub_le (hi : 0 < i) (hh : 0 ≤ h) : |(looks i h : K) - h / i| ≤ 1 := by
  have hle : h / i ≤ looks i h := Nat.le_ceil _
  have hlt : (looks i h : K) < h / i + 1 := Nat.ceil_lt_add_one (div_nonneg hh hi.le)
  rw [abs_le]
  constructor <;> linarith

theorem stride_pos (hi : 0 < i) (hs : 0 < s) : 0 < stride i s := Nat.ceil_pos.mpr (div_pos hs hi)

/-- The gap is over within a stride. -/
theorem stride_le_iff (hi : 0 < i) {n : ℕ} : stride i s ≤ n ↔ s ≤ (n : K) * i := by
  rw [stride, Nat.ceil_le, div_le_iff₀ hi]

theorem le_stride_mul (hi : 0 < i) : s ≤ (stride i s : K) * i := (stride_le_iff hi).mp le_rfl

/-- Behind the first look the last opening is less than a stride away, at a multiple of it. -/
theorem lastOpened_succ {m : ℕ} (hm : 0 < m) (k : ℕ) :
    ∃ q, lastOpened m (k + 1) = some q ∧ m ∣ q ∧ q ≤ k ∧ k < q + m := by
  induction k with
  | zero => exact ⟨0, by simp [lastOpened], dvd_zero m, le_rfl, by omega⟩
  | succ k ih =>
    obtain ⟨q, hq, hdvd, hle, hlt⟩ := ih
    by_cases hk : m ∣ k + 1
    · exact ⟨k + 1, by rw [lastOpened, if_pos hk], hk, le_rfl, by omega⟩
    · refine ⟨q, by rw [lastOpened, if_neg hk, hq], hdvd, by omega, ?_⟩
      -- the next multiple is not reached
      by_contra hge
      have heq : k + 1 = q + m := by omega
      exact hk (heq ▸ dvd_add hdvd dvd_rfl)

/-- **A look opens the gate if and only if it lies at a multiple of the stride**: then the last
opening, if there was one, is a gap away. -/
theorem opens_iff (hi : 0 < i) (hs : 0 < s) (k : ℕ) :
    (∀ q ∈ lastOpened (stride i s) k, (q : K) * i + s ≤ k * i) ↔ stride i s ∣ k := by
  have hm : 0 < stride i s := stride_pos hi hs
  cases k with
  | zero =>
    refine iff_of_true ?_ (dvd_zero _)
    intro q hq
    simp [lastOpened] at hq
  | succ k =>
    obtain ⟨q, hq, ⟨j, rfl⟩, hle, hlt⟩ := lastOpened_succ hm k
    rw [hq]
    have hopen : (((stride i s * j : ℕ) : K) * i + s ≤ (k + 1 : ℕ) * i) ↔
        stride i s ≤ k + 1 - stride i s * j := by
      rw [stride_le_iff hi, Nat.cast_sub (by omega), sub_mul, le_sub_iff_add_le, add_comm s]
    constructor
    · intro hall
      have hgap := hopen.mp (hall _ rfl)
      have heq : k + 1 = stride i s * (j + 1) := by
        rw [Nat.mul_succ]
        omega
      exact ⟨j + 1, heq⟩
    · rintro ⟨j', hj'⟩ q' hq'
      cases hq'
      refine hopen.mpr ?_
      -- a later multiple is at least a stride away
      have hj : j < j' := by
        by_contra hge
        have hmul := Nat.mul_le_mul_left (stride i s) (Nat.le_of_not_lt hge)
        omega
      have hmul := Nat.mul_le_mul_left (stride i s) hj
      rw [Nat.mul_succ] at hmul
      omega

/-! ### How often it opens -/

theorem openings_eq_ceil {m : ℕ} (hm : 0 < m) (n : ℕ) : (openings m n : ℤ) = ⌈(n : ℚ) / m⌉ := by
  have hcount := Nat.count_modEq_card_eq_ceil n hm 0
  simp only [Nat.modEq_zero_iff_dvd, Nat.zero_mod, Nat.cast_zero, sub_zero] at hcount
  exact hcount

theorem le_openings_mul {m : ℕ} (hm : 0 < m) (n : ℕ) : n ≤ openings m n * m := by
  have hm' : (0 : ℚ) < m := by exact_mod_cast hm
  have hle := Int.le_ceil ((n : ℚ) / m)
  rw [← openings_eq_ceil hm, div_le_iff₀ hm'] at hle
  exact_mod_cast hle

theorem openings_mul_lt {m : ℕ} (hm : 0 < m) (n : ℕ) : openings m n * m < n + m := by
  have hm' : (0 : ℚ) < m := by exact_mod_cast hm
  have hlt := Int.ceil_lt_add_one ((n : ℚ) / m)
  rw [← openings_eq_ceil hm, ← sub_lt_iff_lt_add, lt_div_iff₀ hm', sub_mul, one_mul,
    sub_lt_iff_lt_add] at hlt
  exact_mod_cast hlt

/-- Over a stretch of time the gate opens at least at the rate of its strides. -/
theorem div_le_openings (hi : 0 < i) {m : ℕ} (hm : 0 < m) (h : K) :
    h / (m * i) ≤ openings m (looks i h) := by
  have hm' : (0 : K) < m := by exact_mod_cast hm
  have hlooks : h ≤ (looks i h : K) * i := by
    rw [looks, ← div_le_iff₀ hi]
    exact Nat.le_ceil _
  have hopen : (looks i h : K) ≤ openings m (looks i h) * m := by
    exact_mod_cast le_openings_mul hm (looks i h)
  rw [div_le_iff₀ (mul_pos hm' hi), ← mul_assoc]
  exact hlooks.trans (mul_le_mul_of_nonneg_right hopen hi.le)

/-- And by less than one opening more. -/
theorem openings_lt (hi : 0 < i) {m : ℕ} (hm : 0 < m) (hh : 0 ≤ h) :
    (openings m (looks i h) : K) < h / (m * i) + 1 := by
  have hm' : (0 : K) < m := by exact_mod_cast hm
  have hpos : 0 < (m : K) * i := mul_pos hm' hi
  cases hn : openings m (looks i h) with
  | zero =>
    have hnonneg : 0 ≤ h / (m * i) := div_nonneg hh hpos.le
    rw [Nat.cast_zero]
    linarith
  | succ n =>
    -- the last opening lies within the stretch
    have hlt : n * m < looks i h := by
      have hmul := openings_mul_lt hm (looks i h)
      rw [hn, Nat.succ_mul] at hmul
      omega
    have hlook := (lt_looks_iff hi).mp hlt
    rw [Nat.cast_mul, mul_assoc] at hlook
    rw [Nat.cast_succ, add_lt_add_iff_right, lt_div_iff₀ hpos]
    exact hlook

/-- **A period that divides the gap keeps the rate**, over every stretch of time. -/
theorem abs_openings_sub_le (hi : 0 < i) (hs : 0 < s) (hdvd : (stride i s : K) * i = s)
    (hh : 0 ≤ h) : |(openings (stride i s) (looks i h) : K) - h / s| ≤ 1 := by
  have hm : 0 < stride i s := stride_pos hi hs
  have hle := div_le_openings hi hm h
  have hlt := openings_lt hi hm hh
  rw [hdvd] at hle hlt
  rw [abs_le]
  constructor <;> linarith

/-- **A period that does not divide the gap falls behind**: from some stretch of time on. -/
theorem exists_openings_behind (hi : 0 < i) (hs : 0 < s) (hdvd : (stride i s : K) * i ≠ s) :
    ∃ h₀ : K, 0 ≤ h₀ ∧ ∀ h, h₀ ≤ h → 1 < h / s - openings (stride i s) (looks i h) := by
  have hm : 0 < stride i s := stride_pos hi hs
  set t : K := (stride i s : K) * i
  have hlt : s < t := lt_of_le_of_ne (le_stride_mul hi) fun h => hdvd h.symm
  have ht : 0 < t := hs.trans hlt
  have hd : 0 < t - s := sub_pos.mpr hlt
  refine ⟨2 * (s * t) / (t - s), by positivity, fun h hh => ?_⟩
  rw [div_le_iff₀ hd] at hh
  have hpos : 0 ≤ h := by
    have hprod : 0 < 2 * (s * t) := by positivity
    exact (pos_of_mul_pos_left (hprod.trans_le hh) hd.le).le
  have hopen : (openings (stride i s) (looks i h) : K) < h / t + 1 := openings_lt hi hm hpos
  have hgap : 2 ≤ h / s - h / t := by
    rw [div_sub_div _ _ hs.ne' ht.ne', le_div_iff₀ (mul_pos hs ht)]
    linarith
  linarith

end TTLockConnect.Usage.Sampling
