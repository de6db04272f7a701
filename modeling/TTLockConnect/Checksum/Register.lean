import Mathlib.Algebra.Ring.Parity
import Mathlib.Data.List.Basic
import Mathlib.Data.List.Range
import Mathlib.Logic.Function.Iterate
import Mathlib.Tactic.Common

/-! # Shift registers with feedback

The checksum that a shift register leaves behind: the words of a message are added to the register,
which after each is shifted a number of times to the right, and the polynomial is added whenever a
one falls out. For any width and polynomial:

* a polynomial with an odd number of ones keeps parity (`crc_parity`), so that an odd number of
  flipped bits shows;
* a polynomial with the highest bit set loses no information (`shift_injective`), so that a word
  that has changed shows (`crc_changed`);
* a message with its checksum behind it leaves nothing in the register (`crc_seal`). -/

namespace TTLockConnect.Checksum.Register

variable {w : ℕ}

/-- The number of ones in a word. -/
def ones (x : BitVec w) : ℕ := (List.range w).countP x.getLsbD

/-- One shift. -/
def shift (poly x : BitVec w) : BitVec w := if x.getLsbD 0 then (x >>> 1) ^^^ poly else x >>> 1

/-- What is left of a message, after `n` shifts for each of its words. -/
def crc (poly : BitVec w) (n : ℕ) (words : List (BitVec w)) : BitVec w :=
  words.foldl (fun x word => (shift poly)^[n] (x ^^^ word)) 0

/-! ### Parity -/

theorem countP_xor {α : Type} (p q : α → Bool) (l : List α) :
    l.countP (fun a => p a ^^ q a) % 2 = (l.countP p + l.countP q) % 2 := by
  induction l with
  | nil => rfl
  | cons a l ih =>
    simp only [List.countP_cons]
    cases p a <;> cases q a <;> simp <;> omega

theorem ones_xor (x y : BitVec w) : ones (x ^^^ y) % 2 = (ones x + ones y) % 2 := by
  unfold ones
  have hxor : (x ^^^ y).getLsbD = fun i => x.getLsbD i ^^ y.getLsbD i :=
    funext fun i => BitVec.getLsbD_xor
  rw [hxor]
  exact countP_xor _ _ _

theorem ones_zero : ones (0 : BitVec w) = 0 := by
  unfold ones
  rw [List.countP_eq_zero]
  intro i _
  simp

/-- What falls out is the lowest bit. -/
theorem ones_shiftRight (x : BitVec w) : ones (x >>> 1) + (x.getLsbD 0).toNat = ones x := by
  unfold ones
  have hall : (List.range (w + 1)).countP x.getLsbD = (List.range w).countP x.getLsbD := by
    have htop : x.getLsbD w = false := BitVec.getLsbD_of_ge x w (Nat.le_refl w)
    rw [List.range_succ, List.countP_append, List.countP_singleton, htop]
    simp
  have hshift : (x >>> 1).getLsbD = x.getLsbD ∘ Nat.succ := by
    funext i
    rw [BitVec.getLsbD_ushiftRight, Function.comp_apply, Nat.succ_eq_one_add]
  rw [← hall, hshift, List.range_succ_eq_map, List.countP_cons, List.countP_map]
  cases x.getLsbD 0 <;> simp

theorem shift_parity {poly : BitVec w} (hp : Odd (ones poly)) (x : BitVec w) :
    ones (shift poly x) % 2 = ones x % 2 := by
  have hones := ones_shiftRight x
  unfold shift
  cases hx : x.getLsbD 0 with
  | true =>
    rw [hx, Bool.toNat_true] at hones
    have hxor := ones_xor (x >>> 1) poly
    rw [Nat.odd_iff] at hp
    rw [if_pos rfl]
    omega
  | false =>
    rw [hx, Bool.toNat_false] at hones
    rw [if_neg nofun]
    omega

theorem shifts_parity {poly : BitVec w} (hp : Odd (ones poly)) (n : ℕ) (x : BitVec w) :
    ones ((shift poly)^[n] x) % 2 = ones x % 2 := by
  induction n generalizing x with
  | zero => rfl
  | succ n ih =>
    rw [Function.iterate_succ_apply, ih]
    exact shift_parity hp x

theorem foldl_parity {poly : BitVec w} (hp : Odd (ones poly)) (n : ℕ) (words : List (BitVec w))
    (x : BitVec w) :
    ones (words.foldl (fun x word => (shift poly)^[n] (x ^^^ word)) x) % 2 =
      (ones x + (words.map ones).sum) % 2 := by
  induction words generalizing x with
  | nil => rfl
  | cons word words ih =>
    have hstep := shifts_parity hp n (x ^^^ word)
    have hxor := ones_xor x word
    rw [List.foldl_cons, ih, List.map_cons, List.sum_cons]
    omega

/-- **The checksum has the parity of the message**, if the polynomial has an odd number of ones. -/
theorem crc_parity {poly : BitVec w} (hp : Odd (ones poly)) (n : ℕ) (words : List (BitVec w)) :
    ones (crc poly n words) % 2 = (words.map ones).sum % 2 := by
  unfold crc
  rw [foldl_parity hp, ones_zero, Nat.zero_add]

/-! ### Information -/

/-- The highest bit tells what fell out. -/
theorem msb_shift {poly : BitVec w} (hp : poly.msb = true) (x : BitVec w) :
    (shift poly x).msb = x.getLsbD 0 := by
  have hw : 0 < w := by
    rcases Nat.eq_zero_or_pos w with rfl | hw
    · rw [BitVec.eq_nil poly] at hp
      cases hp
    · exact hw
  have htop : (x >>> 1).msb = false := by
    rw [BitVec.msb_eq_getLsbD_last, BitVec.getLsbD_ushiftRight]
    exact BitVec.getLsbD_of_ge x _ (by omega)
  unfold shift
  cases hx : x.getLsbD 0 with
  | true => rw [if_pos rfl, BitVec.msb_xor, htop, hp, Bool.false_xor]
  | false => rw [if_neg nofun, htop]

/-- **A shift loses nothing**, if the polynomial has the highest bit. -/
theorem shift_injective {poly : BitVec w} (hp : poly.msb = true) :
    Function.Injective (shift poly) := by
  intro x y h
  have hlow : x.getLsbD 0 = y.getLsbD 0 := by rw [← msb_shift hp x, h, msb_shift hp y]
  have hrest : x >>> 1 = y >>> 1 := by
    unfold shift at h
    rw [hlow] at h
    cases hy : y.getLsbD 0 with
    | true =>
      rw [hy, if_pos rfl, if_pos rfl] at h
      exact (BitVec.xor_left_inj poly).mp h
    | false =>
      rw [hy, if_neg nofun, if_neg nofun] at h
      exact h
  refine BitVec.eq_of_getLsbD_eq fun i _ => ?_
  cases i with
  | zero => exact hlow
  | succ i =>
    have hbit := congrArg (BitVec.getLsbD · i) hrest
    simpa only [BitVec.getLsbD_ushiftRight, Nat.add_comm 1 i] using hbit

theorem foldl_injective {poly : BitVec w} (hp : poly.msb = true) (n : ℕ)
    (words : List (BitVec w)) : Function.Injective fun x =>
      words.foldl (fun x word => (shift poly)^[n] (x ^^^ word)) x := by
  induction words with
  | nil => exact Function.injective_id
  | cons word words ih =>
    intro x y h
    exact (BitVec.xor_left_inj word).mp ((shift_injective hp).iterate n (ih h))

/-- **A word that has changed changes the checksum.** -/
theorem crc_changed {poly : BitVec w} (hp : poly.msb = true) (n : ℕ) {x y : BitVec w}
    (front back : List (BitVec w)) (hne : x ≠ y) :
    crc poly n (front ++ x :: back) ≠ crc poly n (front ++ y :: back) := by
  intro h
  unfold crc at h
  rw [List.foldl_append, List.foldl_append, List.foldl_cons, List.foldl_cons] at h
  have hxor := (shift_injective hp).iterate n (foldl_injective hp n back h)
  exact hne ((BitVec.xor_right_inj _).mp hxor)

/-! ### Messages with their checksum -/

theorem shift_zero (poly : BitVec w) : shift poly 0 = 0 := by
  unfold shift
  rw [if_neg (by simp)]
  simp

/-- **What follows a message and its checksum is checked as if they were not there.** -/
theorem crc_seal (poly : BitVec w) (n : ℕ) (words back : List (BitVec w)) :
    crc poly n (words ++ crc poly n words :: back) = crc poly n back := by
  have hzero : (shift poly)^[n] 0 = 0 := Function.iterate_fixed (shift_zero poly) n
  have hself : words.foldl (fun x word => (shift poly)^[n] (x ^^^ word)) 0 ^^^
      words.foldl (fun x word => (shift poly)^[n] (x ^^^ word)) 0 = 0 := BitVec.xor_self
  unfold crc
  rw [List.foldl_append, List.foldl_cons, hself, hzero]

end TTLockConnect.Checksum.Register
