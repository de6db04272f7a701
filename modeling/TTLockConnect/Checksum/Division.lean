import TTLockConnect.Checksum.Register
import Mathlib.Algebra.CharP.Two
import Mathlib.Algebra.Field.ZMod
import Mathlib.Algebra.Polynomial.Div
import Mathlib.Data.List.GetD
import Mathlib.Data.List.Induction
import Mathlib.Tactic.LinearCombination

/-! # Shift registers divide

Bits are the coefficients of polynomials over the field with two elements. A register that is shifted
to the right holds its polynomial with the lowest bit in front, and a shift is a multiplication with
`X`, less the generator when a one falls out: so what is left of a message after all its shifts is the
remainder of a division.

* `residue_shift`: one shift; `residue_shifts`: any number of them;
* `residue_foldl`: a whole message, from any register;
* `residue_crc`: the checksum is the remainder, for a word a time. -/

namespace TTLockConnect.Checksum.Division

open Polynomial
open TTLockConnect.Checksum.Register

variable {w : ℕ}

/-! ### Polynomials of bits -/

/-- A bit as a coefficient. -/
def bit (b : Bool) : ZMod 2 := if b then 1 else 0

theorem bit_xor (a b : Bool) : bit (a ^^ b) = bit a + bit b := by
  cases a <;> cases b <;> decide

theorem bit_inj {a b : Bool} (h : bit a = bit b) : a = b := by
  revert h
  cases a <;> cases b <;> decide

/-- The polynomial of bits, from its highest coefficient on. -/
noncomputable def ofBits (bits : List Bool) : (ZMod 2)[X] :=
  bits.foldl (fun p b => p * X + C (bit b)) 0

theorem ofBits_concat (bits : List Bool) (b : Bool) :
    ofBits (bits ++ [b]) = ofBits bits * X + C (bit b) := by
  unfold ofBits
  rw [List.foldl_append]
  rfl

theorem ofBits_append (bits more : List Bool) :
    ofBits (bits ++ more) = ofBits bits * X ^ more.length + ofBits more := by
  induction more using List.reverseRecOn with
  | nil =>
    have hnil : ofBits [] = 0 := rfl
    rw [List.append_nil, List.length_nil, pow_zero, mul_one, hnil, add_zero]
  | append_singleton more b ih =>
    rw [← List.append_assoc, ofBits_concat, ofBits_concat, ih, List.length_append,
      List.length_singleton, pow_succ]
    ring

theorem coeff_ofBits (bits : List Bool) : ∀ i,
    (ofBits bits).coeff i = bit (bits.reverse.getD i false) := by
  induction bits using List.reverseRecOn with
  | nil => exact fun _ => rfl
  | append_singleton bits b ih =>
    intro i
    rw [ofBits_concat, List.reverse_append, List.reverse_singleton, List.singleton_append, coeff_add]
    cases i with
    | zero => rw [coeff_mul_X_zero, coeff_C_zero, zero_add, List.getD_cons_zero]
    | succ i => rw [coeff_mul_X, coeff_C_succ, add_zero, ih, List.getD_cons_succ]

/-! ### Words -/

/-- The polynomial of a word, bit `i` at `X ^ i`. -/
noncomputable def ofWord (x : BitVec w) : (ZMod 2)[X] :=
  ∑ i ∈ Finset.range w, C (bit (x.getLsbD i)) * X ^ i

theorem coeff_ofWord (x : BitVec w) (i : ℕ) : (ofWord x).coeff i = bit (x.getLsbD i) := by
  unfold ofWord
  simp only [finsetSum_coeff, coeff_C_mul_X_pow]
  rw [Finset.sum_ite_eq]
  by_cases hi : i < w
  · rw [if_pos (Finset.mem_range.mpr hi)]
  · rw [if_neg fun h => hi (Finset.mem_range.mp h), BitVec.getLsbD_of_ge x i (Nat.le_of_not_lt hi)]
    rfl

theorem ofWord_inj {x y : BitVec w} (h : ofWord x = ofWord y) : x = y := by
  refine BitVec.eq_of_getLsbD_eq fun i _ => bit_inj ?_
  rw [← coeff_ofWord, ← coeff_ofWord, h]

theorem degree_ofWord_lt (x : BitVec w) : (ofWord x).degree < w := by
  rw [degree_lt_iff_coeff_zero]
  intro i hi
  rw [coeff_ofWord, BitVec.getLsbD_of_ge x i hi]
  rfl

/-- What a register holds, its lowest bit in front. -/
noncomputable def residue (x : BitVec w) : (ZMod 2)[X] := ofWord x.reverse

theorem coeff_residue (x : BitVec w) (i : ℕ) : (residue x).coeff i = bit (x.getMsbD i) := by
  rw [residue, coeff_ofWord, BitVec.getLsbD_reverse]

theorem residue_xor (x y : BitVec w) : residue (x ^^^ y) = residue x + residue y := by
  ext i
  rw [coeff_add, coeff_residue, coeff_residue, coeff_residue, BitVec.getMsbD_xor, bit_xor]

/-- The bits of a word, the lowest first. -/
def lsbFirst (x : BitVec w) : List Bool := (List.range w).map x.getLsbD

theorem length_lsbFirst (x : BitVec w) : (lsbFirst x).length = w := by
  rw [lsbFirst, List.length_map, List.length_range]

theorem ofBits_lsbFirst (x : BitVec w) : ofBits (lsbFirst x) = residue x := by
  ext i
  rw [coeff_ofBits, coeff_residue, BitVec.getMsbD_eq_getLsbD]
  congr 1
  by_cases hi : i < w
  · have hi' : i < (lsbFirst x).reverse.length := by rwa [List.length_reverse, length_lsbFirst]
    rw [List.getD_eq_getElem _ _ hi', List.getElem_reverse]
    simp [lsbFirst, hi]
  · rw [List.getD_eq_default _ _ (by rw [List.length_reverse, length_lsbFirst]; omega)]
    simp [hi]

/-- The polynomial of a message. -/
noncomputable def message (words : List (BitVec w)) : (ZMod 2)[X] := ofBits (words.flatMap lsbFirst)

theorem message_concat (words : List (BitVec w)) (word : BitVec w) :
    message (words ++ [word]) = message words * X ^ w + residue word := by
  unfold message
  rw [List.flatMap_append, List.flatMap_singleton, ofBits_append, length_lsbFirst, ofBits_lsbFirst]

/-! ### Shifts -/

/-- The generator of a register. -/
noncomputable def generator (poly : BitVec w) : (ZMod 2)[X] := X ^ w + residue poly

theorem monic_generator (poly : BitVec w) : (generator poly).Monic :=
  monic_X_pow_add (degree_ofWord_lt _)

theorem degree_generator (poly : BitVec w) : (generator poly).degree = w := by
  unfold generator
  rw [degree_add_eq_left_of_degree_lt, degree_X_pow]
  rw [degree_X_pow]
  exact degree_ofWord_lt _

/-- What a shift to the right does, but for the feedback. -/
theorem residue_shiftRight (x : BitVec w) :
    X * residue x = residue (x >>> 1) + C (bit (x.getLsbD 0)) * X ^ w := by
  ext i
  rw [coeff_add, coeff_residue, coeff_C_mul_X_pow, BitVec.getMsbD_ushiftRight]
  cases i with
  | zero =>
    rw [coeff_X_mul_zero]
    by_cases hw : 0 = w
    · subst hw
      simp [bit]
    · rw [if_neg hw]
      simp [bit]
  | succ i =>
    rw [coeff_X_mul, coeff_residue]
    by_cases hw : i + 1 = w
    · subst hw
      simp [BitVec.getMsbD_eq_getLsbD, bit]
    · rw [if_neg hw, add_zero]
      congr 1
      by_cases hi : i + 1 < w
      · simp [hi]
      · simp [hi, BitVec.getMsbD_of_ge x i (by omega)]

/-- **A shift multiplies with `X`**, and takes the generator off when a one falls out. -/
theorem residue_shift (poly x : BitVec w) :
    X * residue x = residue (shift poly x) + generator poly * C (bit (x.getLsbD 0)) := by
  rw [residue_shiftRight]
  unfold shift
  cases x.getLsbD 0 with
  | false => simp [bit]
  | true =>
    have htwo : residue poly + residue poly = 0 := CharTwo.add_self_eq_zero _
    have hone : C (bit true) = (1 : (ZMod 2)[X]) := C_1
    rw [if_pos rfl, residue_xor, generator, hone]
    linear_combination -htwo

theorem residue_shifts (poly : BitVec w) (n : ℕ) (x : BitVec w) :
    ∃ q, X ^ n * residue x = residue ((shift poly)^[n] x) + generator poly * q := by
  induction n with
  | zero => exact ⟨0, by rw [pow_zero, one_mul, mul_zero, add_zero]; rfl⟩
  | succ n ih =>
    obtain ⟨q, hq⟩ := ih
    have hshift := residue_shift poly ((shift poly)^[n] x)
    refine ⟨C (bit (((shift poly)^[n] x).getLsbD 0)) + X * q, ?_⟩
    rw [Function.iterate_succ_apply', pow_succ']
    linear_combination X * hq + hshift

/-! ### Messages -/

/-- **A message, word by word.** -/
theorem residue_crc_add (poly : BitVec w) (words : List (BitVec w)) :
    ∃ q, message words * X ^ w = residue (crc poly w words) + generator poly * q := by
  induction words using List.reverseRecOn with
  | nil =>
    have hzero : residue (0 : BitVec w) = 0 := by
      ext i
      rw [coeff_residue, coeff_zero]
      simp [bit]
    have hcrc : crc poly w [] = 0 := rfl
    have hmessage : message ([] : List (BitVec w)) = 0 := rfl
    exact ⟨0, by rw [hcrc, hzero, hmessage, zero_mul, mul_zero, add_zero]⟩
  | append_singleton words word ih =>
    obtain ⟨q, hq⟩ := ih
    obtain ⟨q', hq'⟩ := residue_shifts poly w (crc poly w words ^^^ word)
    have hcrc : crc poly w (words ++ [word]) = (shift poly)^[w] (crc poly w words ^^^ word) :=
      List.foldl_append
    rw [residue_xor] at hq'
    refine ⟨X ^ w * q + q', ?_⟩
    rw [message_concat, hcrc]
    linear_combination X ^ w * hq + hq'

/-- **The checksum is the remainder** of the message, shifted by the width of the register. -/
theorem residue_crc (poly : BitVec w) (words : List (BitVec w)) :
    residue (crc poly w words) = (message words * X ^ w) %ₘ generator poly := by
  obtain ⟨q, hq⟩ := residue_crc_add poly words
  refine ((div_modByMonic_unique q _ (monic_generator poly) ⟨hq.symm, ?_⟩).2).symm
  rw [degree_generator]
  exact degree_ofWord_lt _

end TTLockConnect.Checksum.Division
