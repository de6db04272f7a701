import Mathlib.Data.List.Basic
import Mathlib.Data.Nat.Notation
import Mathlib.Tactic.Cases
import Mathlib.Tactic.SplitIfs

/-! # Cipher block chaining over a block cipher

CBC with PKCS7 padding, for any block cipher on 16-byte blocks: a pair of mutually inverse maps of
blocks for every key. -/

namespace TTLockConnect.Ble.Cipher

abbrev Byte := BitVec 8

abbrev Bytes := List Byte

/-- The block length in bytes, which is also the length of a key. -/
def blockLength : ℕ := 16

/-- **A block cipher**: for every key a permutation of the blocks. -/
structure BlockCipher where
  encrypt : Bytes → Bytes → Bytes
  decrypt : Bytes → Bytes → Bytes
  length_encrypt : ∀ key b, b.length = blockLength → (encrypt key b).length = blockLength
  length_decrypt : ∀ key b, b.length = blockLength → (decrypt key b).length = blockLength
  decrypt_encrypt : ∀ key b, b.length = blockLength → decrypt key (encrypt key b) = b
  encrypt_decrypt : ∀ key b, b.length = blockLength → encrypt key (decrypt key b) = b

/-- The exclusive or of two blocks. -/
def xorBlock (a b : Bytes) : Bytes := List.zipWith (· ^^^ ·) a b

/-- The first `n` blocks of a byte string. -/
def blocks : ℕ → Bytes → List Bytes
  | 0, _ => []
  | n + 1, bs => bs.take blockLength :: blocks n (bs.drop blockLength)

/-- CBC encryption, `prev` being the block to chain with. -/
def cbcEncrypt (c : BlockCipher) (key : Bytes) : Bytes → List Bytes → Bytes
  | _, [] => []
  | prev, b :: bs =>
    let e := c.encrypt key (xorBlock b prev)
    e ++ cbcEncrypt c key e bs

/-- CBC decryption, `prev` being the block to chain with. -/
def cbcDecrypt (c : BlockCipher) (key : Bytes) : Bytes → List Bytes → Bytes
  | _, [] => []
  | prev, b :: bs => xorBlock (c.decrypt key b) prev ++ cbcDecrypt c key b bs

/-- PKCS7: between 1 and 16 bytes, each their number. -/
def pad (bs : Bytes) : Bytes :=
  let n := blockLength - bs.length % blockLength
  bs ++ List.replicate n (BitVec.ofNat 8 n)

/-- The padding taken off again, if it is one. -/
def unpad (bs : Bytes) : Option Bytes :=
  let n := (bs.getLastD 0).toNat
  if 1 ≤ n ∧ n ≤ blockLength ∧ bs.drop (bs.length - n) = List.replicate n (BitVec.ofNat 8 n) then
    some (bs.take (bs.length - n))
  else none

/-! ### Blocks -/

theorem length_xorBlock {a b : Bytes} (ha : a.length = blockLength) (hb : b.length = blockLength) :
    (xorBlock a b).length = blockLength := by
  rw [xorBlock, List.length_zipWith, ha, hb, Nat.min_self]

theorem xorBlock_xorBlock {a b : Bytes} (h : a.length = b.length) :
    xorBlock (xorBlock a b) b = a := by
  induction a generalizing b with
  | nil => rfl
  | cons x a ih =>
    cases b with
    | nil => simp at h
    | cons y b =>
      have hxy : x ^^^ y ^^^ y = x := by rw [BitVec.xor_assoc, BitVec.xor_self, BitVec.xor_zero]
      have htail : xorBlock (xorBlock a b) b = a := ih (Nat.succ.inj h)
      change (x ^^^ y ^^^ y) :: xorBlock (xorBlock a b) b = x :: a
      rw [hxy, htail]

/-- A list of whole blocks. -/
def Whole (bs : List Bytes) : Prop := ∀ b ∈ bs, b.length = blockLength

theorem Whole.head {b : Bytes} {bs : List Bytes} (h : Whole (b :: bs)) : b.length = blockLength :=
  h b (List.mem_cons_self ..)

theorem Whole.tail {b : Bytes} {bs : List Bytes} (h : Whole (b :: bs)) : Whole bs :=
  fun x hx => h x (List.mem_cons_of_mem b hx)

theorem length_blocks (n : ℕ) (bs : Bytes) : (blocks n bs).length = n := by
  induction n generalizing bs with
  | zero => rfl
  | succ n ih =>
    rw [blocks, List.length_cons, ih]

theorem whole_blocks {n : ℕ} {bs : Bytes} (h : bs.length = n * blockLength) :
    Whole (blocks n bs) := by
  induction n generalizing bs with
  | zero => exact nofun
  | succ n ih =>
    rw [Nat.succ_mul] at h
    intro b hb
    rcases List.mem_cons.mp hb with rfl | hb
    · rw [List.length_take]
      omega
    · exact ih (by rw [List.length_drop]; omega) b hb

theorem flatten_blocks {n : ℕ} {bs : Bytes} (h : bs.length = n * blockLength) :
    (blocks n bs).flatten = bs := by
  induction n generalizing bs with
  | zero =>
    have hnil : bs = [] := List.eq_nil_of_length_eq_zero (by omega)
    rw [hnil]
    rfl
  | succ n ih =>
    have hdrop : (bs.drop blockLength).length = n * blockLength := by
      rw [Nat.succ_mul] at h
      rw [List.length_drop]
      omega
    rw [blocks, List.flatten_cons, ih hdrop, List.take_append_drop]

theorem blocks_append {n : ℕ} {b bs : Bytes} (h : b.length = blockLength) :
    blocks (n + 1) (b ++ bs) = b :: blocks n bs := by
  rw [blocks, ← h, List.take_left, List.drop_left]

/-! ### Chaining -/

section Chaining
variable (c : BlockCipher) (key : Bytes)

theorem length_cbcEncrypt {prev : Bytes} {bs : List Bytes} (hp : prev.length = blockLength)
    (hb : Whole bs) : (cbcEncrypt c key prev bs).length = bs.length * blockLength := by
  induction bs generalizing prev with
  | nil => simp [cbcEncrypt]
  | cons b bs ih =>
    have he := c.length_encrypt key _ (length_xorBlock hb.head hp)
    rw [cbcEncrypt, List.length_append, he, ih he hb.tail, List.length_cons, Nat.succ_mul]
    omega

theorem length_cbcDecrypt {prev : Bytes} {bs : List Bytes} (hp : prev.length = blockLength)
    (hb : Whole bs) : (cbcDecrypt c key prev bs).length = bs.length * blockLength := by
  induction bs generalizing prev with
  | nil => simp [cbcDecrypt]
  | cons b bs ih =>
    have hd := length_xorBlock (c.length_decrypt key b hb.head) hp
    rw [cbcDecrypt, List.length_append, hd, ih hb.head hb.tail, List.length_cons, Nat.succ_mul]
    omega

/-- **Decryption undoes encryption.** -/
theorem cbcDecrypt_cbcEncrypt {prev : Bytes} {bs : List Bytes} (hp : prev.length = blockLength)
    (hb : Whole bs) :
    cbcDecrypt c key prev (blocks bs.length (cbcEncrypt c key prev bs)) = bs.flatten := by
  induction bs generalizing prev with
  | nil => rfl
  | cons b bs ih =>
    have hx := length_xorBlock hb.head hp
    have he := c.length_encrypt key _ hx
    rw [cbcEncrypt, List.length_cons, blocks_append he, cbcDecrypt, ih he hb.tail,
      c.decrypt_encrypt key _ hx, xorBlock_xorBlock (hb.head.trans hp.symm), List.flatten_cons]

/-- **Encryption undoes decryption.** -/
theorem cbcEncrypt_cbcDecrypt {prev : Bytes} {bs : List Bytes} (hp : prev.length = blockLength)
    (hb : Whole bs) :
    cbcEncrypt c key prev (blocks bs.length (cbcDecrypt c key prev bs)) = bs.flatten := by
  induction bs generalizing prev with
  | nil => rfl
  | cons b bs ih =>
    have hl := c.length_decrypt key b hb.head
    have hd := length_xorBlock hl hp
    rw [cbcDecrypt, List.length_cons, blocks_append hd, cbcEncrypt,
      xorBlock_xorBlock (hl.trans hp.symm), c.encrypt_decrypt key b hb.head, ih hb.head hb.tail,
      List.flatten_cons]

end Chaining

/-! ### Padding -/

theorem length_pad (bs : Bytes) :
    (pad bs).length = (bs.length / blockLength + 1) * blockLength := by
  have hmod : blockLength * (bs.length / blockLength) + bs.length % blockLength = bs.length :=
    Nat.div_add_mod _ _
  have hlt : bs.length % blockLength < blockLength := Nat.mod_lt _ (by decide)
  rw [pad, List.length_append, List.length_replicate, Nat.add_mul, Nat.mul_comm]
  omega

theorem toNat_ofNat_pad {n : ℕ} (h : n ≤ blockLength) : (BitVec.ofNat 8 n).toNat = n := by
  rw [blockLength] at h
  rw [BitVec.toNat_ofNat, Nat.mod_eq_of_lt (by omega)]

theorem unpad_pad (bs : Bytes) : unpad (pad bs) = some bs := by
  have hlt : bs.length % blockLength < blockLength := Nat.mod_lt _ (by decide)
  unfold pad
  generalize hn : blockLength - bs.length % blockLength = n
  have hpos : 1 ≤ n := by omega
  have hle : n ≤ blockLength := by omega
  have hlast : (bs ++ List.replicate n (BitVec.ofNat 8 n)).getLastD 0 = BitVec.ofNat 8 n := by
    obtain ⟨m, rfl⟩ : ∃ m, n = m + 1 := ⟨n - 1, by omega⟩
    rw [List.replicate_succ', ← List.append_assoc, List.getLastD_concat]
  have hlen : (bs ++ List.replicate n (BitVec.ofNat 8 n)).length - n = bs.length := by
    rw [List.length_append, List.length_replicate]
    omega
  unfold unpad
  dsimp only
  rw [hlast, toNat_ofNat_pad hle, hlen, List.drop_left, List.take_left]
  exact if_pos ⟨hpos, hle, rfl⟩

/-- Only what `pad` adds is taken off. -/
theorem pad_of_unpad {bs out : Bytes} (hb : bs.length % blockLength = 0) (h : unpad bs = some out) :
    pad out = bs := by
  unfold unpad at h
  dsimp only at h
  generalize hn : (bs.getLastD 0).toNat = n at h
  split_ifs at h with hc
  obtain ⟨hpos, hle, hdrop⟩ := hc
  obtain rfl := Option.some.inj h
  have hlen := congrArg List.length hdrop
  rw [List.length_drop, List.length_replicate] at hlen
  have htake : (bs.take (bs.length - n)).length % blockLength = blockLength - n := by
    rw [List.length_take, blockLength] at *
    omega
  have hpad : blockLength - (blockLength - n) = n := by omega
  unfold pad
  rw [htake, hpad]
  change bs.take (bs.length - n) ++ List.replicate n (BitVec.ofNat 8 n) = bs
  rw [← hdrop, List.take_append_drop]

end TTLockConnect.Ble.Cipher
