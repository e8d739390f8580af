import Mathlib.Tactic.Positivity
import Mathlib.Tactic.NormNum

/-!
# PyIgnite.Bytes

Little-endian byte strings. Every multi-byte integer on the wire is little-endian
(`PROTOCOL_BYTE_ORDER`): the ctypes header of a request, the `cache_id` of a cache-context
block, and what the data codecs write.

* `leBytes n x`: the `n` low-order bytes of `x`, least significant first; `leValue` reads them
  back, and `leValue_leBytes` is the round trip modulo `256 ^ n`.
* `leSigned`: the two's-complement reading of a byte string, as ctypes reads a `c_short`,
  `c_int` or `c_longlong` field; `leSigned_leBytes` reads back every integer in range.
-/

namespace PyIgnite

def leBytes : Nat → Nat → List UInt8
  | 0, _ => []
  | n + 1, x => UInt8.ofNat x :: leBytes n (x / 256)

def leValue : List UInt8 → Nat
  | [] => 0
  | b :: bs => b.toNat + 256 * leValue bs

def leSigned (bs : List UInt8) : Int :=
  if (leValue bs : Int) < 2 ^ (8 * bs.length - 1) then leValue bs
  else leValue bs - 2 ^ (8 * bs.length)

@[simp] theorem leBytes_zero (x : Nat) : leBytes 0 x = [] := rfl

@[simp] theorem leBytes_succ (n x : Nat) :
    leBytes (n + 1) x = UInt8.ofNat x :: leBytes n (x / 256) := rfl

@[simp] theorem leValue_nil : leValue [] = 0 := rfl

@[simp] theorem leValue_cons (b : UInt8) (bs : List UInt8) :
    leValue (b :: bs) = b.toNat + 256 * leValue bs := rfl

@[simp] theorem length_leBytes (n x : Nat) : (leBytes n x).length = n := by
  induction n generalizing x with
  | zero => rfl
  | succ n ih => simp [ih]

theorem toNat_ofNat_byte (x : Nat) : (UInt8.ofNat x).toNat = x % 256 := rfl

theorem leValue_leBytes (n x : Nat) : leValue (leBytes n x) = x % 256 ^ n := by
  induction n generalizing x with
  | zero => simp [Nat.mod_one]
  | succ n ih =>
    rw [leBytes_succ, leValue_cons, ih, toNat_ofNat_byte, pow_succ', Nat.mod_mul]

theorem leValue_leBytes_of_lt {n x : Nat} (h : x < 256 ^ n) : leValue (leBytes n x) = x := by
  rw [leValue_leBytes, Nat.mod_eq_of_lt h]

theorem leSigned_leBytes {n : Nat} (hn : 0 < n) {v : Int} (h₁ : -2 ^ (8 * n - 1) ≤ v)
    (h₂ : v < 2 ^ (8 * n - 1)) : leSigned (leBytes n (v % 2 ^ (8 * n)).toNat) = v := by
  have hpos : (0 : Int) < 2 ^ (8 * n) := by positivity
  have hnn : 0 ≤ v % 2 ^ (8 * n) := Int.emod_nonneg _ hpos.ne'
  have hlt : (v % 2 ^ (8 * n)).toNat < 256 ^ n := by
    have h256 : ((256 ^ n : Nat) : Int) = 2 ^ (8 * n) := by push_cast; rw [pow_mul]; norm_num
    have := Int.emod_lt_of_pos v hpos
    omega
  have hsplit : (2 : Int) ^ (8 * n) = 2 * 2 ^ (8 * n - 1) := by
    rw [← pow_succ']; congr 1; omega
  simp only [leSigned, length_leBytes, leValue_leBytes_of_lt hlt, Int.toNat_of_nonneg hnn]
  generalize (2 : Int) ^ (8 * n - 1) = M at *
  rw [hsplit]
  have hmod : v % (2 * M) = if 0 ≤ v then v else v + 2 * M := by
    split
    · exact Int.emod_eq_of_lt ‹_› (by omega)
    · rw [← Int.add_mul_emod_self (b := 1), Int.emod_eq_of_lt] <;> omega
  rw [hmod]
  split_ifs <;> omega

end PyIgnite
