import PyIgnite.Bytes
import Mathlib.Data.Int.Bitwise

/-!
# PyIgnite.Api.SchemaId

The schema id `put_binary_type` (`api/binary.py`) computes while it assembles a binary type's
fields: an FNV-1 style fold over the four bytes of each field id, written with Python's
unbounded `int`, `&`, `^`, `>>` and `int_overflow` after each multiplication.

Meaning: the server computes the same id with wrapping 32-bit arithmetic, so the loop is right
when it agrees bit for bit with the 32-bit fold over the little-endian two's-complement bytes of
the ids (`fnv1aSchemaId`). The loop's accumulator is read through its low 32 bits,
`BitVec.ofInt 32`, which commutes with `^`, `*` and `int_overflow`.

* `xorMul_toNat`, `schemaIdStep_toNat`: one round of the loop, and the four rounds for one field
  id, are the 32-bit fold over one byte and over the id's four bytes.
* `schemaId_eq_fnv1aSchemaId`: the loop agrees with the 32-bit fold for every list of ids.
-/

namespace PyIgnite

/-- Modelled from the spec: `FNV1_OFFSET_BASIS` (`pyignite.constants`), the 32-bit FNV-1
offset basis. -/
def fnv1OffsetBasis : Int := 0x811C9DC5

/-- Modelled from the spec: `FNV1_PRIME` (`pyignite.constants`), the 32-bit FNV-1 prime. -/
def fnv1Prime : Int := 0x01000193

/-- Modelled from the spec: `int_overflow` (`pyignite.utils`), wraparound to a signed 32-bit
integer. -/
def intOverflow (value : Int) : Int := value.bmod (2 ^ 32)

def xorMul (schemaId byte : Int) : Int := intOverflow (Int.xor schemaId byte * fnv1Prime)

def schemaIdStep (schemaId fieldId : Int) : Int :=
  let schemaId := xorMul schemaId (Int.land fieldId 0xff)
  let schemaId := xorMul schemaId (Int.land (fieldId >>> (8 : Nat)) 0xff)
  let schemaId := xorMul schemaId (Int.land (fieldId >>> (16 : Nat)) 0xff)
  xorMul schemaId (Int.land (fieldId >>> (24 : Nat)) 0xff)

/-- `schema_id = FNV1_OFFSET_BASIS if schema else 0`, then the loop over the field ids. -/
def schemaId (fieldIds : List Int) : Int :=
  fieldIds.foldl schemaIdStep (if fieldIds.isEmpty then 0 else fnv1OffsetBasis)

/-! ## The 32-bit fold -/

def fnv1aStep (h : Nat) (b : UInt8) : Nat := (h ^^^ b.toNat) * 16777619 % 2 ^ 32

def toSigned32 (h : Nat) : Int := if h < 2 ^ 31 then h else (h : Int) - 2 ^ 32

/-- The schema id as the spec states it: 0 for no fields, otherwise the 32-bit FNV-1a fold from
`0x811C9DC5` over the four little-endian two's-complement bytes of each id, read as signed. -/
def fnv1aSchemaId (ids : List Int) : Int :=
  if ids = [] then 0
  else toSigned32 ((ids.flatMap fun i => leBytes 4 (i % 2 ^ 32).toNat).foldl fnv1aStep 0x811C9DC5)

/-! ## Python's bit operations on the low word -/

section Bits

theorem toSigned32_range {h : Nat} (hh : h < 2 ^ 32) :
    -2 ^ 31 ≤ toSigned32 h ∧ toSigned32 h < 2 ^ 31 := by
  unfold toSigned32
  split_ifs <;> omega

theorem toSigned32_toNat (v : BitVec 32) : toSigned32 v.toNat = v.toInt := by
  rw [BitVec.toInt_eq_toNat_cond, toSigned32]
  split_ifs <;> first | rfl | omega

theorem getLsbD_ofInt (w : Nat) (a : Int) (i : Nat) :
    (BitVec.ofInt w a).getLsbD i = (decide (i < w) && a.testBit i) := by
  cases a with
  | ofNat n => simp [Int.testBit, BitVec.getLsbD_ofNat]
  | negSucc n =>
    simp only [BitVec.ofInt_negSucc_eq_not_ofNat, BitVec.getLsbD_not, BitVec.getLsbD_ofNat,
      Int.testBit]
    cases decide (i < w) <;> rfl

theorem ofInt_xor (w : Nat) (a b : Int) :
    BitVec.ofInt w (Int.xor a b) = BitVec.ofInt w a ^^^ BitVec.ofInt w b := by
  ext i
  simp [getLsbD_ofInt, Int.testBit_lxor, i.isLt]

theorem testBit_shiftRight (a : Int) (n i : Nat) : (a >>> n).testBit i = a.testBit (n + i) := by
  cases a <;> simp [Int.testBit, Int.shiftRight_eq, Int.shiftRight]

theorem ofInt_byte_toNat (a : Int) {n : Nat} (hn : n + 8 ≤ 32) :
    (BitVec.ofInt 32 (Int.land (a >>> n) 0xff)).toNat = (BitVec.ofInt 32 a).toNat >>> n % 256 := by
  have h : BitVec.ofInt 32 (Int.land (a >>> n) 0xff) =
      BitVec.ofNat 32 ((BitVec.ofInt 32 a).toNat >>> n % 2 ^ 8) := by
    ext i
    have h255 (j : Nat) : Int.testBit 0xff j = decide (j < 8) := Nat.testBit_two_pow_sub_one 8 j
    simp only [getLsbD_ofInt, Int.testBit_land, testBit_shiftRight, h255, BitVec.getLsbD_ofNat,
      Nat.testBit_mod_two_pow, Nat.testBit_shiftRight, BitVec.testBit_toNat]
    by_cases hi : (i : Nat) < 8
    · simp [hi, show (i : Nat) < 32 from i.isLt, show n + i < 32 by omega]
    · simp [hi]
  rw [h, BitVec.toNat_ofNat, Nat.mod_eq_of_lt (by omega)]
  rfl

theorem ofInt_intOverflow (x : Int) : BitVec.ofInt 32 (intOverflow x) = BitVec.ofInt 32 x := by
  apply BitVec.eq_of_toNat_eq
  simp only [BitVec.toNat_ofInt, intOverflow, Int.bmod_emod]

theorem toSigned32_intOverflow (x : Int) :
    toSigned32 (BitVec.ofInt 32 (intOverflow x)).toNat = intOverflow x := by
  rw [toSigned32_toNat, ofInt_intOverflow, BitVec.toInt_ofInt]
  rfl

end Bits

/-! ## The loop and the fold -/

theorem xorMul_toNat (s b : Int) :
    (BitVec.ofInt 32 (xorMul s b)).toNat =
      ((BitVec.ofInt 32 s).toNat ^^^ (BitVec.ofInt 32 b).toNat) * 16777619 % 2 ^ 32 := by
  rw [xorMul, ofInt_intOverflow, BitVec.ofInt_mul, ofInt_xor, BitVec.toNat_mul, BitVec.toNat_xor]
  rfl

theorem schemaIdStep_toNat (s f : Int) :
    (BitVec.ofInt 32 (schemaIdStep s f)).toNat =
      (leBytes 4 (f % 2 ^ 32).toNat).foldl fnv1aStep (BitVec.ofInt 32 s).toNat := by
  have h0 : f = f >>> (0 : Nat) := by cases f <;> rfl
  have hx : (BitVec.ofInt 32 f).toNat = (f % 2 ^ 32).toNat := BitVec.toNat_ofInt f
  simp only [schemaIdStep, xorMul_toNat]
  rw [h0, ofInt_byte_toNat _ (by omega), ofInt_byte_toNat _ (by omega),
    ofInt_byte_toNat _ (by omega), ofInt_byte_toNat _ (by omega), ← h0, hx]
  simp [leBytes, fnv1aStep, toNat_ofNat_byte, Nat.shiftRight_eq_div_pow, Nat.div_div_eq_div_mul]

theorem foldl_schemaIdStep_toNat (ids : List Int) (s : Int) :
    (BitVec.ofInt 32 (ids.foldl schemaIdStep s)).toNat =
      (ids.flatMap fun i => leBytes 4 (i % 2 ^ 32).toNat).foldl fnv1aStep
        (BitVec.ofInt 32 s).toNat := by
  induction ids generalizing s with
  | nil => rfl
  | cons f ids ih =>
    rw [List.foldl_cons, ih, schemaIdStep_toNat, List.flatMap_cons, List.foldl_append]

theorem foldl_schemaIdStep_signed : ∀ (ids : List Int) (s : Int), ids ≠ [] →
    toSigned32 (BitVec.ofInt 32 (ids.foldl schemaIdStep s)).toNat = ids.foldl schemaIdStep s
  | [f], s, _ => by
    rw [List.foldl_cons, List.foldl_nil]
    simp only [schemaIdStep, xorMul]
    exact toSigned32_intOverflow _
  | f :: g :: ids, s, _ => by
    rw [List.foldl_cons]
    exact foldl_schemaIdStep_signed (g :: ids) (schemaIdStep s f) (List.cons_ne_nil _ _)

theorem schemaId_eq_fnv1aSchemaId (ids : List Int) : schemaId ids = fnv1aSchemaId ids := by
  cases ids with
  | nil => rfl
  | cons f ids =>
    have hb : (BitVec.ofInt 32 fnv1OffsetBasis).toNat = 0x811C9DC5 := by decide
    simp only [schemaId, fnv1aSchemaId, List.isEmpty_cons, if_false, reduceCtorEq]
    rw [← foldl_schemaIdStep_signed _ _ (List.cons_ne_nil _ _), foldl_schemaIdStep_toNat, hb]

end PyIgnite
