import PyIgnite.Python

/-!
# PyIgnite.Queries.Header

The request header: the packed little-endian ctypes structure that `Query.build_c_type` and
`ConfigQuery.build_c_type` create (`_pack_ = 1`, so no padding between fields).

* `QueryClass.buildCType` lists the fields of each class; `QueryClass.sizeof` adds up their
  sizes, 14 bytes for `Query` and 18 for `ConfigQuery`.
* `Header` is an instance of the class: the raw bits of each field, zero until assigned. ctypes
  stores an assigned Python int modulo the field's width (`BitVec.ofInt`) and reads it back
  signed (`BitVec.toInt`).
* `Header.toBytes` is `bytes(header)`; `length_toBytes` says it fills exactly `sizeof` bytes, and
  `leSigned_ofInt` that a field written from an in-range int reads back as that int.
-/

namespace PyIgnite

/-- The two request classes of `queries/query.py`; `ConfigQuery` overrides `build_c_type` and
`_build_header`. -/
inductive QueryClass where
  | query
  | configQuery
  deriving Repr, DecidableEq

inductive CType where
  | c_short
  | c_int
  | c_longlong
  deriving Repr, DecidableEq

def CType.sizeof : CType → Nat
  | .c_short => 2
  | .c_int => 4
  | .c_longlong => 8

namespace QueryClass

def buildCType : QueryClass → List (String × CType)
  | query => [("length", .c_int), ("op_code", .c_short), ("query_id", .c_longlong)]
  | configQuery => [("length", .c_int), ("op_code", .c_short), ("query_id", .c_longlong),
      ("config_length", .c_int)]

def sizeof (cls : QueryClass) : Nat := (cls.buildCType.map fun f => f.2.sizeof).sum

@[simp] theorem sizeof_query : query.sizeof = 14 := rfl
@[simp] theorem sizeof_configQuery : configQuery.sizeof = 18 := rfl

end QueryClass

structure Header where
  length : BitVec 32 := 0
  opCode : BitVec 16 := 0
  queryId : BitVec 64 := 0
  configLength : BitVec 32 := 0
  deriving Repr, DecidableEq

namespace Header

def toBytes (h : Header) : QueryClass → List UInt8
  | .query => leBytes 4 h.length.toNat ++ leBytes 2 h.opCode.toNat ++ leBytes 8 h.queryId.toNat
  | .configQuery => leBytes 4 h.length.toNat ++ leBytes 2 h.opCode.toNat ++
      leBytes 8 h.queryId.toNat ++ leBytes 4 h.configLength.toNat

@[simp] theorem length_toBytes (h : Header) (cls : QueryClass) :
    (h.toBytes cls).length = cls.sizeof := by
  cases cls <;> simp [toBytes]

end Header

theorem leSigned_ofInt {k : Nat} (hk : 0 < k) {v : Int} (h₁ : -2 ^ (8 * k - 1) ≤ v)
    (h₂ : v < 2 ^ (8 * k - 1)) : leSigned (leBytes k (BitVec.ofInt (8 * k) v).toNat) = v := by
  rw [BitVec.toNat_ofInt]
  push_cast
  exact leSigned_leBytes hk h₁ h₂

theorem leSigned_toNat {k : Nat} (hk : 0 < k) (x : BitVec (8 * k)) :
    leSigned (leBytes k x.toNat) = x.toInt := by
  have hx : x.toNat < 256 ^ k := by
    rw [show 256 ^ k = 2 ^ (8 * k) by rw [pow_mul]; norm_num]; exact x.isLt
  have hsplit : 2 ^ (8 * k) = 2 * 2 ^ (8 * k - 1) := by rw [← pow_succ']; congr 1; omega
  have hI : (2 : Int) ^ (8 * k) = 2 * ((2 ^ (8 * k - 1) : Nat) : Int) := by
    rw [← Nat.cast_ofNat, ← Nat.cast_pow, hsplit]; push_cast; rfl
  have hI' : (2 : Int) ^ (8 * k - 1) = ((2 ^ (8 * k - 1) : Nat) : Int) := by push_cast; rfl
  rw [leSigned, length_leBytes, leValue_leBytes_of_lt hx, BitVec.toInt_eq_toNat_cond, hI, hI',
    hsplit]
  split_ifs <;> push_cast <;> omega

end PyIgnite
